import Mathlib.Data.List.TakeWhile
import Stencil.Proofs.Script.Parsing

/-!
# The last line of a program

The program of a template ends with the line which tells that it has been loaded. Whatever the
template has put into the program before, even a text or a bracket that is not closed, or an escaped
line feed: if the program can be read at all, then this line is its last statement, and it stands in
no block.

* `Reading.Sound`: what holds at every place of every program that is read.
* `Reading.Sound.rests`: two line feeds end whatever a program can end in the midst of.
* `Nesting.enter_zero`: a line at the margin stands in no block.
* `parse_completes`: the last statement of the program of a template.
-/

namespace Stencil.Script

open Program

namespace Mode

/-- Whether a reading stands before the first token of a line. -/
def isBlank : Mode → Bool
  | margin _ | innerMargin _ | comment false | continued (some _) | resumed (some _) => true
  | _ => false

/-- The quote that ends the text in which a reading stands. -/
def quote? : Mode → Option Char
  | text q _ | escape q _ | hexadecimal q .. | octal q .. => some q
  | _ => none

end Mode

namespace Reading

/-- What holds of a reading wherever it stands: an indentation that is open is wider than none,
before the first token of a line there is no token of that line and no open bracket, and no line
feed is a quote. -/
structure Sound (r : Reading) : Prop where
  indents : ∀ i ∈ r.indents, 0 < i.wide
  blank : r.mode.isBlank = true → r.lexemes = [] ∧ r.brackets = []
  quote : r.mode.quote? ≠ some '\n'

namespace Sound

variable {r r' : Reading}

theorem within (h : r.Sound) (hIndents : r'.indents = r.indents) (hMode : r'.mode.isBlank = false)
    (hQuote : r'.mode.quote? ≠ some '\n') : r'.Sound := by
  refine ⟨hIndents ▸ h.indents, ?_, hQuote⟩
  rw [hMode]
  exact fun hBlank => absurd hBlank Bool.false_ne_true

theorem at_margin (h : r.Sound) (hIndents : r'.indents = r.indents) (hLexemes : r'.lexemes = [])
    (hBrackets : r'.brackets = []) (hQuote : r'.mode.quote? ≠ some '\n') : r'.Sound :=
  ⟨hIndents ▸ h.indents, fun _ => ⟨hLexemes, hBrackets⟩, hQuote⟩

theorem newline (h : r.Sound) : r.newline.Sound := by
  unfold Reading.newline
  split
  case isTrue => exact h.within rfl rfl nofun
  case isFalse hBrackets => exact h.at_margin rfl rfl (not_not.mp hBrackets) nofun

theorem push (h : r.Sound) (t : Token) : (r.push t).Sound := h.within rfl rfl nofun

theorem fail (h : r.Sound) : r.fail.Sound := h.within rfl rfl nofun

theorem pushSymbol (h : r.Sound) (s : Symbol) : (r.pushSymbol s).Sound := by
  unfold Reading.pushSymbol
  repeat' split
  all_goals first
    | exact h.fail
    | exact h.within rfl rfl nofun

theorem endSymbol (h : r.Sound) (read : List Char) : (r.endSymbol read).Sound := by
  unfold Reading.endSymbol
  split
  · exact h.pushSymbol _
  · exact h.fail

theorem endNumber (h : r.Sound) (read : List Char) : (r.endNumber read).Sound := by
  unfold Reading.endNumber
  split
  · exact h.push _
  · exact h.fail

theorem startToken (h : r.Sound) (c : Char) : (r.startToken c).Sound := by
  have hRow : ({ r with tokenRow := r.row } : Reading).Sound := ⟨h.indents, h.blank, h.quote⟩
  unfold Reading.startToken
  dsimp only
  split
  · exact h.within rfl rfl nofun
  split
  · exact hRow.newline
  split
  · exact h.within rfl rfl nofun
  split
  · exact h.within rfl rfl nofun
  split
  case isTrue hQuote =>
    refine h.within rfl rfl fun hEq => ?_
    rw [Option.some.inj hEq] at hQuote
    exact absurd hQuote (by decide)
  repeat' split
  all_goals first
    | exact hRow.endSymbol _
    | exact h.within rfl rfl nofun

theorem startLine (h : r.Sound) (i : Indentation) : (r.startLine i).Sound := by
  unfold Reading.startLine
  dsimp only
  split
  case isTrue hWider =>
    split
    · refine ⟨?_, h.blank, h.quote⟩
      intro j hj
      rcases List.mem_cons.mp hj with rfl | hj
      · exact Nat.lt_of_le_of_lt (Nat.zero_le _) hWider
      · exact h.indents j hj
    · exact h.within rfl rfl nofun
  · split
    · refine ⟨?_, h.blank, h.quote⟩
      intro j hj
      exact h.indents j (List.dropWhile_sublist _ |>.subset hj)
    · exact h.within rfl rfl nofun

theorem endMargin (h : r.Sound) (hBlank : r.lexemes = [] ∧ r.brackets = []) (i : Indentation)
    (c : Char) : (r.endMargin i c).Sound := by
  unfold Reading.endMargin
  split
  · exact h.at_margin rfl hBlank.1 hBlank.2 nofun
  split
  · exact h.at_margin rfl hBlank.1 hBlank.2 nofun
  split
  · exact h.at_margin rfl hBlank.1 hBlank.2 nofun
  dsimp only
  split
  · exact h.startLine i
  · exact (h.startLine i).startToken c

theorem takeMargin (h : r.Sound) (hBlank : r.lexemes = [] ∧ r.brackets = []) (i : Indentation)
    (c : Char) : (r.takeMargin i c).Sound := by
  unfold Reading.takeMargin
  split
  · exact h.at_margin rfl hBlank.1 hBlank.2 nofun
  · exact h.endMargin hBlank i c

theorem takeInnerMargin (h : r.Sound) (hBlank : r.lexemes = [] ∧ r.brackets = [])
    (i : Indentation) (c : Char) : (r.takeInnerMargin i c).Sound := by
  unfold Reading.takeInnerMargin
  split
  · exact h.takeMargin hBlank i c
  split
  · exact h.at_margin rfl hBlank.1 hBlank.2 nofun
  · exact h.endMargin hBlank i c

theorem takeText {quote : Char} (h : r.Sound) (hQuote : quote ≠ '\n') (read : List Char)
    (c : Char) :
    (r.takeText quote read c).Sound := by
  unfold Reading.takeText
  repeat' split
  all_goals first
    | exact h.within rfl rfl fun hEq => hQuote (Option.some.inj hEq)
    | exact h.within rfl rfl nofun

theorem takeEscape {quote : Char} (h : r.Sound) (hQuote : quote ≠ '\n') (read : List Char)
    (c : Char) :
    (r.takeEscape quote read c).Sound := by
  unfold Reading.takeEscape
  repeat' split
  all_goals first
    | exact h.within rfl rfl fun hEq => hQuote (Option.some.inj hEq)
    | exact h.within rfl rfl nofun

theorem step (h : r.Sound) (c : Char) : (r.step c).Sound := by
  have hBlank : r.mode.isBlank = true → r.lexemes = [] ∧ r.brackets = [] := h.blank
  have hQuote : r.mode.quote? ≠ some '\n' := h.quote
  unfold Reading.step
  split
  all_goals rename_i hMode; rw [hMode] at hBlank hQuote
  case h_1 => exact h
  case h_2 => exact h.takeMargin (hBlank rfl) _ c
  case h_3 => exact h.takeInnerMargin (hBlank rfl) _ c
  case h_4 => exact h.startToken c
  case h_5 inLine =>
    split
    · exact h
    split
    · exact h.newline
    · rename_i hLine
      obtain rfl : inLine = false := by simpa using hLine
      exact h.at_margin rfl (hBlank rfl).1 (hBlank rfl).2 nofun
  case h_6 margin? =>
    split
    · cases margin? with
      | none => exact h.within rfl rfl nofun
      | some i => exact h.at_margin rfl (hBlank rfl).1 (hBlank rfl).2 nofun
    · exact h.within rfl rfl nofun
  case h_7 => exact h.startToken c
  case h_8 => exact h.takeInnerMargin (hBlank rfl) _ c
  case h_9 =>
    split
    · exact h.within rfl rfl nofun
    · exact (h.push _).startToken c
  case h_10 read =>
    split
    · exact h.within rfl rfl nofun
    dsimp only
    split
    · exact h.endNumber _
    · exact (h.endNumber _).startToken c
  case h_11 read =>
    split
    · exact h.within rfl rfl nofun
    split
    · exact h.within rfl rfl nofun
    dsimp only
    split
    · exact h.endSymbol _
    · exact (h.endSymbol _).startToken c
  case h_12 => exact h.takeText (fun hEq => hQuote (congrArg some hEq)) _ c
  case h_13 => exact h.takeEscape (fun hEq => hQuote (congrArg some hEq)) _ c
  case h_14 =>
    split
    · exact h.fail
    dsimp only
    split
    · exact h.within rfl rfl hQuote
    split
    · exact h.fail
    · exact h.within rfl rfl hQuote
  case h_15 =>
    split
    · exact h.within rfl rfl hQuote
    · exact h.takeText (fun hEq => hQuote (congrArg some hEq)) _ c

end Sound

/-! ## Line feeds -/

/-- Whether a reading has stopped, stands at the start of a line, or goes on within a bracket. -/
inductive Rests (r : Reading) : Prop
  | stopped (fault : ReadFault) (hMode : r.mode = .stopped fault)
  | margin (hMode : r.mode = .margin ⟨0, 0⟩) (hLexemes : r.lexemes = [])
      (hBrackets : r.brackets = [])
  | bracket (hMode : r.mode = .between) (hBrackets : r.brackets ≠ [])

/-- Whether a reading rests, or has come over an escaped line feed. -/
inductive Pauses (r : Reading) : Prop
  | rests (h : r.Rests)
  | text (quote : Char) (read : List Char) (hMode : r.mode = .text quote read)
  | resumed (margin? : Option Indentation) (hMode : r.mode = .resumed margin?)

variable {r : Reading}

theorem rests_newline (r : Reading) : r.newline.Rests := by
  unfold newline
  split
  case isTrue hBrackets => exact .bracket rfl hBrackets
  case isFalse hBrackets => exact .margin rfl rfl (not_not.mp hBrackets)

theorem rests_startToken (r : Reading) : (r.startToken '\n').Rests := rests_newline _

theorem rests_takeText {quote : Char} (hQuote : quote ≠ '\n') (read : List Char) (r : Reading) :
    (r.takeText quote read '\n').Rests := by
  unfold takeText
  rw [if_neg (Ne.symm hQuote)]
  exact .stopped _ rfl

theorem rests_takeInnerMargin (hLexemes : r.lexemes = []) (hBrackets : r.brackets = [])
    (i : Indentation) : (r.takeInnerMargin i '\n').Rests := by
  unfold takeInnerMargin
  split
  · exact .margin rfl hLexemes hBrackets
  · exact .margin rfl hLexemes hBrackets

/-- No symbol has a line feed in it, so a line feed ends the symbol before it. -/
theorem not_extendsSymbol (read : List Char) :
    ¬ (Symbol.longer ('\n' :: read).reverse ||
      (Symbol.ofSpelling? ('\n' :: read).reverse).isSome) = true := by
  have hTable : ∀ e ∈ Symbol.table, '\n' ∉ e.1 := by decide
  have hMem : '\n' ∈ ('\n' :: read).reverse := List.mem_reverse.mpr List.mem_cons_self
  rw [Bool.or_eq_true, not_or]
  constructor
  · intro hLonger
    obtain ⟨e, he, hPrefix⟩ := List.any_eq_true.mp hLonger
    have hPrefix : ('\n' :: read).reverse <+: e.1 :=
      List.isPrefixOf_iff_prefix.mp (Bool.and_eq_true_iff.mp hPrefix).1
    exact hTable e he (hPrefix.subset hMem)
  · intro hSome
    obtain ⟨symbol, hLookup⟩ := Option.isSome_iff_exists.mp hSome
    obtain ⟨first, rest, hSplit, -⟩ := List.lookup_eq_some_iff.mp hLookup
    refine hTable (_, symbol) ?_ hMem
    rw [hSplit]
    exact List.mem_append_right first List.mem_cons_self

/-- A line feed that is not escaped ends a line, unless a bracket is open. -/
theorem Sound.pauses (h : r.Sound) : (r.step '\n').Pauses := by
  have hBlank : r.mode.isBlank = true → r.lexemes = [] ∧ r.brackets = [] := h.blank
  have hQuote : r.mode.quote? ≠ some '\n' := h.quote
  unfold Reading.step
  split
  all_goals rename_i hMode; rw [hMode] at hBlank hQuote
  case h_1 => exact .rests (.stopped _ hMode)
  case h_2 => exact .rests (.margin rfl (hBlank rfl).1 (hBlank rfl).2)
  case h_3 => exact .rests (rests_takeInnerMargin (hBlank rfl).1 (hBlank rfl).2 _)
  case h_4 => exact .rests (rests_startToken r)
  case h_5 inLine =>
    rw [if_neg (not_not.mpr rfl)]
    split
    · exact .rests (rests_newline r)
    · rename_i hLine
      obtain rfl : inLine = false := by simpa using hLine
      exact .rests (.margin rfl (hBlank rfl).1 (hBlank rfl).2)
  case h_6 margin? => exact .resumed margin? rfl
  case h_7 => exact .rests (rests_startToken r)
  case h_8 => exact .rests (rests_takeInnerMargin (hBlank rfl).1 (hBlank rfl).2 _)
  case h_9 => exact .rests (rests_startToken _)
  case h_10 read =>
    have hEnds : ¬ extendsNumber read '\n' = true := Bool.false_ne_true
    rw [if_neg hEnds]
    dsimp only
    split
    case h_1 fault hStopped => exact .rests (.stopped fault hStopped)
    case h_2 => exact .rests (rests_startToken _)
  case h_11 read =>
    have hDigit : ¬ (read = ['.'] ∧ '\n'.isDigit = true) := fun h => Bool.false_ne_true h.2
    rw [if_neg hDigit, if_neg (not_extendsSymbol read)]
    dsimp only
    split
    case h_1 fault hStopped => exact .rests (.stopped fault hStopped)
    case h_2 => exact .rests (rests_startToken _)
  case h_12 => exact .rests (rests_takeText (fun hEq => hQuote (congrArg some hEq)) _ r)
  case h_13 => exact .text _ _ rfl
  case h_14 => exact .rests (.stopped _ rfl)
  case h_15 => exact .rests (rests_takeText (fun hEq => hQuote (congrArg some hEq)) _ r)

/-- After an escaped line feed comes one that is not. -/
theorem Sound.rests (h : r.Sound) (hPauses : r.Pauses) : (r.step '\n').Rests := by
  have hBlank : r.mode.isBlank = true → r.lexemes = [] ∧ r.brackets = [] := h.blank
  have hQuote : r.mode.quote? ≠ some '\n' := h.quote
  unfold Reading.step
  cases hPauses with
  | rests hRests =>
    cases hRests with
    | stopped fault hMode =>
      rw [hMode]
      exact .stopped fault hMode
    | margin hMode hLexemes hBrackets =>
      rw [hMode]
      exact .margin rfl hLexemes hBrackets
    | bracket hMode hBrackets =>
      rw [hMode]
      exact rests_startToken r
  | text quote read hMode =>
    rw [hMode] at hQuote ⊢
    exact rests_takeText (fun hEq => hQuote (congrArg some hEq)) _ r
  | resumed margin? hMode =>
    rw [hMode] at hBlank ⊢
    cases margin? with
    | none => exact rests_startToken r
    | some i => exact rests_takeInnerMargin (hBlank rfl).1 (hBlank rfl).2 i

theorem sound_initial : initial.Sound := ⟨nofun, fun _ => ⟨rfl, rfl⟩, nofun⟩

theorem Sound.run (h : r.Sound) (s : List Char) : (r.run s).Sound := by
  induction s generalizing r with
  | nil => exact h
  | cons c s ih => exact ih (h.step c)

theorem run_stopped {fault : ReadFault} (hMode : r.mode = .stopped fault) (s : List Char) :
    r.run s = r := by
  have hStep (c : Char) : r.step c = r := by rw [Reading.step, hMode]
  induction s with
  | nil => rfl
  | cons c s ih => rw [run_cons, hStep, ih]

/-! ## The last line of a program -/

theorem Sound.startLine_zero (h : r.Sound) :
    r.startLine ⟨0, 0⟩ = { r with start := r.row, indents := [] } := by
  have hNone : ¬ (r.indents.headD ⟨0, 0⟩).wide < 0 := Nat.not_lt_zero _
  have hClosed : closeIndents ⟨0, 0⟩ r.indents = [] := by
    rw [closeIndents, List.dropWhile_eq_nil_iff]
    exact fun i hi => decide_eq_true (h.indents i hi)
  unfold Reading.startLine
  dsimp only
  rw [if_neg hNone, hClosed]
  exact if_pos rfl

end Reading

/-- The line of a program which tells that it has been loaded. -/
def flagLine : List Char := programText ["_compiled = True"]

def flagLogical (row : Nat) : LogicalLine :=
  logicalLine 0 row [.name "_compiled", .symbol .assign, .keyword .true]

theorem epilogue_eq :
    epilogue = programText ["    return \"\".join(_out)"] ++ ['\n', '\n'] ++ flagLine := by
  rw [epilogue, epilogueLines, flagLine]
  simp only [programText, List.flatMap_cons, List.flatMap_nil, List.append_nil]
  rfl

namespace Reading

variable {r : Reading}

theorem Sound.run_flagLine (h : r.Sound) (hRests : r.Rests) :
    (r.run flagLine).ending.fault ≠ none ∨
      ∃ row, (r.run flagLine).lines = flagLogical row :: r.lines := by
  cases hRests with
  | stopped fault hMode =>
    left
    rw [run_stopped hMode, Ending.fault, Reading.ending, hMode]
    cases fault <;> exact Option.some_ne_none _
  | margin hMode hLexemes hBrackets =>
    right
    refine ⟨r.row, ?_⟩
    have hFirst : r.step '_' =
        { r with start := r.row, indents := [], tokenRow := r.row, mode := .word ['_'] } := by
      rw [Reading.step, hMode]
      show Reading.endMargin ⟨0, 0⟩ r '_' = _
      unfold Reading.endMargin
      rw [h.startLine_zero, hMode]
      rfl
    have hRest (lines : List LogicalLine) (row : Nat) :
        ((⟨lines, [], row, [], [], row, row, .word ['_']⟩ : Reading).run
          ("compiled = True\n".toList)).lines = flagLogical row :: lines := rfl
    have hLine : flagLine = '_' :: "compiled = True\n".toList := by decide +kernel
    rw [hLine, run_cons, hFirst, hLexemes, hBrackets]
    exact hRest r.lines r.row
  | bracket hMode hBrackets =>
    left
    obtain ⟨lines, lexemes, start, indents, brackets, row, tokenRow, mode⟩ := r
    obtain rfl : mode = .between := hMode
    cases brackets with
    | nil => exact absurd rfl hBrackets
    | cons bracket outer =>
      have hRun : (⟨lines, lexemes, start, indents, bracket :: outer, row, tokenRow, .between⟩ :
          Reading).run flagLine = ⟨lines, (flagLogical row).lexemes.reverse ++ lexemes, start,
            indents, bracket :: outer, row + 1, row, .between⟩ := rfl
      rw [hRun]
      exact Option.some_ne_none _

/-- A program that can be read to its end tells at last that it has been loaded. -/
theorem run_epilogue_cases (h : r.Sound) :
    (r.run epilogue).ending.fault ≠ none ∨
      ∃ row lines, (r.run epilogue).lines = flagLogical row :: lines := by
  rw [epilogue_eq, run_append, run_append]
  generalize hLine : r.run (programText ["    return \"\".join(_out)"]) = line
  have hLine : line.Sound := hLine ▸ h.run _
  have hRests : (line.run ['\n', '\n']).Rests := (hLine.step '\n').rests hLine.pauses
  rcases (hLine.run _).run_flagLine hRests with hFault | ⟨row, hLines⟩
  · exact .inl hFault
  · exact .inr ⟨row, _, hLines⟩

end Reading

theorem unifyLines_append (s : List Char) {t : List Char} (h : t.head? ≠ some '\n') :
    unifyLines (s ++ t) = unifyLines s ++ unifyLines t := by
  induction s using unifyLines.induct with
  | case1 => rfl
  | case2 s ih =>
    show '\n' :: unifyLines (s ++ t) = _
    rw [ih]
    rfl
  | case3 s hNext ih =>
    have hNext' : ∀ s', s ++ t = '\n' :: s' → False := by
      intro s' hEq
      cases s with
      | nil =>
        rw [List.nil_append] at hEq
        exact h (by rw [hEq]; rfl)
      | cons c s =>
        obtain ⟨rfl, -⟩ := List.cons.inj hEq
        exact hNext s rfl
    rw [List.cons_append, unifyLines, ih]
    · rw [unifyLines]
      · rfl
      · exact hNext
    · exact hNext'
  | case4 c s hPair hReturn ih =>
    have hPair' : ∀ s', c = '\r' → s ++ t = '\n' :: s' → False := fun _ hc => absurd hc hReturn
    rw [List.cons_append, unifyLines, ih, unifyLines]
    · rfl
    · exact hPair
    · exact hReturn
    · exact hPair'
    · exact hReturn

theorem text_append_epilogue (s : List Char) :
    endLine (unifyLines (s ++ epilogue)) = unifyLines s ++ epilogue := by
  have hHead : epilogue.head? ≠ some '\n' := by decide +kernel
  have hLast : (unifyLines s ++ epilogue).getLast? = some '\n' := by
    rw [List.getLast?_append, getLast?_epilogue]
    rfl
  rw [unifyLines_append s hHead, unifyLines_of_clean clean_epilogue, endLine, if_pos hLast]

namespace Nesting

theorem outer_of_closeTo {l l' : Level} {outer outer' : List (Slot × Level)}
    (h : closeTo 0 l outer = some (l', outer')) : outer' = [] := by
  induction outer generalizing l with
  | nil =>
    cases h
    rfl
  | cons p outer ih =>
    rw [closeTo, if_neg (Nat.not_succ_le_zero _)] at h
    obtain ⟨inner, -, hRest⟩ := Option.bind_eq_some_iff.mp h
    exact ih hRest

/-- A line without an indentation closes all blocks. -/
theorem enter_zero {line : Nat} {n n' : Nesting} (h : n.enter 0 line = .ok n') :
    ∃ l, n' = ⟨l, [], false⟩ := by
  unfold enter at h
  split at h
  · split at h
    case isTrue hDepth =>
      cases h
      exact ⟨n.current, by rw [List.length_eq_zero_iff.mp hDepth.symm]⟩
    case isFalse => cases h
  split at h
  · cases h
  split at h
  case h_1 current outer hClose =>
    cases h
    exact ⟨current, by rw [outer_of_closeTo hClose]⟩
  case h_2 => cases h

theorem clause_flagLogical (row : Nat) :
    (flagLogical row).clause = .ok (.simple [compiledStmt row]) := rfl

theorem take_flagLogical {n n' : Nesting} {row : Nat} (h : n.take (flagLogical row) = .ok n') :
    ∃ before, n' = ⟨⟨compiledStmt row :: before, none⟩, [], false⟩ := by
  rw [take_eq] at h
  cases hEnter : n.enter (flagLogical row).depth (flagLogical row).line with
  | error f =>
    rw [hEnter] at h
    cases h
  | ok n₁ =>
    rw [hEnter, Except.bind, clause_flagLogical] at h
    obtain ⟨l, rfl⟩ := enter_zero hEnter
    unfold add at h
    dsimp only at h
    cases hSettle : l.settle? with
    | none =>
      rw [hSettle] at h
      cases h
    | some settled =>
      rw [hSettle] at h
      cases h
      have hNone : settled.unfinished? = none := by
        unfold Level.settle? at hSettle
        split at hSettle
        · cases hSettle
          assumption
        · obtain ⟨s, -, rfl⟩ := Option.map_eq_some_iff.mp hSettle
          rfl
      exact ⟨settled.statements, by rw [Level.push, hNone]; rfl⟩

theorem takeAll_flagLogical {lines : List LogicalLine} {n n' : Nesting} {row : Nat}
    (h : n.takeAll (lines ++ [flagLogical row]) = .ok n') :
    ∃ before, n' = ⟨⟨compiledStmt row :: before, none⟩, [], false⟩ := by
  rw [takeAll_append] at h
  cases hBefore : n.takeAll lines with
  | error f =>
    rw [hBefore] at h
    cases h
  | ok n₁ =>
    rw [hBefore, Except.bind, takeAll_cons] at h
    cases hTake : n₁.take (flagLogical row) with
    | error f =>
      rw [hTake] at h
      cases h
    | ok n₂ =>
      rw [hTake] at h
      cases h
      exact take_flagLogical hTake

theorem finish_flagged (line row : Nat) (before : List Stmt) :
    finish line ⟨⟨compiledStmt row :: before, none⟩, [], false⟩ =
      .ok (before.reverse ++ [compiledStmt row]) := by
  show Except.ok (compiledStmt row :: before).reverse = _
  rw [List.reverse_cons]

end Nesting

/-- The statements of a program of a template end with the one that tells that it has been
loaded. -/
theorem parse_completes {program : List Char} {stmts : List Stmt}
    (h : parse (program ++ epilogue) = .ok stmts) :
    (∃ row init, stmts = init ++ [compiledStmt row]) ∧ misplaced? stmts = none := by
  unfold parse readLines at h
  rw [text_append_epilogue, Reading.run_append] at h
  generalize hRead : Reading.initial.run (unifyLines program) = r at h
  have hSound : r.Sound := hRead ▸ Reading.sound_initial.run _
  dsimp only at h
  generalize hLast : r.run epilogue = last at h
  have hCases := Reading.run_epilogue_cases hSound
  rw [hLast] at hCases
  cases hTake : Nesting.start.takeAll last.lines.reverse with
  | error f =>
    rw [hTake] at h
    cases h
  | ok n =>
    rw [hTake] at h
    simp only [Except.mapError, ok_bind] at h
    split at h
    · cases h
    split at h
    · cases h
    case h_2 hFault =>
      obtain ⟨row, lines, hLines⟩ := hCases.resolve_left (not_not.mpr hFault)
      rw [hLines, List.reverse_cons] at hTake
      obtain ⟨before, rfl⟩ := Nesting.takeAll_flagLogical hTake
      rw [Nesting.finish_flagged] at h
      simp only [ok_bind] at h
      split at h
      case h_1 => cases h
      case h_2 hPlaced =>
        cases h
        exact ⟨⟨row, before.reverse, rfl⟩, hPlaced⟩

end Stencil.Script
