import Stencil.Proofs.Program.Emission
import Stencil.Script.LogicalLine

/-!
# Reading what a layout has written

The text of a body is read into logical lines. A literal is read back as the text it was written
for, so a statement of a template that only substitutes becomes the four tokens of a call, whatever
its text is. Statements on one line of the program become one logical line.

* `Reading.run_escapeLiteral`: a literal is read back.
* `callLexemes`, `lineLexemes`: the tokens of a call, and of the calls on a line.
* `Reading.run_typeset`: the logical lines of a body.
-/

namespace Stencil.Script

open Text Program

namespace Reading

theorem run_cons (r : Reading) (c : Char) (s : List Char) : r.run (c :: s) = (r.step c).run s := rfl

/-! ## Quoted texts -/

/-- An escaped character is read as the character. -/
theorem run_escapeChar (r : Reading) (read : List Char) (c : Char) :
    ({ r with mode := .text '\'' read } : Reading).run (escapeChar c) =
      { r with mode := .text '\'' (c :: read) } := by
  cases c using escapeChar_cases with
  | slash | quote | lineFeed | carriageReturn | null => rfl
  | other c hSlash hQuote hFeed _ _ hEq =>
    rw [hEq]
    show takeText '\'' read c _ = _
    unfold takeText
    rw [if_neg hQuote, if_neg hSlash, if_neg hFeed]

theorem run_flatMap_escapeChar (r : Reading) (read text : List Char) :
    ({ r with mode := .text '\'' read } : Reading).run (text.flatMap escapeChar) =
      { r with mode := .text '\'' (text.reverse ++ read) } := by
  induction text generalizing read with
  | nil => rfl
  | cons c text ih =>
    rw [List.flatMap_cons, run_append, run_escapeChar, ih, List.reverse_cons, List.append_assoc]
    rfl

/-- Characters that mean themselves within quotes are read as they are. -/
theorem run_verbatim (r : Reading) (quote : Char) (read : List Char) {s : List Char}
    (h : ∀ c ∈ s, c ≠ quote ∧ c ≠ '\\' ∧ c ≠ '\n') :
    ({ r with mode := .text quote read } : Reading).run s =
      { r with mode := .text quote (s.reverse ++ read) } := by
  induction s generalizing read with
  | nil => rfl
  | cons c s ih =>
    obtain ⟨hQuote, hSlash, hFeed⟩ := h c List.mem_cons_self
    have hStep : ({ r with mode := .text quote read } : Reading).step c =
        { r with mode := .text quote (c :: read) } := by
      show takeText quote read c _ = _
      unfold takeText
      rw [if_neg hQuote, if_neg hSlash, if_neg hFeed]
    rw [run_cons, hStep, ih (c :: read) fun d hd => h d (List.mem_cons_of_mem c hd),
      List.reverse_cons, List.append_assoc]
    rfl

/-- **A literal is read back as the text it was written for.** -/
theorem run_escapeLiteral {r : Reading} (hMode : r.mode = .between) (text : List Char) :
    r.run (escapeLiteral text) =
      { r with lexemes := ⟨.text text, r.row⟩ :: r.lexemes, tokenRow := r.row } := by
  have hOpen : r.step '\'' = { r with tokenRow := r.row, mode := .text '\'' [] } := by
    unfold step
    rw [hMode]
    rfl
  rw [escapeLiteral, List.cons_append, run_cons, hOpen, run_append]
  rw [run_flatMap_escapeChar { r with tokenRow := r.row }]
  rw [List.append_nil]
  show push (.text text.reverse.reverse) _ = _
  rw [List.reverse_reverse, push, hMode]

end Reading

/-! ## Characters that a program cannot have -/

/-- Whether a text has no carriage return, which would end a line, and no null character, which no
program has. -/
def Clean (text : List Char) : Prop := '\r' ∉ text ∧ '\x00' ∉ text

instance (text : List Char) : Decidable (Clean text) := inferInstanceAs (Decidable (_ ∧ _))

theorem Clean.append {s t : List Char} (hs : Clean s) (ht : Clean t) : Clean (s ++ t) := by
  simp only [Clean, List.mem_append, not_or]
  exact ⟨⟨hs.1, ht.1⟩, hs.2, ht.2⟩

theorem clean_escapeChar (c : Char) : Clean (escapeChar c) := by
  cases c using escapeChar_cases with
  | slash | quote | lineFeed | carriageReturn | null => decide
  | other c _ _ _ hReturn hNull hEq =>
    simp only [hEq, Clean, List.mem_singleton]
    exact ⟨hReturn.symm, hNull.symm⟩

theorem clean_escapeLiteral (text : List Char) : Clean (escapeLiteral text) := by
  have hBody : Clean (text.flatMap escapeChar) := by
    induction text with
    | nil => decide
    | cons c text ih =>
      rw [List.flatMap_cons]
      exact (clean_escapeChar c).append ih
  have hQuote : Clean ['\''] := by decide
  exact (hQuote.append hBody).append hQuote

theorem clean_code {m : Emission} (hm : m.Sound) : Clean m.code := by
  cases m with
  | echo text =>
    have hOpen : Clean ['_', 'e', 'c', 'h', 'o', '('] := by decide
    exact (hOpen.append (clean_escapeLiteral text)).append (by decide)
  | get name =>
    have hOpen : Clean askOpening := by decide
    have hName : Clean name :=
      ⟨fun h => ne_of_isName hm h rfl (by decide) rfl, fun h => ne_of_isName hm h rfl (by decide) rfl⟩
    exact (hOpen.append hName).append (by decide)

theorem clean_lineFeeds (n : Nat) : Clean (lineFeeds n) := by
  constructor
  · intro h
    exact absurd (List.eq_of_mem_replicate h) (by decide)
  · intro h
    exact absurd (List.eq_of_mem_replicate h) (by decide)

theorem clean_typeset {previous : Option Program.Entry} {es : List Program.Entry} {text : List Char}
    (h : Typeset previous es text) {ms : List Emission} (hStands : List.Forall₂ Emission.Stands ms es)
    (hSound : ∀ m ∈ ms, m.Sound) : Clean text := by
  induction h generalizing ms with
  | blank n => exact clean_lineFeeds n
  | last d n => exact clean_lineFeeds (n + 1)
  | first n rest ih | broken n rest ih =>
    cases hStands with
    | cons hEntry hRest =>
      have hTail := ih hRest fun m hm => hSound m (List.mem_cons_of_mem _ hm)
      have hCode := clean_code (hSound _ List.mem_cons_self)
      have hIndent : Clean baseIndent := by decide
      rw [hEntry.indent, hEntry.text]
      exact (((clean_lineFeeds _).append hIndent).append hCode).append hTail
  | joined hJoin rest ih =>
    cases hStands with
    | cons hEntry hRest =>
      have hTail := ih hRest fun m hm => hSound m (List.mem_cons_of_mem _ hm)
      have hCode := clean_code (hSound _ List.mem_cons_self)
      have hJoiner : Clean Placed.joiner := by decide
      rw [hEntry.text]
      exact (hJoiner.append hCode).append hTail

/-- A text without carriage returns stays as it is, whatever comes after it. -/
theorem unifyLines_append_of_not_mem {s : List Char} (h : '\r' ∉ s) (t : List Char) :
    unifyLines (s ++ t) = s ++ unifyLines t := by
  induction s with
  | nil => rfl
  | cons c s ih =>
    have hc : c ≠ '\r' := fun hEq => h (hEq ▸ List.mem_cons_self)
    rw [List.cons_append, unifyLines, ih fun hMem => h (List.mem_cons_of_mem c hMem)]
    · rfl
    · intro rest hEq
      exact absurd hEq hc
    · exact hc

theorem unifyLines_of_clean {text : List Char} (h : Clean text) : unifyLines text = text := by
  have hText := unifyLines_append_of_not_mem h.1 []
  rwa [List.append_nil, unifyLines, List.append_nil] at hText

/-! ## Calls -/

/-- The tokens of an emission. -/
def callLexemes (row : Nat) (m : Emission) : List Lexeme :=
  [⟨.name m.function, row⟩, ⟨.symbol .leftParen, row⟩, ⟨.text m.argument, row⟩,
    ⟨.symbol .rightParen, row⟩]

/-- The tokens of some emissions on one line. -/
def lineLexemes (row : Nat) : List Emission → List Lexeme
  | [] => []
  | [m] => callLexemes row m
  | m :: next :: ms => callLexemes row m ++ ⟨.symbol .semicolon, row⟩ :: lineLexemes row (next :: ms)

theorem lineLexemes_concat (row : Nat) (m : Emission) {ms : List Emission} (h : ms ≠ []) :
    lineLexemes row (ms ++ [m]) =
      lineLexemes row ms ++ ⟨.symbol .semicolon, row⟩ :: callLexemes row m := by
  induction ms with
  | nil => exact absurd rfl h
  | cons first ms ih =>
    cases ms with
    | nil => rfl
    | cons next ms =>
      show callLexemes row first ++ _ :: lineLexemes row (next :: ms ++ [m]) = _
      rw [ih (List.cons_ne_nil next ms), lineLexemes, List.append_assoc]
      rfl

/-- The logical lines of some emissions, in the body of a function. -/
inductive Says : List LogicalLine → List Emission → Prop
  | nothing : Says [] []
  | line {lines : List LogicalLine} {ms : List Emission} (row : Nat) (first : List Emission)
      (hFirst : first ≠ []) (rest : Says lines ms) :
      Says (⟨1, row, row, lineLexemes row first⟩ :: lines) (first ++ ms)

namespace Reading

/-- The code of an emission is read as its four tokens. -/
theorem run_code {r : Reading} (hMode : r.mode = .between) (hBrackets : r.brackets = [])
    {m : Emission} (hm : m.Sound) :
    r.run m.code =
      { r with lexemes := (callLexemes r.row m).reverse ++ r.lexemes, tokenRow := r.row } := by
  obtain ⟨lines, lexemes, start, indents, brackets, row, tokenRow, mode⟩ := r
  obtain rfl : mode = .between := hMode
  obtain rfl : brackets = [] := hBrackets
  cases m with
  | echo text =>
    have hOpen : (⟨lines, lexemes, start, indents, [], row, tokenRow, .between⟩ : Reading).run
        ['_', 'e', 'c', 'h', 'o', '('] =
          ⟨lines, ⟨.symbol .leftParen, row⟩ :: ⟨.name "_echo", row⟩ :: lexemes, start, indents,
            [(.rightParen, row)], row, row, .between⟩ := rfl
    show run _ (['_', 'e', 'c', 'h', 'o', '('] ++ escapeLiteral text ++ [')']) = _
    rw [run_append, run_append, hOpen, run_escapeLiteral rfl]
    rfl
  | get name =>
    have hOpen : (⟨lines, lexemes, start, indents, [], row, tokenRow, .between⟩ : Reading).run
        askOpening =
          ⟨lines, ⟨.symbol .leftParen, row⟩ :: ⟨.name "_get", row⟩ :: lexemes, start, indents,
            [(.rightParen, row)], row, row, .text '"' []⟩ := rfl
    have hPlain : ∀ c ∈ name, c ≠ '"' ∧ c ≠ '\\' ∧ c ≠ '\n' := fun c hc =>
      ⟨ne_of_isName hm hc rfl (by decide), ne_of_isName hm hc rfl (by decide),
        ne_of_isName hm hc rfl (by decide)⟩
    have hName := run_verbatim ⟨lines, ⟨.symbol .leftParen, row⟩ :: ⟨.name "_get", row⟩ :: lexemes,
      start, indents, [(.rightParen, row)], row, row, .text '"' []⟩ '"' [] hPlain
    have hClose : ∀ read : List Char, (⟨lines, ⟨.symbol .leftParen, row⟩ :: ⟨.name "_get", row⟩ ::
        lexemes, start, indents, [(.rightParen, row)], row, row, .text '"' read⟩ : Reading).run
          askClosing =
        ⟨lines, ⟨.symbol .rightParen, row⟩ :: ⟨.text read.reverse, row⟩ ::
          ⟨.symbol .leftParen, row⟩ :: ⟨.name "_get", row⟩ :: lexemes, start, indents, [], row, row,
          .between⟩ := fun _ => rfl
    show run _ (askOpening ++ name ++ askClosing) = _
    rw [run_append, run_append, hOpen, hName]
    simp only [hClose, List.append_nil, List.reverse_reverse]
    rfl

/-- A reading at the start of a line of the entry point, with no line begun. -/
structure AtMargin (r : Reading) : Prop where
  lexemes : r.lexemes = []
  brackets : r.brackets = []
  mode : r.mode = .margin ⟨0, 0⟩
  indents : r.indents = [⟨8, 8⟩, ⟨4, 4⟩] ∨ r.indents = [⟨4, 4⟩]

/-- A reading after some emissions on a line. -/
structure After (r : Reading) (ms : List Emission) : Prop where
  some : ms ≠ []
  lexemes : r.lexemes.reverse = lineLexemes r.row ms
  start : r.start = r.row
  brackets : r.brackets = []
  mode : r.mode = .between
  indents : r.indents = [⟨4, 4⟩]

theorem AtMargin.run_lineFeeds {r : Reading} (h : r.AtMargin) (n : Nat) :
    r.run (lineFeeds n) = { r with row := r.row + n } := by
  obtain ⟨lines, lexemes, start, indents, brackets, row, tokenRow, mode⟩ := r
  obtain rfl : mode = .margin ⟨0, 0⟩ := h.mode
  induction n generalizing row with
  | zero => rfl
  | succ n ih =>
    have hNext : (⟨lines, lexemes, start, indents, brackets, row + 1, tokenRow, .margin ⟨0, 0⟩⟩ :
        Reading).AtMargin := ⟨h.lexemes, h.brackets, rfl, h.indents⟩
    have hStep : (⟨lines, lexemes, start, indents, brackets, row, tokenRow, .margin ⟨0, 0⟩⟩ :
        Reading).step '\n' =
          ⟨lines, lexemes, start, indents, brackets, row + 1, tokenRow, .margin ⟨0, 0⟩⟩ := rfl
    show run (step _ '\n') (lineFeeds n) = _
    rw [hStep, ih (row + 1) hNext, Nat.add_right_comm, Nat.add_assoc]

/-- An emission on a fresh line begins a logical line. -/
theorem AtMargin.run_indented {r : Reading} (h : r.AtMargin) {m : Emission} (hm : m.Sound) :
    (r.run (baseIndent ++ m.code)).After [m] ∧ (r.run (baseIndent ++ m.code)).lines = r.lines := by
  obtain ⟨lines, lexemes, start, indents, brackets, row, tokenRow, mode⟩ := r
  obtain rfl : mode = .margin ⟨0, 0⟩ := h.mode
  obtain rfl : lexemes = [] := h.lexemes
  obtain rfl : brackets = [] := h.brackets
  -- The first character of a statement finds the line begun.
  have hBegin : ∀ s : List Char,
      (⟨lines, [], start, indents, [], row, tokenRow, .margin ⟨0, 0⟩⟩ : Reading).run
        (baseIndent ++ '_' :: s) =
      (⟨lines, [], row, [⟨4, 4⟩], [], row, tokenRow, .between⟩ : Reading).run ('_' :: s) := by
    intro s
    rcases h.indents with hIndents | hIndents
    · obtain rfl : indents = _ := hIndents
      rfl
    · obtain rfl : indents = _ := hIndents
      rfl
  obtain ⟨s, hCode⟩ : ∃ s, m.code = '_' :: s := by
    cases m with
    | echo text => exact ⟨_, rfl⟩
    | get name => exact ⟨_, askCode_eq name⟩
  rw [hCode, hBegin s, ← hCode, run_code rfl rfl hm]
  refine ⟨⟨List.cons_ne_nil m [], ?_, rfl, rfl, rfl, rfl⟩, rfl⟩
  rw [List.append_nil, List.reverse_reverse]
  rfl

theorem After.run_joined {r : Reading} {ms : List Emission} (h : r.After ms) {m : Emission}
    (hm : m.Sound) :
    (r.run (Placed.joiner ++ m.code)).After (ms ++ [m]) ∧
      (r.run (Placed.joiner ++ m.code)).lines = r.lines := by
  obtain ⟨lines, lexemes, start, indents, brackets, row, tokenRow, mode⟩ := r
  obtain rfl : mode = .between := h.mode
  obtain rfl : brackets = [] := h.brackets
  have hJoiner : (⟨lines, lexemes, start, indents, [], row, tokenRow, .between⟩ : Reading).run
      Placed.joiner =
        ⟨lines, ⟨.symbol .semicolon, row⟩ :: lexemes, start, indents, [], row, row, .between⟩ := by
    rfl
  rw [run_append, hJoiner, run_code rfl rfl hm]
  refine ⟨⟨List.append_ne_nil_of_right_ne_nil ms (List.cons_ne_nil m []), ?_, h.start, rfl, rfl,
    h.indents⟩, rfl⟩
  have hLexemes : lexemes.reverse = lineLexemes row ms := h.lexemes
  rw [lineLexemes_concat row m h.some, List.reverse_append, List.reverse_reverse,
    List.reverse_cons, hLexemes, List.append_assoc]
  rfl

/-- The line feed after some emissions ends their logical line. -/
theorem After.step_lineFeed {r : Reading} {ms : List Emission} (h : r.After ms) :
    (r.step '\n').AtMargin ∧
      (r.step '\n').lines = ⟨1, r.row, r.row, lineLexemes r.row ms⟩ :: r.lines := by
  obtain ⟨lines, lexemes, start, indents, brackets, row, tokenRow, mode⟩ := r
  obtain rfl : mode = .between := h.mode
  obtain rfl : brackets = [] := h.brackets
  obtain rfl : indents = [⟨4, 4⟩] := h.indents
  obtain rfl : start = row := h.start
  refine ⟨⟨rfl, rfl, rfl, .inr rfl⟩, ?_⟩
  rw [← h.lexemes]
  rfl

/-- A reading of part of a body ends at the margin again, and its logical lines say what has been
emitted. -/
structure Adds (r r' : Reading) (ms : List Emission) : Prop where
  margin : r'.AtMargin
  lines : ∃ new, r'.lines = new.reverse ++ r.lines ∧ Says new ms

theorem AtMargin.adds_lineFeeds {r : Reading} (h : r.AtMargin) (n : Nat) :
    r.Adds (r.run (lineFeeds n)) [] := by
  rw [h.run_lineFeeds]
  exact ⟨⟨h.lexemes, h.brackets, h.mode, h.indents⟩, [], rfl, .nothing⟩

/-- What comes before a reading of part of a body may have added nothing. -/
theorem Adds.of_lines {r r' last : Reading} {ms : List Emission} (h : r'.Adds last ms)
    (hLines : r'.lines = r.lines) : r.Adds last ms := by
  obtain ⟨new, hNew, hSays⟩ := h.lines
  exact ⟨h.margin, new, by rw [hNew, hLines], hSays⟩

/-- An entry on a fresh line, and what follows it. -/
theorem AtMargin.adds_entry {r : Reading} (h : r.AtMargin) (n : Nat) {m : Emission} {e : Program.Entry}
    (hStands : m.Stands e) (hm : m.Sound) {text : List Char} {ms : List Emission}
    (hRest : ∀ r : Reading, r.After [m] → r.Adds (r.run text) (m :: ms)) :
    r.Adds (r.run (lineFeeds n ++ e.indent ++ e.text ++ text)) (m :: ms) := by
  rw [hStands.indent, hStands.text, List.append_assoc (lineFeeds n), run_append, run_append,
    h.run_lineFeeds]
  have hMargin : ({ r with row := r.row + n } : Reading).AtMargin :=
    ⟨h.lexemes, h.brackets, h.mode, h.indents⟩
  obtain ⟨hAfter, hLines⟩ := hMargin.run_indented hm
  exact (hRest _ hAfter).of_lines hLines

/-- The line feed after some emissions, and what follows it. -/
theorem After.adds_lineFeed {r : Reading} {first : List Emission} (h : r.After first)
    {text : List Char} {ms : List Emission}
    (hRest : ∀ r : Reading, r.AtMargin → r.Adds (r.run text) ms) :
    r.Adds (r.run ('\n' :: text)) (first ++ ms) := by
  obtain ⟨hMargin, hLines⟩ := h.step_lineFeed
  have hAdds := hRest _ hMargin
  obtain ⟨new, hNew, hSays⟩ := hAdds.lines
  refine ⟨hAdds.margin, _, ?_, .line r.row first h.some hSays⟩
  rw [run_cons, hNew, hLines, List.reverse_cons, List.append_assoc]
  rfl

/-- **The text of a body is read into logical lines that say what it emits.** -/
theorem run_typeset {previous : Option Program.Entry} {es : List Program.Entry} {text : List Char}
    (h : Typeset previous es text) {ms : List Emission} (hStands : List.Forall₂ Emission.Stands ms es)
    (hSound : ∀ m ∈ ms, m.Sound) :
    match previous with
    | none => ∀ r : Reading, r.AtMargin → r.Adds (r.run text) ms
    | some _ => ∀ (r : Reading) (first : List Emission), r.After first →
        r.Adds (r.run text) (first ++ ms) := by
  induction h generalizing ms with
  | blank n =>
    cases hStands
    intro r hr
    exact hr.adds_lineFeeds n
  | last d n =>
    cases hStands
    intro r first hr
    exact hr.adds_lineFeed fun r hr => hr.adds_lineFeeds n
  | first n rest ih =>
    cases hStands with
    | cons hEntry hRest =>
      have hTail := ih hRest fun m hm => hSound m (List.mem_cons_of_mem _ hm)
      intro r hr
      exact hr.adds_entry n hEntry (hSound _ List.mem_cons_self) fun r hr => hTail r _ hr
  | broken n rest ih =>
    cases hStands with
    | cons hEntry hRest =>
      have hTail := ih hRest fun m hm => hSound m (List.mem_cons_of_mem _ hm)
      intro r first hr
      exact hr.adds_lineFeed fun r hr =>
        hr.adds_entry n hEntry (hSound _ List.mem_cons_self) fun r hr => hTail r _ hr
  | joined hJoin rest ih =>
    cases hStands with
    | @cons m e ms es hEntry hRest =>
      have hTail := ih hRest fun m hm => hSound m (List.mem_cons_of_mem _ hm)
      intro r first hr
      obtain ⟨hAfter, hLines⟩ := hr.run_joined (hSound m List.mem_cons_self)
      have hAdds := (hTail _ _ hAfter).of_lines hLines
      rw [List.append_assoc] at hAdds
      rw [hEntry.text, run_append]
      exact hAdds

end Reading

end Stencil.Script
