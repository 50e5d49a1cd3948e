import Stencil.Proofs.Program.BlockErrors
import Stencil.Proofs.Program.Continuations
import Stencil.Proofs.Program.InPlace
import Stencil.Proofs.Script.Lexing

/-!
# The lines of a body

The body of a program stands inside of the entry point, so its lines have to be indented. A layout
splits code at line feeds and indents each of these lines. The language ends a line at a carriage
return too. Texts of a template have their carriage returns escaped, but code is copied as it is:
what stands behind a carriage return in the middle of a line begins a line that is not indented, and
so does a statement that is joined to code with a carriage return at its end.

* `PairedReturns`: code in which each carriage return belongs to a line break of the layout.
* `lined_typeset`: a body is made of whole lines, each empty or indented.
* `lay_indented`: so are the lines that the language finds in it if carriage returns are paired.
-/

namespace Stencil.Script

open Text Template Program

/-! ## Whole lines -/

/-- A line that does not end the entry point: it is empty, or it begins with the indentation of the
body. -/
def Indented (line : List Char) : Prop := line = [] ∨ baseIndent <+: line

instance (line : List Char) : Decidable (Indented line) := inferInstanceAs (Decidable (_ ∨ _))

theorem splitLines_lineFeed (rest : List Char) :
    splitLines ('\n' :: rest) = [] :: splitLines rest := by
  rw [splitLines]
  cases hLines : splitLines rest with
  | nil => exact absurd hLines (splitLines_ne_nil rest)
  | cons first others => rfl

/-- Lines that end with a line feed each are found again, with nothing after the last. -/
theorem splitLines_ended {lines : List (List Char)} (h : ∀ line ∈ lines, Unbroken line) :
    splitLines (ended lines) = lines ++ [[]] := by
  induction lines with
  | nil => rfl
  | cons line lines ih =>
    obtain ⟨hLine, hLines⟩ := List.forall_mem_cons.mp h
    rw [ended_cons, splitLines_append hLine, splitLines_lineFeed, ih hLines, List.headD_cons,
      List.append_nil, List.tail_cons, List.cons_append]

/-- A line without the carriage return at its end, if there is one. -/
def withoutReturn (line : List Char) : List Char :=
  if line.getLast? = some '\r' then line.dropLast else line

theorem withoutReturn_subset (line : List Char) : withoutReturn line ⊆ line := by
  unfold withoutReturn
  split
  · exact List.dropLast_subset line
  · exact List.Subset.refl line

theorem indented_withoutReturn {line : List Char} (h : Indented line) :
    Indented (withoutReturn line) := by
  unfold withoutReturn
  split
  · rename_i hReturn
    obtain ⟨start, rfl⟩ := List.getLast?_eq_some_iff.mp hReturn
    rw [List.dropLast_concat]
    rcases h with hNil | hIndent
    · exact absurd hNil (List.concat_ne_nil _ _)
    · rcases List.prefix_concat_iff.mp hIndent with hEq | hIndent
      · have hLast := congrArg List.getLast? hEq
        rw [List.getLast?_concat] at hLast
        exact absurd hLast (by decide)
      · exact .inr hIndent
  · exact h

/-- Where each carriage return stands at the end of a line, the language finds the same lines. -/
theorem unifyLines_ended {lines : List (List Char)} (h : ∀ line ∈ lines, '\r' ∉ line.dropLast) :
    unifyLines (ended lines) = ended (lines.map withoutReturn) := by
  induction lines with
  | nil => rfl
  | cons line lines ih =>
    obtain ⟨hLine, hLines⟩ := List.forall_mem_cons.mp h
    rw [List.map_cons, ended_cons, ended_cons, ← ih hLines]
    unfold withoutReturn
    split
    · rename_i hReturn
      obtain ⟨start, rfl⟩ := List.getLast?_eq_some_iff.mp hReturn
      rw [List.dropLast_concat] at hLine ⊢
      rw [List.append_assoc, unifyLines_append_of_not_mem hLine]
      rfl
    · rename_i hNone
      have hClean : '\r' ∉ line := by
        intro hMem
        have hSome : line ≠ [] := List.ne_nil_of_mem hMem
        rw [← List.dropLast_concat_getLast hSome, List.mem_append, List.mem_singleton] at hMem
        rcases hMem with hMem | hMem
        · exact hLine hMem
        · exact hNone (by rw [List.getLast?_eq_some_getLast hSome, hMem])
      rw [unifyLines_append_of_not_mem hClean]
      rfl

/-! ## Lines of a body -/

section Lines

variable (paired : Prop)

/-- A line of a body. If `paired` is true, it has a carriage return at its end only. -/
structure BodyLine (line : List Char) : Prop where
  unbroken : Unbroken line
  indented : Indented line
  returns : paired → '\r' ∉ line.dropLast

/-- The first part of a line of a body, to which statements may be joined. -/
structure Begun (s : List Char) : Prop where
  unbroken : Unbroken s
  indented : baseIndent <+: s
  returns : paired → '\r' ∉ s

/-- A statement that leaves the lines of a body as they have to be. -/
structure Tidy (s : Statement) : Prop where
  unbroken : s.Unbroken
  returns : paired → ∀ line ∈ s.first :: s.others, '\r' ∉ line.dropLast
  single : s.alone = false → s.others = []
  joinable : paired → s.alone = false → '\r' ∉ s.first

/-- A text of whole lines of a body. -/
def Lined (text : List Char) : Prop :=
  ∃ lines, text = ended lines ∧ ∀ line ∈ lines, BodyLine paired line

/-- A text that makes whole lines with the line on which an entry ends, or by itself if there is no
entry before it. -/
def LinedAfter : (previous : Option Program.Entry) → (text : List Char) → Prop
  | none, text => Lined paired text
  | some d, text => ∀ line, BodyLine paired line → (d.statement.alone = false → Begun paired line) →
      Lined paired (line ++ text)

end Lines

variable {paired : Prop}

theorem Begun.bodyLine {s : List Char} (h : Begun paired s) : BodyLine paired s where
  unbroken := h.unbroken
  indented := .inr h.indented
  returns hPaired hMem := h.returns hPaired (List.dropLast_subset s hMem)

theorem Begun.append {s t : List Char} (h : Begun paired s) (hUnbroken : Unbroken t)
    (hReturns : paired → '\r' ∉ t) : Begun paired (s ++ t) where
  unbroken := h.unbroken.append hUnbroken
  indented := h.indented.trans (List.prefix_append s t)
  returns hPaired hMem := (List.mem_append.mp hMem).elim (h.returns hPaired) (hReturns hPaired)

/-- The end of a line may have a carriage return at its end. -/
theorem Begun.bodyLine_append {s line : List Char} (h : Begun paired s) (hUnbroken : Unbroken line)
    (hReturns : paired → '\r' ∉ line.dropLast) : BodyLine paired (s ++ line) where
  unbroken := h.unbroken.append hUnbroken
  indented := .inr (h.indented.trans (List.prefix_append s line))
  returns hPaired := by
    cases line with
    | nil =>
      rw [List.append_nil]
      exact h.bodyLine.returns hPaired
    | cons c line =>
      rw [List.dropLast_append_of_ne_nil (List.cons_ne_nil c line)]
      intro hMem
      exact (List.mem_append.mp hMem).elim (h.returns hPaired) (hReturns hPaired)

theorem bodyLine_nil : BodyLine paired [] := ⟨nofun, .inl rfl, fun _ => nofun⟩

theorem Lined.cons {line rest : List Char} (hLine : BodyLine paired line)
    (hRest : Lined paired rest) : Lined paired (line ++ '\n' :: rest) := by
  obtain ⟨lines, rfl, hLines⟩ := hRest
  exact ⟨line :: lines, (ended_cons line lines).symm, List.forall_mem_cons.mpr ⟨hLine, hLines⟩⟩

theorem Lined.lineFeeds_append {rest : List Char} (h : Lined paired rest) (n : Nat) :
    Lined paired (lineFeeds n ++ rest) := by
  induction n with
  | zero => exact h
  | succ n ih => exact ih.cons bodyLine_nil

theorem lined_lineFeeds (n : Nat) : Lined paired (lineFeeds n) := by
  have hNone : Lined paired [] := ⟨[], rfl, nofun⟩
  rw [← List.append_nil (lineFeeds n)]
  exact hNone.lineFeeds_append n

/-! ## Entries on their lines -/

/-- The other lines of a statement, with what comes after the last of them. -/
theorem lined_others {indent : List Char} (hIndent : Begun paired indent) {text : List Char}
    (hText : ∀ line, BodyLine paired line → Lined paired (line ++ text))
    {others : List (List Char)} (hUnbroken : ∀ line ∈ others, Unbroken line)
    (hReturns : paired → ∀ line ∈ others, '\r' ∉ line.dropLast) {line : List Char}
    (hLine : BodyLine paired line) :
    Lined paired
      (line ++ (others.flatMap fun next => '\n' :: if next = [] then [] else indent ++ next) ++
        text) := by
  induction others generalizing line with
  | nil =>
    rw [List.flatMap_nil, List.append_nil]
    exact hText line hLine
  | cons next others ih =>
    obtain ⟨hNext, hUnbroken⟩ := List.forall_mem_cons.mp hUnbroken
    have hNextLine : BodyLine paired (if next = [] then [] else indent ++ next) := by
      split
      · exact bodyLine_nil
      · exact hIndent.bodyLine_append hNext fun hPaired => hReturns hPaired next List.mem_cons_self
    have hRest := ih hUnbroken
      (fun hPaired line hMem => hReturns hPaired line (List.mem_cons_of_mem next hMem)) hNextLine
    rw [List.flatMap_cons, List.cons_append, List.append_assoc, List.cons_append]
    exact hRest.cons hLine

/-- An entry that stands on a line with something before it, and what comes after it. A statement
may be joined to the entry only if it is on one line. -/
theorem lined_entry {e : Program.Entry} (hIndent : Begun paired e.indent)
    (hTidy : Tidy paired e.statement) {s text : List Char} (hs : Begun paired s)
    (hText : LinedAfter paired (some e) text) : Lined paired (s ++ e.text ++ text) := by
  have hFirst : BodyLine paired (s ++ e.statement.first) :=
    hs.bodyLine_append (hTidy.unbroken _ List.mem_cons_self) fun hPaired =>
      hTidy.returns hPaired _ List.mem_cons_self
  rw [Program.Entry.text, ← List.append_assoc s]
  cases hAlone : e.statement.alone with
  | false =>
    rw [hTidy.single hAlone, List.flatMap_nil, List.append_nil]
    exact hText _ hFirst fun _ => hs.append (hTidy.unbroken _ List.mem_cons_self) fun hPaired =>
      hTidy.joinable hPaired hAlone
  | true =>
    refine lined_others hIndent (fun line hLine => hText line hLine fun hJoin => ?_)
      (fun line hMem => hTidy.unbroken line (List.mem_cons_of_mem _ hMem))
      (fun hPaired line hMem => hTidy.returns hPaired line (List.mem_cons_of_mem _ hMem)) hFirst
    rw [hAlone] at hJoin
    cases hJoin

/-- **A body is made of whole lines, each empty or indented.** What comes after an entry ends the
line on which the entry ends, and goes on with whole lines. -/
theorem lined_typeset {previous : Option Program.Entry} {es : List Program.Entry}
    {text : List Char} (h : Typeset previous es text)
    (hEntries : ∀ e ∈ es, Begun paired e.indent ∧ Tidy paired e.statement) :
    LinedAfter paired previous text := by
  induction h with
  | blank n => exact lined_lineFeeds n
  | last d n => exact fun line hLine _ => (lined_lineFeeds n).cons hLine
  | first n rest ih =>
    obtain ⟨⟨hIndent, hTidy⟩, hRest⟩ := List.forall_mem_cons.mp hEntries
    have hEntry := lined_entry hIndent hTidy hIndent (ih hRest)
    rw [List.append_assoc (lineFeeds n), List.append_assoc (lineFeeds n)]
    exact hEntry.lineFeeds_append n
  | broken n rest ih =>
    obtain ⟨⟨hIndent, hTidy⟩, hRest⟩ := List.forall_mem_cons.mp hEntries
    have hEntry := lined_entry hIndent hTidy hIndent (ih hRest)
    intro line hLine _
    rw [List.append_assoc (lineFeeds (n + 1)), List.append_assoc (lineFeeds (n + 1))]
    exact (hEntry.lineFeeds_append n).cons hLine
  | @joined d e es text hJoin rest ih =>
    obtain ⟨⟨hIndent, hTidy⟩, hRest⟩ := List.forall_mem_cons.mp hEntries
    intro line _ hBegun
    have hAlone : d.statement.alone = false := by
      simp only [needsBreak, Bool.or_eq_false_iff] at hJoin
      exact hJoin.1.1
    have hJoiner : Begun paired (line ++ Placed.joiner) :=
      (hBegun hAlone).append (by decide) fun _ => by decide
    rw [← List.append_assoc, ← List.append_assoc]
    exact lined_entry hIndent hTidy hJoiner (ih hRest)

/-! ## Carriage returns of code -/

/-- The carriage returns of some code stand at the ends of its lines, and there is none in code to
which statements may be joined. -/
def PairedReturns (code : List (List Char)) : Prop :=
  (∀ line ∈ code, '\r' ∉ line.dropLast) ∧ (SharesLine code → ∀ line ∈ code, '\r' ∉ line)

instance (code : List (List Char)) : Decidable (PairedReturns code) :=
  inferInstanceAs (Decidable (_ ∧ _))

theorem return_not_mem_echoCall (text : List Char) : '\r' ∉ echoCall text :=
  (clean_code (m := .echo text) trivial).1

/-- A statement to which others may be joined is on one line, and its code shares its line. -/
theorem sharesLine_of_roleOfCode {first : List Char} {others : List (List Char)} {origin : Int}
    {s : Statement} (h : roleOfCode first others origin = .statement s) (hAlone : s.alone = false) :
    others = [] ∧ SharesLine (first :: others) := by
  unfold roleOfCode at h
  split at h
  · cases h
  · rename_i hEnd
    split at h
    · cases h
    · split at h
      · cases h
      · rename_i hOpens
        cases h
        simp only [Bool.or_eq_false_iff, decide_eq_false_iff_not, not_not] at hAlone
        obtain ⟨rfl, hCompound⟩ := hAlone
        refine ⟨rfl, Nat.le_refl 1, fun line hLine => ?_⟩
        rw [List.mem_singleton.mp hLine]
        exact ⟨fun hTrim => hEnd ⟨rfl, hTrim⟩, Bool.eq_false_iff.mpr hOpens, hCompound⟩

/-- Nothing can be joined to a statement on lines of its own. -/
theorem tidy_of_alone {s : Statement} (hAlone : s.alone = true) (hUnbroken : s.Unbroken)
    (hReturns : paired → ∀ line ∈ s.first :: s.others, '\r' ∉ line.dropLast) : Tidy paired s where
  unbroken := hUnbroken
  returns := hReturns
  single hShared := by
    rw [hAlone] at hShared
    cases hShared
  joinable _ hShared := by
    rw [hAlone] at hShared
    cases hShared

theorem tidy_roleOf {c : Chunk} (hReturns : paired → PairedReturns (codeLines c)) :
    (roleOf c).All (Tidy paired) := by
  have hUnbroken := (roleOf_unbroken c).all
  rcases roleOf_cases c with hRole | ⟨-, hRole⟩ | ⟨hKind, first, others, hCode, hRole⟩
  · rw [hRole]
    trivial
  · rw [hRole] at hUnbroken ⊢
    refine ⟨hUnbroken, fun _ line hLine => ?_, fun _ => rfl, fun _ _ => return_not_mem_echoCall _⟩
    rw [List.mem_singleton.mp hLine]
    exact fun hMem => return_not_mem_echoCall _ (List.dropLast_subset _ hMem)
  · rw [codeLines, if_pos hKind, hCode] at hReturns
    have hEnds : paired → ∀ line ∈ first :: others, '\r' ∉ line.dropLast :=
      fun hPaired => (hReturns hPaired).1
    rcases roleOfCode_cases first others (c.line + (codeOf c).before) with
      ⟨-, hEq⟩ | hEq | hEq | ⟨alone, hEq⟩
    · rw [hRole, hEq]
      trivial
    · rw [hRole, hEq] at hUnbroken ⊢
      exact tidy_of_alone rfl hUnbroken hEnds
    · rw [hRole, hEq] at hUnbroken ⊢
      exact tidy_of_alone rfl hUnbroken hEnds
    · rw [hRole, hEq] at hUnbroken ⊢
      refine ⟨hUnbroken, hEnds, fun hAlone => (sharesLine_of_roleOfCode hEq hAlone).1,
        fun hPaired hAlone => ?_⟩
      exact (hReturns hPaired).2 (sharesLine_of_roleOfCode hEq hAlone).2 first List.mem_cons_self

theorem opensBlock_of_roleOfCode {first : List Char} {others : List (List Char)} {origin : Int}
    {s : Statement}
    (h : roleOfCode first others origin = .header s ∨ roleOfCode first others origin = .sibling s) :
    opensBlock s.last = true := by
  unfold roleOfCode at h
  split at h
  · rcases h with h | h <;> cases h
  · split at h
    · rename_i hSibling
      obtain ⟨rfl, hColon⟩ := hSibling
      have hLast := (Bool.and_eq_true_iff.mp hColon).2
      rw [getLast?_trim] at hLast
      rcases h with h | h <;> cases h
      exact hLast
    · split at h
      · rename_i hOpens
        rcases h with h | h <;> cases h
        exact hOpens
      · rcases h with h | h <;> cases h

/-- A header has a colon, so its last line is not blank. -/
theorem last_not_blank {c : Chunk} {s : Statement}
    (h : roleOf c = .header s ∨ roleOf c = .sibling s) : isBlankText s.last = false := by
  have hOpens : opensBlock s.last = true := by
    rcases roleOf_cases c with hRole | ⟨-, hRole⟩ | ⟨-, first, others, -, hRole⟩
    · rw [hRole] at h
      rcases h with h | h <;> cases h
    · rw [hRole] at h
      rcases h with h | h <;> cases h
    · rw [hRole] at h
      exact opensBlock_of_roleOfCode h
  rw [opensBlock, endsWith, decide_eq_true_eq, getLast?_trimRight] at hOpens
  have hColon := List.mem_reverse.mp (List.mem_of_find?_eq_some hOpens)
  exact List.all_eq_false.mpr ⟨':', hColon, by decide⟩

/-- The indentation of a line that is not blank has no carriage return if the line has none before
its end. -/
theorem return_not_mem_indentation {line : List Char} (hLine : isBlankText line = false)
    (h : '\r' ∉ line.dropLast) : '\r' ∉ line.takeWhile isBlank := by
  have hRest : line.dropWhile isBlank ≠ [] := trimLeft_ne_nil hLine
  have hDrop : line.dropLast = line.takeWhile isBlank ++ (line.dropWhile isBlank).dropLast := by
    rw [← List.dropLast_append_of_ne_nil hRest, List.takeWhile_append_dropWhile]
  rw [hDrop] at h
  exact fun hMem => h (List.mem_append_left _ hMem)

theorem begun_inner {c : Chunk} {e : Program.Entry}
    (hRole : roleOf c = .header e.statement ∨ roleOf c = .sibling e.statement)
    (hTidy : Tidy paired e.statement) (hMargin : IsMargin e.indent) (h : Begun paired e.indent) :
    Begun paired e.inner := by
  have hLast := e.statement.last_mem
  have hReturns : paired → '\r' ∉ e.statement.last.takeWhile isBlank := fun hPaired =>
    return_not_mem_indentation (last_not_blank hRole) (hTidy.returns hPaired _ hLast)
  have hUnbroken : Unbroken (e.statement.last.takeWhile isBlank) :=
    (hTidy.unbroken _ hLast).of_subset (List.takeWhile_sublist isBlank).subset
  rw [inner_eq hMargin]
  exact (h.append hUnbroken hReturns).append (by decide) fun _ => by decide

theorem tidy_passEntry (indent : List Char) (origin : Int) :
    Tidy paired (passEntry indent origin).statement := by
  refine tidy_of_alone rfl (unbroken_passEntry indent origin) fun _ => ?_
  show ∀ line ∈ [['p', 'a', 's', 's']], '\r' ∉ line.dropLast
  decide

/-! ## The lines of a body -/

theorem lined_of_lay {cs : List Chunk} {b : Body} (h : lay cs = .ok b)
    (hReturns : paired → ∀ c ∈ cs, PairedReturns (codeLines c)) : Lined paired b.written := by
  obtain ⟨es, hFlat, hArranged⟩ := lay_arranged (fun hFalse : False => hFalse.elim) h
  have hBase : IsMargin baseIndent ∧ Begun paired baseIndent :=
    ⟨isMargin_baseIndent, by decide, List.prefix_refl _, fun _ => by decide⟩
  have hEntries := hFlat.all (I := fun indent => IsMargin indent ∧ Begun paired indent) hBase
    (fun c e hRole hTidy hIndent =>
      ⟨hIndent.1.inner hTidy.unbroken, begun_inner hRole hTidy hIndent.1 hIndent.2⟩)
    tidy_passEntry (fun c hc => tidy_roleOf fun hPaired => hReturns hPaired c hc) nofun
  exact lined_typeset hArranged.typeset fun e he => ⟨(hEntries e he).1.2, (hEntries e he).2⟩

/-- **The lines of a body are empty or indented**, where a line ends at a line feed. Where it ends
at a carriage return too, they are so if the carriage returns of the code are paired. -/
theorem lay_indented {cs : List Chunk} {b : Body} (h : lay cs = .ok b) :
    (∀ line ∈ splitLines b.written, Indented line) ∧
      ((∀ c ∈ cs, PairedReturns (codeLines c)) →
        ∀ line ∈ splitLines (unifyLines b.written), Indented line) := by
  -- Nothing stands behind the last line feed.
  have hLast : ∀ line ∈ [[]], Indented line := List.forall_mem_singleton.mpr (.inl rfl)
  constructor
  · obtain ⟨lines, hText, hLines⟩ := lined_of_lay h (fun hFalse : False => hFalse.elim)
    rw [hText, splitLines_ended fun line hLine => (hLines line hLine).unbroken]
    exact List.forall_mem_append.mpr ⟨fun line hLine => (hLines line hLine).indented, hLast⟩
  · intro hReturns
    obtain ⟨lines, hText, hLines⟩ := lined_of_lay h fun _ : True => hReturns
    rw [hText, unifyLines_ended fun line hLine => (hLines line hLine).returns trivial,
      splitLines_ended ?_]
    · refine List.forall_mem_append.mpr ⟨fun line hLine => ?_, hLast⟩
      obtain ⟨whole, hWhole, rfl⟩ := List.mem_map.mp hLine
      exact indented_withoutReturn (hLines whole hWhole).indented
    · intro line hLine
      obtain ⟨whole, hWhole, rfl⟩ := List.mem_map.mp hLine
      exact (hLines whole hWhole).unbroken.of_subset (withoutReturn_subset whole)

/-- `y = 2` begins a line of its own, outside of the entry point. -/
example :
    ¬ PairedReturns ["x = 1\ry = 2".toList] ∧
      (lay [.code "x = 1\ry = 2".toList 1]).map (fun b => splitLines (unifyLines b.written)) =
        .ok ["    x = 1".toList, "y = 2".toList, []] := by
  decide

end Stencil.Script
