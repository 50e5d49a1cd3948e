import Stencil.Proofs.Program.Typesetting

/-!
# The lines of a program

A statement of a template stands in the program on the line on which it stands in the template, a
fixed number of lines further down, unless the statement before it has gone beyond that line. Then
it stands as early as it can: on the line on which the one before it ends, or on the next one if it
needs a line break.

* `Body.before`: the text of a body up to a statement.
* `Scheduled`: the lines on which the statements of a body start.
* `preprocess_scheduled`: every program of a template is scheduled.
-/

namespace Stencil.Program

open Text Template

/-- The text of a body up to its `k`-th statement, with what separates that from the one before. -/
def Body.before (b : Body) (k : Nat) : List Char :=
  (b.placed.take k).flatMap Placed.written ++ (b.placed[k]?.map Placed.separator).getD []

/-- The line of a body on which its `k`-th statement starts. -/
def Body.startsOn (b : Body) (k : Nat) : Nat := lineAt b.written (b.before k).length

/-- The line of a body on which its `k`-th statement ends, if that has the text of an entry. -/
def Body.endsOn (b : Body) (k : Nat) (e : Entry) : Nat :=
  lineAt b.written (b.before k ++ e.text).length

/-- A body has the texts of some entries in their order. The first starts on its line of the
template. Each one after it starts on its line of the template, or where the one before it ends,
with a line break in between if it needs one, if that is further down. -/
structure Scheduled (es : List Entry) (b : Body) : Prop where
  length : b.placed.length = es.length
  text : ∀ k e, es[k]? = some e → ∃ after, b.written = b.before k ++ e.text ++ after
  first : ∀ e, es[0]? = some e → (b.startsOn 0 : Int) = e.statement.origin
  next : ∀ k d e, es[k]? = some d → es[k + 1]? = some e →
    (b.startsOn (k + 1) : Int) =
      max e.statement.origin (b.endsOn k d + if needsBreak d e then 1 else 0)

theorem lineAt_append_left (s t : List Char) : lineAt (s ++ t) s.length = newlines s + 1 := by
  rw [lineAt, List.take_left]

/-! ## The lines of places -/

theorem Placed.Holds.newlines_separator {previous : Option Entry} {e : Entry} {p : Placed}
    (h : p.Holds previous e) (hWell : e.WellLined) : newlines p.separator = p.breaks := by
  have hIndent : newlines e.indent = 0 := newlines_eq_zero_of_unbroken hWell.margin.unbroken
  unfold Placed.separator
  rw [newlines_append, newlines_lineFeeds, h.indent]
  split
  · rfl
  · rw [hIndent, Nat.add_zero]

theorem Placed.Holds.newlines_written {previous : Option Entry} {e : Entry} {p : Placed}
    (h : p.Holds previous e) (hWell : e.WellLined) :
    newlines p.written = p.breaks + e.statement.others.length := by
  rw [h.written_eq, newlines_append, h.newlines_separator hWell, hWell.newlines_text]

theorem Arranged.length_eq {timed : Prop} {ending line : Nat} {previous : Option Entry}
    {es : List Entry} {ps : List Placed} (h : Arranged timed ending previous line es ps) :
    ps.length = es.length := by
  induction h with
  | done hEnding => rfl
  | next holds time rest ih => rw [List.length_cons, List.length_cons, ih]

/-- The place of the `k`-th entry, and the line on which it starts. -/
theorem Arranged.get {timed : Prop} {ending line : Nat} {previous : Option Entry}
    {es : List Entry} {ps : List Placed} (h : Arranged timed ending previous line es ps)
    (hWell : ∀ e ∈ es, e.WellLined) {k : Nat} {e : Entry} (hk : es[k]? = some e) :
    ∃ p, ps[k]? = some p ∧ p.Holds ((es.take k).getLast?.or previous) e ∧
      (timed → (line + newlines ((ps.take k).flatMap Placed.written) + p.breaks : Nat) =
        startLine ((es.take k).getLast?.or previous)
          (line + newlines ((ps.take k).flatMap Placed.written)) e) := by
  induction h generalizing k with
  | done hEnding => cases hk
  | @next previous line d p es ps holds time rest ih =>
    cases k with
    | zero =>
      cases hk
      exact ⟨p, rfl, holds, time⟩
    | succ k =>
      obtain ⟨q, hq, hHolds, hTime⟩ :=
        ih (fun e he => hWell e (List.mem_cons_of_mem d he)) hk
      have hPrevious : ((d :: es).take (k + 1)).getLast?.or previous =
          (es.take k).getLast?.or (some d) := by
        rw [List.take_succ_cons, List.getLast?_cons, Option.or_some]
        rfl
      have hWritten := holds.newlines_written (hWell d List.mem_cons_self)
      refine ⟨q, hq, ?_, fun hTimed => ?_⟩
      · rw [hPrevious]
        exact hHolds
      · have hLine : line + newlines (((p :: ps).take (k + 1)).flatMap Placed.written) =
            line + p.breaks + d.statement.others.length +
              newlines ((ps.take k).flatMap Placed.written) := by
          rw [List.take_succ_cons, List.flatMap_cons, newlines_append, hWritten]
          omega
        rw [hPrevious, hLine]
        exact hTime hTimed

/-! ## The schedule of a body -/

/-- What a body says about the place of its `k`-th statement. -/
theorem Body.written_split {b : Body} {k : Nat} {p : Placed} {e : Entry}
    (hp : b.placed[k]? = some p) (hWritten : p.written = p.separator ++ e.text) :
    b.before k = (b.placed.take k).flatMap Placed.written ++ p.separator ∧
      b.before k ++ e.text = (b.placed.take (k + 1)).flatMap Placed.written ∧
      b.written = b.before k ++ e.text ++
        ((b.placed.drop (k + 1)).flatMap Placed.written ++ lineFeeds b.ending) := by
  have hBefore : b.before k = (b.placed.take k).flatMap Placed.written ++ p.separator := by
    rw [Body.before, hp]
    rfl
  have hTake : b.before k ++ e.text = (b.placed.take (k + 1)).flatMap Placed.written := by
    rw [hBefore, List.take_add_one, hp, List.flatMap_append, List.append_assoc, ← hWritten]
    simp
  refine ⟨hBefore, hTake, ?_⟩
  rw [hTake, Body.written, ← List.append_assoc, ← List.flatMap_append, List.take_append_drop]

theorem Arranged.scheduled {es : List Entry} {b : Body}
    (h : Arranged True b.ending none 1 es b.placed) (hWell : ∀ e ∈ es, e.WellLined) :
    Scheduled es b := by
  have hStarts : ∀ k e, es[k]? = some e →
      (b.startsOn k : Int) = startLine (es.take k).getLast?
        (1 + newlines ((b.placed.take k).flatMap Placed.written)) e := by
    intro k e hk
    obtain ⟨p, hp, hHolds, hTime⟩ := h.get hWell hk
    obtain ⟨hBefore, -, hWritten⟩ := Body.written_split hp hHolds.written_eq
    rw [Option.or_none] at hTime
    rw [← hTime trivial, Body.startsOn, hWritten, List.append_assoc, lineAt_append_left, hBefore,
      newlines_append, hHolds.newlines_separator (hWell e (List.mem_of_getElem? hk))]
    omega
  refine ⟨h.length_eq, fun k e hk => ?_, fun e hk => hStarts 0 e hk, fun k d e hd he => ?_⟩
  · obtain ⟨p, hp, hHolds, -⟩ := h.get hWell hk
    obtain ⟨-, -, hWritten⟩ := Body.written_split hp hHolds.written_eq
    exact ⟨_, hWritten⟩
  · obtain ⟨p, hp, hHolds, -⟩ := h.get hWell hd
    obtain ⟨-, hTake, hWritten⟩ := Body.written_split hp hHolds.written_eq
    have hEnds : b.endsOn k d =
        1 + newlines ((b.placed.take (k + 1)).flatMap Placed.written) := by
      rw [Body.endsOn, hWritten, lineAt_append_left, hTake, Nat.add_comm]
    have hPrevious : (es.take (k + 1)).getLast? = some d := by
      rw [List.take_add_one, hd]
      simp
    rw [hStarts (k + 1) e he, hPrevious, hEnds]
    cases hNeed : needsBreak d e <;> simp [startLine, breaksNeeded, hNeed]

/-! ## Programs -/

theorem newlines_preamble : newlines preamble = lineOffset := by decide +kernel

/-- The line of a program on which a part of its body starts. -/
theorem lineAt_program (before after : List Char) :
    lineAt (preamble ++ (before ++ after) ++ epilogue) (preamble ++ before).length =
      lineOffset + lineAt (before ++ after) before.length := by
  have hSplit : preamble ++ (before ++ after) ++ epilogue =
      (preamble ++ before) ++ (after ++ epilogue) := by
    simp only [List.append_assoc]
  rw [hSplit, lineAt_append_left, lineAt_append_left, newlines_append, newlines_preamble,
    Nat.add_assoc]

theorem preprocess_eq_ok_iff {source program : List Char} :
    preprocess source = .ok program ↔ ∃ cs b, chunks source = .ok cs ∧ lay cs = .ok b ∧
      program = preamble ++ b.written ++ epilogue := by
  unfold preprocess body
  constructor
  · intro h
    cases hChunks : chunks source with
    | error e =>
      rw [hChunks] at h
      cases h
    | ok cs =>
      rw [hChunks] at h
      cases hLay : lay cs with
      | error e =>
        simp only [hLay] at h
        cases h
      | ok b =>
        simp only [hLay] at h
        exact ⟨cs, b, rfl, hLay, (Except.ok.inj h).symm⟩
  · rintro ⟨cs, b, hChunks, hLay, rfl⟩
    rw [hChunks]
    simp only [hLay]
    rfl

/-- **Statements stand on the lines of their template.** The chunks of a template that has a program
are drawn from it, each with its line, and they are well nested. The body of the program is
scheduled by the entries that they become. Its lines are those of the program, less the lines of the
preamble. -/
theorem preprocess_scheduled {source program : List Char} (h : preprocess source = .ok program) :
    ∃ cs es b, chunks source = .ok cs ∧ Drawn [] cs source ∧ Suite baseIndent false cs es ∧
      lay cs = .ok b ∧ program = preamble ++ b.written ++ epilogue ∧ Scheduled es b ∧
      ∀ k < es.length,
        lineAt program (preamble ++ b.before k).length = lineOffset + b.startsOn k := by
  obtain ⟨cs, b, hChunks, hLay, hProgram⟩ := preprocess_eq_ok_iff.mp h
  obtain ⟨es, hFlat, hArranged⟩ := lay_arranged (fun _ : True => numbered_chunks hChunks) hLay
  have hScheduled := hArranged.scheduled (hFlat.wellLined fun block hBlock => nomatch hBlock)
  refine ⟨cs, es, b, hChunks, drawn_chunks hChunks, hFlat.suite, hLay, hProgram, hScheduled,
    fun k hk => ?_⟩
  obtain ⟨after, hWritten⟩ := hScheduled.text k es[k] (List.getElem?_eq_getElem hk)
  rw [hProgram, Body.startsOn, hWritten, List.append_assoc (b.before k), lineAt_program]

/-- A template with an empty block on its first line. The program needs three lines for it, so the
text after it starts on line four of the body, and so does the code of line three. -/
def indebtedTemplate : List Char := "a[[ if b: ]][[ end ]]\n\nc[[ d ]]\n".toList

/-- Its chunks. -/
def indebtedChunks : List Chunk :=
  [.literal ['a'] 1, .code "if b:".toList 1, .code "end".toList 1, .literal "\n\nc".toList 1,
    .code ['d'] 3, .literal ['\n'] 3]

/-- The lines of its body. -/
def indebtedLines : List String :=
  ["    _echo('a')", "    if b:", "        pass", "    _echo('\\n\\nc'); d; _echo('\\n')"]

theorem preprocess_scheduled_indebted :
    preprocess indebtedTemplate = .ok (preamble ++ programText indebtedLines ++ epilogue) ∧
      ∃ cs es b, chunks indebtedTemplate = .ok cs ∧ Drawn [] cs indebtedTemplate ∧
        Suite baseIndent false cs es ∧ lay cs = .ok b ∧
        preamble ++ programText indebtedLines ++ epilogue = preamble ++ b.written ++ epilogue ∧
        Scheduled es b ∧
        ∀ k < es.length, lineAt (preamble ++ programText indebtedLines ++ epilogue)
          (preamble ++ b.before k).length = lineOffset + b.startsOn k :=
  have hChunks : chunks indebtedTemplate = .ok indebtedChunks :=
    eq_ok_of_toOption (by decide +kernel)
  have h : preprocess indebtedTemplate = .ok (preamble ++ programText indebtedLines ++ epilogue) :=
    preprocess_eq_ok_iff.mpr ⟨indebtedChunks, _, hChunks, rfl, rfl⟩
  ⟨h, preprocess_scheduled h⟩

end Stencil.Program
