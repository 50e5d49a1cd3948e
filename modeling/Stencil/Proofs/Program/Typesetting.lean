import Stencil.Proofs.Program.Placing
import Stencil.Program.Frame

/-!
# The text of a body

The text of a body is the text of its entries and what separates them. Two entries are separated by
`; ` or by line feeds and the indentation of the block of the second. The first of these is found
only where the second entry needs no line break.

* `Typeset`: a text of entries with what separates them.
* `lay_typeset`: the chunks of a body are well nested, and its text is that of the entries they
  become, in order.
-/

namespace Stencil.Program

open Text Template

/-- The text of a body from the end of an entry on, or from its start on. -/
inductive Typeset : (previous : Option Entry) → List Entry → List Char → Prop
  | blank (n : Nat) : Typeset none [] (lineFeeds n)
  | last (d : Entry) (n : Nat) : Typeset (some d) [] (lineFeeds (n + 1))
  | first {e : Entry} {es : List Entry} {text : List Char} (n : Nat)
      (rest : Typeset (some e) es text) :
      Typeset none (e :: es) (lineFeeds n ++ e.indent ++ e.text ++ text)
  | broken {d e : Entry} {es : List Entry} {text : List Char} (n : Nat)
      (rest : Typeset (some e) es text) :
      Typeset (some d) (e :: es) (lineFeeds (n + 1) ++ e.indent ++ e.text ++ text)
  | joined {d e : Entry} {es : List Entry} {text : List Char} (hJoin : needsBreak d e = false)
      (rest : Typeset (some e) es text) :
      Typeset (some d) (e :: es) (Placed.joiner ++ e.text ++ text)

/-- What is written before a statement. -/
def Placed.separator (p : Placed) : List Char :=
  lineFeeds p.breaks ++ if p.joined then joiner else p.indent

theorem Placed.Holds.written_eq {previous : Option Entry} {e : Entry} {p : Placed}
    (h : p.Holds previous e) : p.written = p.separator ++ e.text := by
  unfold Placed.written Placed.separator Entry.text
  rw [h.indent, h.first, h.others]
  simp only [List.append_assoc]

theorem Arranged.typeset {timed : Prop} {ending line : Nat} {previous : Option Entry}
    {es : List Entry} {ps : List Placed} (h : Arranged timed ending previous line es ps) :
    Typeset previous es (ps.flatMap Placed.written ++ lineFeeds ending) := by
  induction h with
  | @done previous line hEnding =>
    cases previous with
    | none => exact .blank ending
    | some d =>
      obtain ⟨n, rfl⟩ := Nat.exists_eq_add_of_lt (hEnding rfl)
      rw [Nat.zero_add]
      exact .last d n
  | @next previous line e p es ps holds time rest ih =>
    have hNeeded := holds.needed
    have hJoined := holds.joined
    rw [List.flatMap_cons, List.append_assoc, holds.written_eq, Placed.separator, holds.indent,
      hJoined]
    cases previous with
    | none => exact .first p.breaks ih
    | some d =>
      cases hBreaks : p.breaks with
      | zero =>
        rw [hBreaks] at hNeeded
        refine .joined ?_ ih
        cases hNeed : needsBreak d e with
        | false => rfl
        | true => simp [breaksNeeded, hNeed] at hNeeded
      | succ n => exact .broken n ih

theorem getLast?_lineFeeds (n : Nat) : (lineFeeds (n + 1)).getLast? = some '\n' := by
  unfold lineFeeds
  rw [List.getLast?_replicate, if_neg n.succ_ne_zero]

/-- What comes after an entry ends with a line feed. So does a body that is not empty. -/
theorem Typeset.getLast? {previous : Option Entry} {es : List Entry} {text : List Char}
    (h : Typeset previous es text) :
    text.getLast? = some '\n' ∨ (previous = none ∧ text = []) := by
  induction h with
  | blank n =>
    cases n with
    | zero => exact .inr ⟨rfl, rfl⟩
    | succ n => exact .inl (getLast?_lineFeeds n)
  | last d n => exact .inl (getLast?_lineFeeds n)
  | first n rest ih =>
    rcases ih with ih | ⟨hNone, -⟩
    · rw [List.getLast?_append, ih]
      exact .inl rfl
    · cases hNone
  | broken n rest ih =>
    rcases ih with ih | ⟨hNone, -⟩
    · rw [List.getLast?_append, ih]
      exact .inl rfl
    · cases hNone
  | joined hJoin rest ih =>
    rcases ih with ih | ⟨hNone, -⟩
    · rw [List.getLast?_append, ih]
      exact .inl rfl
    · cases hNone

theorem getLast?_programText {lines : List String} (h : lines ≠ []) :
    (programText lines).getLast? = some '\n' := by
  rw [← List.dropLast_concat_getLast h, programText, List.flatMap_append, List.getLast?_append,
    List.flatMap_singleton, List.getLast?_append]
  rfl

theorem getLast?_preamble : preamble.getLast? = some '\n' :=
  getLast?_programText (List.cons_ne_nil _ _)

/-- The chunks of a body are well nested. Its text has the entries that they become, each once and
in order, with a line break between two of them wherever one is needed, and it ends with a line feed
unless it is empty. So what comes after it starts on a line of its own. -/
theorem lay_typeset {cs : List Chunk} {b : Body} (h : lay cs = .ok b) :
    ∃ es, Suite baseIndent false cs es ∧ Typeset none es b.written ∧
      (b.written = [] ∨ b.written.getLast? = some '\n') ∧
      (preamble ++ b.written).getLast? = some '\n' := by
  obtain ⟨es, hFlat, hArranged⟩ := lay_arranged (fun hFalse : False => hFalse.elim) h
  have hTypeset : Typeset none es b.written := hArranged.typeset
  refine ⟨es, hFlat.suite, hTypeset, ?_⟩
  rcases hTypeset.getLast? with hEnd | ⟨-, hNil⟩
  · refine ⟨.inr hEnd, ?_⟩
    rw [List.getLast?_append, hEnd]
    rfl
  · refine ⟨.inl hNil, ?_⟩
    rw [hNil, List.append_nil]
    exact getLast?_preamble

/-- A text and code on one line, and a block whose first branch has nothing in it. -/
def nestedChunks : List Chunk :=
  [.literal "a".toList 1, .code "f();".toList 1, .code "if x:".toList 1, .code "else:".toList 1,
    .code "b".toList 1, .code "end".toList 1]

/-- Their body: `_echo('a'); f()`, then five lines for the block. -/
def nestedBody : Body :=
  ⟨[⟨0, false, baseIndent, "_echo('a')".toList, [], 1⟩, ⟨0, true, baseIndent, "f()".toList, [], 1⟩,
      ⟨1, false, baseIndent, "if x:".toList, [], 1⟩,
      ⟨1, false, baseIndent ++ blockIndent, "pass".toList, [], 1⟩,
      ⟨1, false, baseIndent, "else:".toList, [], 1⟩,
      ⟨1, false, baseIndent ++ blockIndent, "b".toList, [], 1⟩], 1⟩

theorem lay_typeset_nested :
    lay nestedChunks = .ok nestedBody ∧
      ∃ es, Suite baseIndent false nestedChunks es ∧ Typeset none es nestedBody.written ∧
        (nestedBody.written = [] ∨ nestedBody.written.getLast? = some '\n') ∧
        (preamble ++ nestedBody.written).getLast? = some '\n' :=
  have h : lay nestedChunks = .ok nestedBody := rfl
  ⟨h, lay_typeset h⟩

end Stencil.Program
