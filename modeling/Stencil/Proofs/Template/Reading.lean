import Stencil.Proofs.Template.Brackets
import Stencil.Template.LineCursor

/-!
# Reading from a place on

The reading of a template is one recursion with a line function that may have a state. This module
has its equations, one for each thing that a place can have ahead of it, and uses them to show that
a cursor makes no difference.

* `Place.read_nothing`, `Place.read_fault`, `Place.read_text`, `Place.read_tagged`: the equations.
* `Place.found_tagged` and its like: the equations when each line is counted from the start.
* `LineCursor.Gives`: results that do not depend on where the cursor has been.
* `gives_read`: with a cursor that is right, a reading finds what it finds when each line is
  counted from the start, and the cursor stays right.
* `readWith_spec`, `readWith_start_eq_iff`: the same for whole templates.
-/

namespace Stencil.Template

open Text

namespace Place

section Equations

variable {m : Type → Type} [Monad m] [LawfulMonad m] {lineOf : Nat → m Nat} {p : Place}

theorem read_nothing (h : ahead p.rest = .nothing) : p.read lineOf = pure ([], none) := by
  unfold read
  split
  · rename_i h'
    rw [h] at h'
    cases h'
  · simp [next, h]

theorem read_fault {finding : Finding} (h : ahead p.rest = .fault finding) :
    p.read lineOf = do
      let _ ← (offsetsBeforeFault p.rest).mapM fun offset => lineOf (p.offset + offset)
      let line ← lineOf (p.offset + finding.offset)
      return ([], some ⟨finding.fault, line, finding.near⟩) := by
  unfold read
  split
  · rename_i h'
    rw [h] at h'
    cases h'
  · simp [next, h]

theorem read_text {text : List Char} (h : ahead p.rest = .text text) :
    p.read lineOf = do
      let line ← lineOf p.offset
      return ([⟨text, line, none⟩], none) := by
  unfold read
  split
  · rename_i h'
    rw [h] at h'
    cases h'
  · simp [next, h]

theorem read_tagged {text rest : List Char} {tag : Tag} (h : ahead p.rest = .tagged text tag rest) :
    p.read lineOf = do
      let line ← lineOf p.offset
      let tagLine ← lineOf (p.offset + text.length)
      let others ← (p.after text tag rest).read lineOf
      return (⟨(stripTrailing tag.pre text).1, line,
        some ⟨tag, tagLine, (stripTrailing tag.pre text).2, (stripLeading tag.post rest).1⟩⟩ ::
          others.1, others.2) := by
  rw [read]
  split
  · rename_i h'
    rw [h] at h'
    cases h'
    simp [next, h]
  · rename_i h'
    exact absurd h (h' text tag rest)

end Equations

/-- What a reading finds from a place on when each line is counted from the start. -/
def found (source : List Char) (p : Place) : List Segment × Option TagError :=
  Id.run (p.read fun offset => pure (lineAt source offset))

section Found

variable {source : List Char} {p : Place}

theorem found_nothing (h : ahead p.rest = .nothing) : p.found source = ([], none) := by
  unfold found
  rw [read_nothing h]
  rfl

theorem found_fault {finding : Finding} (h : ahead p.rest = .fault finding) :
    p.found source = ([], some ⟨finding.fault, lineAt source (p.offset + finding.offset),
      finding.near⟩) := by
  unfold found
  rw [read_fault h]
  rfl

theorem found_text {text : List Char} (h : ahead p.rest = .text text) :
    p.found source = ([⟨text, lineAt source p.offset, none⟩], none) := by
  unfold found
  rw [read_text h]
  rfl

theorem found_tagged {text rest : List Char} {tag : Tag}
    (h : ahead p.rest = .tagged text tag rest) :
    p.found source =
      (⟨(stripTrailing tag.pre text).1, lineAt source p.offset,
        some ⟨tag, lineAt source (p.offset + text.length), (stripTrailing tag.pre text).2,
          (stripLeading tag.post rest).1⟩⟩ :: ((p.after text tag rest).found source).1,
        ((p.after text tag rest).found source).2) := by
  unfold found
  rw [read_tagged h]
  rfl

end Found

/-- A place in a template: what is left is the template less what was read. -/
structure In (p : Place) (source before : List Char) : Prop where
  split : source = before ++ p.rest
  offset : p.offset = before.length

theorem in_start (source : List Char) : (Place.start source).In source [] :=
  ⟨rfl, rfl⟩

/-- The line of a place is one more than the number of line feeds before it. -/
theorem In.lineAt_eq {p : Place} {source before : List Char} (h : p.In source before) :
    lineAt source p.offset = newlines before + 1 := by
  rw [lineAt, h.split, h.offset, List.take_left]

theorem In.lineAt_add {p : Place} {source before text rest : List Char} (h : p.In source before)
    (hRest : text ++ rest = p.rest) :
    lineAt source (p.offset + text.length) = newlines (before ++ text) + 1 := by
  have hSource : source = (before ++ text) ++ rest := by
    rw [h.split, ← hRest, List.append_assoc]
  rw [lineAt, hSource, h.offset, ← List.length_append, List.take_left]

/-- The place after a tag. -/
theorem In.after {p : Place} {source before text rest : List Char} {tag : Tag}
    (h : p.In source before) (hAhead : ahead p.rest = .tagged text tag rest) :
    (p.after text tag rest).In source
      (before ++ text ++ tag.written ++ (stripLeading tag.post rest).1) := by
  constructor
  · rw [h.split, ← ahead_tagged hAhead, Place.after]
    simp only [List.append_assoc, stripLeading_append]
  · simp only [Place.after, h.offset, List.length_append]

end Place

/-! ## The cursor makes no difference -/

namespace LineCursor

/-- Whether a run gives a result with every cursor that is right, and leaves the cursor right. -/
def Gives {α : Type} (source : List Char) (r : StateM LineCursor α) (a : α) : Prop :=
  ∀ c : LineCursor, c.Valid source → ∃ c', r.run c = pure (a, c') ∧ c'.Valid source

variable {α β : Type} {source : List Char} {r : StateM LineCursor α} {a : α}

theorem gives_pure (source : List Char) (a : α) : Gives source (pure a) a :=
  fun c h => ⟨c, rfl, h⟩

theorem gives_lineOf (source : List Char) (offset : Nat) :
    Gives source (lineOf source offset) (lineAt source offset) := by
  intro c h
  refine ⟨c.seek source offset, ?_, seek_valid h offset⟩
  rw [← seek_line h offset]
  rfl

theorem Gives.bind {next : α → StateM LineCursor β} {b : β} (h : Gives source r a)
    (hNext : Gives source (next a) b) : Gives source (r >>= next) b := by
  intro c hc
  obtain ⟨c₁, hRun, hc₁⟩ := h c hc
  obtain ⟨c₂, hRunNext, hc₂⟩ := hNext c₁ hc₁
  refine ⟨c₂, ?_, hc₂⟩
  rw [StateT.run_bind, hRun, pure_bind]
  exact hRunNext

theorem gives_mapM_lineOf {offsetOf : β → Nat} (source : List Char) (l : List β) :
    Gives source (l.mapM fun b => lineOf source (offsetOf b))
      (l.map fun b => lineAt source (offsetOf b)) := by
  induction l with
  | nil => exact gives_pure source []
  | cons b l ih =>
    rw [List.mapM_cons, List.map_cons]
    exact (gives_lineOf source _).bind (ih.bind (gives_pure source _))

end LineCursor

open LineCursor in
/-- With a cursor that is right, a reading finds what it finds when each line is counted from the
start, and the cursor stays right. -/
theorem gives_read (source : List Char) (p : Place) :
    Gives source (p.read (lineOf source)) (p.found source) := by
  generalize hn : p.rest.length = n
  induction n using Nat.strongRecOn generalizing p with
  | ind n ih =>
    cases hAhead : ahead p.rest with
    | nothing =>
      rw [Place.read_nothing hAhead, Place.found_nothing hAhead]
      exact gives_pure source _
    | text text =>
      rw [Place.read_text hAhead, Place.found_text hAhead]
      exact (gives_lineOf source _).bind (gives_pure source _)
    | fault finding =>
      rw [Place.read_fault hAhead, Place.found_fault hAhead]
      refine (gives_mapM_lineOf source _).bind ?_
      exact (gives_lineOf source _).bind (gives_pure source _)
    | tagged text tag rest =>
      have hOthers := ih _ (hn ▸ Place.after_rest_lt hAhead) (p.after text tag rest) rfl
      rw [Place.read_tagged hAhead, Place.found_tagged hAhead]
      refine (gives_lineOf source _).bind ((gives_lineOf source _).bind ?_)
      exact hOthers.bind (gives_pure source _)

/-- A cursor that is right finds the segments of the template, and stays right. -/
theorem readWith_spec {source : List Char} {c : LineCursor} (h : c.Valid source) :
    (readWith source c).1 = readSegments source ∧ (readWith source c).2.Valid source := by
  obtain ⟨c', hRun, hc'⟩ := gives_read source (Place.start source) c h
  unfold readWith
  rw [hRun]
  exact ⟨rfl, hc'⟩

theorem segments_eq_ok_iff {source : List Char} {segs : List Segment} :
    segments source = .ok segs ↔ readSegments source = (segs, none) := by
  unfold segments
  split
  · rename_i segs' h
    rw [h]
    simp
  · rename_i segs' e h
    rw [h]
    simp

/-- A fresh cursor accepts a template exactly if it has segments. -/
theorem readWith_start_eq_iff {source : List Char} {segs : List Segment} :
    (readWith source LineCursor.start).1 = (segs, none) ↔ segments source = .ok segs := by
  rw [(readWith_spec (LineCursor.start_valid source)).1, segments_eq_ok_iff]

end Stencil.Template
