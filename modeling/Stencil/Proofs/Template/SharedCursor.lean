import Mathlib.Data.List.Induction
import Mathlib.Logic.Function.Iterate
import Stencil.Proofs.Template.Reading

/-!
# Readings that share a cursor

A template may be read several times with one cursor. Each reading goes on by one segment when it is
asked to, and lines may be looked up in between, so that the cursor is moved to and fro by all of
them; a reading that ends with an error leaves it at that error. None of this can be seen in what
they find.

* `Reading.advance`: a reading that goes on by one segment at a time.
* `Session.after`: readings and look-ups that share a cursor, in any order.
* `Reading.gives_advance`: with a cursor that is right, a reading goes on as if each line were
  counted from the start.
* `Reading.iterate_step`: what a reading has that was asked some number of times.
* `shared_cursor_leaves_no_trace`: each look-up has the line of its offset, and each reading has the
  first segments of a reading with a cursor of its own, or all of them and its error.
-/

namespace Stencil.Template

open Text

/-- A reading that goes on by one segment at a time. -/
structure Reading where
  /-- Where it stands; nowhere if it has ended. -/
  place? : Option Place
  /-- The segments that it has given. -/
  segments : List Segment
  /-- The error that has ended it, if one has. -/
  error? : Option TagError
  deriving Inhabited

namespace Reading

/-- A reading that has not been asked for anything. -/
def start (source : List Char) : Reading := ⟨some (.start source), [], none⟩

/-- A reading after what it has found in a step. -/
def after (r : Reading) : Step → Reading
  | .done => { r with place? := none }
  | .failed e => { r with place? := none, error? := some e }
  | .found segment next => { r with place? := some next, segments := r.segments ++ [segment] }

/-- Asks a reading for the next segment. One that has ended gives no more. -/
def advance {m : Type → Type} [Monad m] (lineOf : Nat → m Nat) (r : Reading) : m Reading := do
  match r.place? with
  | none => return r
  | some p => return r.after (← p.next lineOf)

end Reading

/-- What is done with a cursor. -/
inductive Use where
  /-- The line of an offset is looked up. -/
  | line (offset : Nat)
  /-- A reading, given by its number, is asked for its next segment. -/
  | advance (number : Nat)
  deriving DecidableEq, Repr

/-- The offset that is looked up. -/
def Use.offset? : Use → Option Nat
  | line offset => some offset
  | advance _ => none

/-- Readings with a cursor that they share. -/
structure Session where
  /-- The cursor. -/
  cursor : LineCursor
  /-- The readings, by number. A reading that was never asked has not moved the cursor. -/
  readings : Nat → Reading
  /-- The lines that were looked up, in order. -/
  lines : List Nat

namespace Session

def start (source : List Char) : Session := ⟨.start, fun _ => .start source, []⟩

def use (source : List Char) (s : Session) : Use → Session
  | .line offset =>
    let (line, cursor) := Id.run ((LineCursor.lineOf source offset).run s.cursor)
    { s with cursor, lines := s.lines ++ [line] }
  | .advance number =>
    let (r, cursor) :=
      Id.run (((s.readings number).advance (LineCursor.lineOf source)).run s.cursor)
    { s with cursor, readings := fun k => if k = number then r else s.readings k }

/-- A session after some uses of its cursor. -/
def after (source : List Char) (uses : List Use) : Session :=
  uses.foldl (Session.use source) (start source)

end Session

/-! ## Lines that are looked up -/

theorem linesOf_eq (source : List Char) (offsets : List Nat) :
    linesOf source offsets = offsets.map (lineAt source) := by
  have hGives : LineCursor.Gives source (offsets.mapM (LineCursor.lineOf source))
      (offsets.map (lineAt source)) := LineCursor.gives_mapM_lineOf source offsets
  obtain ⟨c, hRun, -⟩ := hGives LineCursor.start (LineCursor.start_valid source)
  unfold linesOf
  rw [hRun]
  rfl

/-! ## One step -/

/-- The step from a place when each line is counted from the start. -/
def Place.step (source : List Char) (p : Place) : Step :=
  Id.run (p.next fun offset => pure (lineAt source offset))

section Steps

variable {source : List Char} {p : Place}

theorem Place.step_nothing (h : ahead p.rest = .nothing) : p.step source = .done := by
  simp [Place.step, Place.next, h]

theorem Place.step_text {text : List Char} (h : ahead p.rest = .text text) :
    p.step source =
      .found ⟨text, lineAt source p.offset, none⟩ ⟨p.offset + text.length, []⟩ := by
  simp [Place.step, Place.next, h]

theorem Place.step_fault {finding : Finding} (h : ahead p.rest = .fault finding) :
    p.step source = .failed ⟨finding.fault, lineAt source (p.offset + finding.offset),
      finding.near⟩ := by
  simp [Place.step, Place.next, h]

theorem Place.step_tagged {text rest : List Char} {tag : Tag}
    (h : ahead p.rest = .tagged text tag rest) :
    p.step source = .found ⟨(stripTrailing tag.pre text).1, lineAt source p.offset,
      some ⟨tag, lineAt source (p.offset + text.length), (stripTrailing tag.pre text).2,
        (stripLeading tag.post rest).1⟩⟩ (p.after text tag rest) := by
  simp [Place.step, Place.next, h]

open LineCursor in
theorem Place.gives_next (source : List Char) (p : Place) :
    Gives source (p.next (lineOf source)) (p.step source) := by
  unfold Place.next
  cases hAhead : ahead p.rest with
  | nothing =>
    rw [step_nothing hAhead]
    exact gives_pure source _
  | text text =>
    rw [step_text hAhead]
    exact (gives_lineOf source _).bind (gives_pure source _)
  | fault finding =>
    rw [step_fault hAhead]
    refine (gives_mapM_lineOf source _).bind ?_
    exact (gives_lineOf source _).bind (gives_pure source _)
  | tagged text tag rest =>
    rw [step_tagged hAhead]
    refine (gives_lineOf source _).bind ((gives_lineOf source _).bind ?_)
    exact gives_pure source _

end Steps

namespace Reading

/-- A reading that was asked once more, with each line counted from the start. -/
def step (source : List Char) (r : Reading) : Reading :=
  match r.place? with
  | none => r
  | some p => r.after (p.step source)

open LineCursor in
theorem gives_advance (source : List Char) (r : Reading) :
    Gives source (r.advance (lineOf source)) (r.step source) := by
  obtain ⟨place?, segments, error?⟩ := r
  cases place? with
  | none => exact gives_pure source _
  | some p => exact (p.gives_next source).bind (gives_pure source _)

/-! ## A reading that is asked again and again -/

theorem step_ended (source : List Char) (segments : List Segment) (error? : Option TagError) :
    step source ⟨none, segments, error?⟩ = ⟨none, segments, error?⟩ := rfl

theorem iterate_ended (source : List Char) (segments : List Segment) (error? : Option TagError)
    (n : Nat) : (step source)^[n] ⟨none, segments, error?⟩ = ⟨none, segments, error?⟩ :=
  Function.iterate_fixed (step_ended source segments error?) n

/-- What a reading has that was asked `n` times, given all that can be found: the first segments,
and once it was asked for more than there are, the error. -/
structure Has (all : List Segment × Option TagError) (n : Nat) (r : Reading) : Prop where
  segments : r.segments = all.1.take n
  error : r.error? = if all.1.length < n then all.2 else none
  ended : r.place? = none ↔ all.1.length < n

theorem has_ended (given : List Segment) (error? : Option TagError) (n : Nat) :
    Has (given, error?) (given.length + (n + 1)) ⟨none, given, error?⟩ := by
  have hLt : given.length < given.length + (n + 1) := by omega
  refine ⟨(List.take_of_length_le (Nat.le_of_lt hLt)).symm, ?_, iff_of_true rfl hLt⟩
  rw [if_pos hLt]

theorem has_unasked (all : List Segment × Option TagError) (p : Place) {given : List Segment}
    (h : given <+: all.1) : Has all given.length ⟨some p, given, none⟩ := by
  have hLe : ¬ all.1.length < given.length := Nat.not_lt.mpr h.length_le
  refine ⟨List.prefix_iff_eq_take.mp h, ?_, iff_of_false nofun hLe⟩
  rw [if_neg hLe]

theorem Has.later {given later : List Segment} {segment : Segment} {error? : Option TagError}
    {n : Nat} {r : Reading}
    (h : Has (given ++ [segment] ++ later, error?) ((given ++ [segment]).length + n) r) :
    Has (given ++ segment :: later, error?) (given.length + (n + 1)) r := by
  have hLength : (given ++ [segment]).length + n = given.length + (n + 1) := by
    rw [List.length_append, List.length_singleton]
    omega
  rw [hLength, List.append_assoc] at h
  exact h

/-- What a reading has given stands before what is found from its place on. -/
theorem iterate_step (source : List Char) (p : Place) (given : List Segment) (n : Nat) :
    Has (given ++ (p.found source).1, (p.found source).2) (given.length + n)
      ((step source)^[n] ⟨some p, given, none⟩) := by
  induction n generalizing p given with
  | zero => exact has_unasked _ p (List.prefix_append given _)
  | succ n ih =>
    have hStep : step source ⟨some p, given, none⟩ =
        after ⟨some p, given, none⟩ (p.step source) := rfl
    rw [Function.iterate_succ_apply, hStep]
    cases hAhead : ahead p.rest with
    | nothing =>
      rw [Place.step_nothing hAhead, Place.found_nothing hAhead, after, iterate_ended,
        List.append_nil]
      exact has_ended given none n
    | fault finding =>
      rw [Place.step_fault hAhead, Place.found_fault hAhead, after, iterate_ended,
        List.append_nil]
      exact has_ended given _ n
    | text text =>
      -- Nothing is ahead of the place after the last text.
      have hRest := ih ⟨p.offset + text.length, []⟩
        (given ++ [⟨text, lineAt source p.offset, none⟩])
      rw [Place.found_nothing rfl] at hRest
      rw [Place.step_text hAhead, Place.found_text hAhead]
      exact hRest.later
    | tagged text tag rest =>
      rw [Place.step_tagged hAhead, Place.found_tagged hAhead]
      exact (ih (p.after text tag rest) (given ++ [_])).later

end Reading

/-! ## Sessions -/

/-- A session of which nothing depends on the order in which its cursor was used, but for the order
of the lines. -/
structure Session.Traceless (source : List Char) (uses : List Use) (s : Session) : Prop where
  cursor : s.cursor.Valid source
  lines : s.lines = (uses.filterMap Use.offset?).map (lineAt source)
  readings : ∀ k, s.readings k =
    (Reading.step source)^[uses.count (.advance k)] (.start source)

namespace Session

variable {source : List Char} {uses : List Use} {s : Session}

theorem Traceless.use (h : s.Traceless source uses) (u : Use) :
    (s.use source u).Traceless source (uses ++ [u]) := by
  cases u with
  | line offset =>
    obtain ⟨c, hRun, hc⟩ := LineCursor.gives_lineOf source offset s.cursor h.cursor
    simp only [Session.use, hRun]
    refine ⟨hc, ?_, fun k => ?_⟩
    · simp [h.lines, Use.offset?]
    · simp [h.readings k]
  | advance number =>
    obtain ⟨c, hRun, hc⟩ :=
      Reading.gives_advance source (s.readings number) s.cursor h.cursor
    simp only [Session.use, hRun]
    refine ⟨hc, ?_, fun k => ?_⟩
    · simp [h.lines, Use.offset?]
    · by_cases hk : k = number
      · subst hk
        simp [h.readings k, Function.iterate_succ_apply']
      · have hNe : (Use.advance number) ≠ .advance k := fun hEq => hk (Use.advance.inj hEq).symm
        simp [hk, h.readings k, hNe]

theorem traceless_after (source : List Char) (uses : List Use) :
    (after source uses).Traceless source uses := by
  induction uses using List.reverseRecOn with
  | nil => exact ⟨LineCursor.start_valid source, rfl, fun _ => rfl⟩
  | append_singleton uses u ih =>
    have hLast : after source (uses ++ [u]) = (after source uses).use source u := by
      simp [after]
    rw [hLast]
    exact ih.use u

end Session

/-- **A cursor that is shared leaves no trace.** Whatever is done with it in whatever order, each
line that is looked up is one more than the number of line feeds before the offset, and a reading
that was asked `n` times has the first `n` segments of a reading with a cursor of its own; if there
are fewer, it has ended as that one does. -/
theorem shared_cursor_leaves_no_trace (source : List Char) (uses : List Use) :
    (Session.after source uses).lines =
        (uses.filterMap Use.offset?).map (fun offset => newlines (source.take offset) + 1) ∧
      ∀ k, ((Session.after source uses).readings k).Has
        (readWith source LineCursor.start).1 (uses.count (.advance k)) := by
  have h := Session.traceless_after source uses
  have hWhole : (readWith source LineCursor.start).1 = (Place.start source).found source :=
    (readWith_spec (LineCursor.start_valid source)).1
  refine ⟨h.lines, fun k => ?_⟩
  have hHas := Reading.iterate_step source (.start source) [] (uses.count (.advance k))
  rw [List.nil_append, List.length_nil, Nat.zero_add] at hHas
  rw [h.readings k, hWhole]
  exact hHas

/-- Lines that are looked up between the segments of two readings, past the end and at the start. -/
example : (Session.after "a\n[[ b ]]\nc".toList
    [.advance 0, .line 12, .advance 1, .line 0, .advance 0]).lines = [3, 1] := by decide +kernel

end Stencil.Template
