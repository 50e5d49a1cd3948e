import Mathlib.Order.Defs.Unbundled
import Stencil.Proofs.Script.Failing

/-!
# Runs that spare what was there

A run may add objects and variables, append to lists and write exceptions down that it catches.
`r.Spares S mark p fs` says that it does nothing else to what was there before the mark, however it
ends, and that the worlds before and after it are related by `S`. What it says of objects it says if
`p` holds, and then the faults that are being handled and the faults `fs`, which the run has at hand
and may write down again, have to be exception objects.

* `Machine.Grows`, `Heap.Grows`: what a run leaves of a machine.
* `Spares.bind`, `Spares.tryCatch`, `Spares.settle_bind`, `Spares.whileHandling`: runs made of runs.
* `Spares.newFrame_bind`, `spares_setVariable`: only new variables are given values.
* `Spares.fill`: an object that a run has made is its own until it is done.
-/

namespace Stencil.Script

variable {W α β : Type}

/-- How many objects and how many blocks of variables there were at some time. -/
structure Mark where
  objects : Nat
  frames : Nat

def Machine.mark (m : Machine W) : Mark := ⟨m.heap.size, m.frames.size⟩

/-- What can become of an object: a list can get other items, an exception another trace, and
nothing else can change. -/
inductive Mutability where
  | list
  | exception
  | steady
  deriving DecidableEq

def Object.mutability : Object → Mutability
  | .list _ => .list
  | .exception _ => .exception
  | _ => .steady

structure Heap.Grows (mark : Mark) (heap heap' : Heap) : Prop where
  kinds : ∀ (a : Address) o, heap[a]? = some o →
    ∃ o', heap'[a]? = some o' ∧ o'.mutability = o.mutability
  steady : ∀ a < mark.objects, ∀ o, heap[a]? = some o → o.mutability = .steady →
    heap'[a]? = some o

/-- Whether a fault is an exception object, if it is an object. -/
def Fault.IsObject (f : Fault) (heap : Heap) : Prop :=
  ∀ a, f.object? = some a → ∃ g, heap[a]? = some (.exception g)

structure Machine.Grows (S : W → W → Prop) (mark : Mark) (p : Prop) (m m' : Machine W) : Prop where
  objects : m.heap.size ≤ m'.heap.size
  size : m.frames.size ≤ m'.frames.size
  frames : ∀ a < mark.frames, m'.frames[a]? = m.frames[a]?
  handling : m'.handling = m.handling
  strict : m'.strict = m.strict
  warnings : m.warnings <+: m'.warnings
  issued : m.issued <+: m'.issued
  world : S m.world m'.world
  heap : p → m.heap.Grows mark m'.heap

structure Run.SparesAt (S : W → W → Prop) (mark : Mark) (p : Prop) (r : Run W α)
    (m : Machine W) : Prop where
  machine : m.Grows S mark p (r.perform m).2
  fault : p → ∀ f, (r.perform m).1 = .error f → f.IsObject (r.perform m).2.heap

/-- Whether a machine came after a mark, and the faults at hand are exception objects if `p`
holds. -/
structure Machine.Fits (mark : Mark) (p : Prop) (fs : List Fault) (m : Machine W) : Prop where
  objects : mark.objects ≤ m.heap.size
  frames : mark.frames ≤ m.frames.size
  sound : p → ∀ f ∈ fs ++ m.handling, f.IsObject m.heap

def Run.Spares (S : W → W → Prop) (mark : Mark) (p : Prop) (fs : List Fault) (r : Run W α) : Prop :=
  ∀ m : Machine W, m.Fits mark p fs → r.SparesAt S mark p m

variable {S : W → W → Prop} {mark : Mark} {p : Prop} {fs : List Fault} {m m' m'' : Machine W}
  {f : Fault}

/-! ## Objects and machines -/

namespace Heap.Grows

variable {heap heap' heap'' : Heap}

theorem refl (mark : Mark) (heap : Heap) : Grows mark heap heap :=
  ⟨fun _ o h => ⟨o, h, rfl⟩, fun _ _ _ h _ => h⟩

theorem trans (h : Grows mark heap heap') (h' : Grows mark heap' heap'') :
    Grows mark heap heap'' := by
  constructor
  case kinds =>
    intro a o hObject
    obtain ⟨o', hObject', hKind⟩ := h.kinds a o hObject
    obtain ⟨o'', hObject'', hKind'⟩ := h'.kinds a o' hObject'
    exact ⟨o'', hObject'', hKind'.trans hKind⟩
  case steady =>
    intro a ha o hObject hSteady
    exact h'.steady a ha o (h.steady a ha o hObject hSteady) hSteady

theorem push (mark : Mark) (heap : Heap) (o : Object) : Grows mark heap (heap.push o) := by
  have hKept : ∀ (a : Address) (o' : Object), heap[a]? = some o' →
      (heap.push o)[a]? = some o' := by
    intro a o' h
    have hLt : a < heap.size := (Array.getElem?_eq_some_iff.mp h).1
    rw [Array.getElem?_push, if_neg (Nat.ne_of_lt hLt)]
    exact h
  exact ⟨fun a o' h => ⟨o', hKept a o' h, rfl⟩, fun a _ o' h _ => hKept a o' h⟩

/-- An object may be replaced by one that can change in the same way, if it can change at all or is
new. -/
theorem set {a : Address} {old new : Object} (hOld : heap[a]? = some old)
    (hKind : new.mutability = old.mutability)
    (hFree : new.mutability ≠ .steady ∨ mark.objects ≤ a) :
    Grows mark heap (heap.setIfInBounds a new) := by
  have hLt : a < heap.size := (Array.getElem?_eq_some_iff.mp hOld).1
  constructor
  case kinds =>
    intro b o hObject
    by_cases hEq : a = b
    · subst hEq
      cases hOld.symm.trans hObject
      exact ⟨new, by simp [hLt], hKind⟩
    · exact ⟨o, by rw [Array.getElem?_setIfInBounds_ne hEq]; exact hObject, rfl⟩
  case steady =>
    intro b hb o hObject hSteady
    have hNe : a ≠ b := by
      intro hEq
      subst hEq
      cases hOld.symm.trans hObject
      rcases hFree with hMutable | hNew
      · exact hMutable (hKind.trans hSteady)
      · exact Nat.not_lt.mpr hNew hb
    rw [Array.getElem?_setIfInBounds_ne hNe]
    exact hObject

end Heap.Grows

theorem Fault.IsObject.grows {heap heap' : Heap} (hf : f.IsObject heap)
    (h : heap.Grows mark heap') : f.IsObject heap' := by
  intro a ha
  obtain ⟨g, hg⟩ := hf a ha
  obtain ⟨o, ho, hKind⟩ := h.kinds a _ hg
  cases o with
  | exception g' => exact ⟨g', ho⟩
  | _ => cases hKind

theorem Machine.Grows.refl [IsPreorder W S] (mark : Mark) (p : Prop) (m : Machine W) :
    m.Grows S mark p m where
  objects := Nat.le_refl _
  size := Nat.le_refl _
  frames _ _ := rfl
  handling := rfl
  strict := rfl
  warnings := List.prefix_rfl
  issued := List.prefix_rfl
  world := refl_of S _
  heap _ := .refl _ _

theorem Machine.Grows.trans [IsPreorder W S] (h : m.Grows S mark p m') (h' : m'.Grows S mark p m'') :
    m.Grows S mark p m'' where
  objects := Nat.le_trans h.objects h'.objects
  size := Nat.le_trans h.size h'.size
  frames a ha := (h'.frames a ha).trans (h.frames a ha)
  handling := h'.handling.trans h.handling
  strict := h'.strict.trans h.strict
  warnings := h.warnings.trans h'.warnings
  issued := h.issued.trans h'.issued
  world := trans_of S h.world h'.world
  heap hp := (h.heap hp).trans (h'.heap hp)

namespace Machine.Fits

theorem mem (h : m.Fits mark p fs) (hp : p) (hf : f ∈ fs) : f.IsObject m.heap :=
  h.sound hp f (List.mem_append_left _ hf)

theorem grows (h : m.Fits mark p fs) (hGrows : m.Grows S mark p m') : m'.Fits mark p fs where
  objects := Nat.le_trans h.objects hGrows.objects
  frames := Nat.le_trans h.frames hGrows.size
  sound hp f hf := (h.sound hp f (hGrows.handling ▸ hf)).grows (hGrows.heap hp)

theorem cons (h : m.Fits mark p fs) (hf : p → f.IsObject m.heap) : m.Fits mark p (f :: fs) := by
  refine ⟨h.objects, h.frames, ?_⟩
  intro hp g hg
  rcases List.mem_cons.mp hg with rfl | hg
  · exact hf hp
  · exact h.sound hp g hg

theorem mono {fs' : List Fault} (h : m.Fits mark p fs') (hFaults : fs ⊆ fs') :
    m.Fits mark p fs := by
  refine ⟨h.objects, h.frames, ?_⟩
  intro hp f hf
  rcases List.mem_append.mp hf with hf | hf
  · exact h.mem hp (hFaults hf)
  · exact h.sound hp f (List.mem_append_right _ hf)

end Machine.Fits

namespace Run

variable {r : Run W α} {next : α → Run W β} {a : α}

theorem perform_bind_error (hr : r.perform m = (.error f, m')) (next : α → Run W β) :
    (r >>= next).perform m = (.error f, m') := by
  replace hr : StateT.run (ExceptT.run r) m = (.error f, m') := hr
  show StateT.run (ExceptT.run (r >>= next)) m = _
  rw [ExceptT.run_bind, StateT.run_bind, hr]
  rfl

theorem perform_tryCatch_error (hr : r.perform m = (.error f, m')) (handle : Fault → Run W α) :
    (tryCatch r handle).perform m = (handle f).perform m' := by
  replace hr : StateT.run r m = (.error f, m') := hr
  show StateT.run (ExceptT.run (ExceptT.tryCatch r handle)) m = _
  simp only [ExceptT.tryCatch, ExceptT.run_mk, StateT.run_bind]
  rw [hr]
  rfl

/-! ## Runs of one machine -/

namespace SparesAt

theorem of_yields (hr : r.Yields m a m') (hGrows : m.Grows S mark p m') :
    r.SparesAt S mark p m := by
  replace hr : r.perform m = (.ok a, m') := hr
  constructor
  case machine => rw [hr]; exact hGrows
  case fault => simp [hr]

/-- A run that goes on as another one, of a machine that has grown. -/
theorem of_perform [IsPreorder W S] {r' : Run W α} (hr : r.perform m = r'.perform m')
    (hGrows : m.Grows S mark p m') (h : r'.SparesAt S mark p m') : r.SparesAt S mark p m := by
  obtain ⟨hGrows', hFault⟩ := h
  rw [← hr] at hGrows' hFault
  exact ⟨hGrows.trans hGrows', hFault⟩

/-- A part that only reads the machine does not matter. -/
theorem read (hr : r.Yields m a m) (h : (next a).SparesAt S mark p m) :
    (r >>= next).SparesAt S mark p m := by
  obtain ⟨hGrows, hFault⟩ := h
  rw [← hr.perform_bind next] at hGrows hFault
  exact ⟨hGrows, hFault⟩

theorem pure [IsPreorder W S] (a : α) : (Pure.pure a : Run W α).SparesAt S mark p m :=
  of_yields .pure (.refl _ _ _)

theorem fail [IsPreorder W S] (hf : p → f.IsObject m.heap) :
    (fail f : Run W α).SparesAt S mark p m := by
  refine ⟨.refl _ _ _, ?_⟩
  intro hp g hg
  cases hg
  exact hf hp

variable [IsPreorder W S]

theorem bind (hr : r.SparesAt S mark p m)
    (hNext : ∀ a m', r.Yields m a m' → m.Grows S mark p m' → (next a).SparesAt S mark p m') :
    (r >>= next).SparesAt S mark p m := by
  rcases hRun : r.perform m with ⟨x, m'⟩
  obtain ⟨hGrows, hFault⟩ := hr
  rw [hRun] at hGrows hFault
  cases x with
  | ok a => exact of_perform (Yields.perform_bind hRun next) hGrows (hNext a m' hRun hGrows)
  | error f =>
    have hBind := perform_bind_error hRun next
    constructor
    case machine => rw [hBind]; exact hGrows
    case fault =>
      intro hp g hg
      rw [hBind] at hg ⊢
      cases hg
      exact hFault hp f rfl

theorem tryCatch {handle : Fault → Run W α} (hr : r.SparesAt S mark p m)
    (hHandle : ∀ f m', m.Grows S mark p m' → (p → f.IsObject m'.heap) →
      (handle f).SparesAt S mark p m') :
    (tryCatch r handle).SparesAt S mark p m := by
  rcases hRun : r.perform m with ⟨x, m'⟩
  obtain ⟨hGrows, hFault⟩ := hr
  rw [hRun] at hGrows hFault
  cases x with
  | ok a => exact of_yields (Yields.tryCatch hRun) hGrows
  | error f =>
    have hObject : p → f.IsObject m'.heap := fun hp => hFault hp f rfl
    exact of_perform (perform_tryCatch_error hRun handle) hGrows (hHandle f m' hGrows hObject)

end SparesAt

/-! ## Changes of a machine -/

section

variable [IsPreorder W S]

theorem sparesAt_allocate (o : Object) : (allocate o).SparesAt S mark p m := by
  refine .of_yields (yields_allocate o m) ?_
  exact { Machine.Grows.refl mark p m with
    objects := by simp [Machine.withObject]
    heap := fun _ => .push _ _ _ }

theorem sparesAt_setObject {a : Address} {o : Object}
    (hFree : o.mutability ≠ .steady ∨ mark.objects ≤ a)
    (h : p → ∃ old, m.heap[a]? = some old ∧ o.mutability = old.mutability) :
    (setObject a o).SparesAt S mark p m := by
  refine .of_yields (yields_setObject a o m) ?_
  refine { Machine.Grows.refl mark p m with
    objects := by simp [Machine.putObject]
    heap := ?_ }
  intro hp
  obtain ⟨old, hOld, hKind⟩ := h hp
  exact .set hOld hKind hFree

/-- What was a list may get other items, whatever was done to it meanwhile. -/
theorem sparesAt_setList {a : Address} {items : List Value} (hList : m.heap[a]? = some (.list items))
    (hGrows : m.Grows S mark p m') (items' : List Value) :
    (setObject a (.list items')).SparesAt S mark p m' := by
  refine sparesAt_setObject (.inl (by simp [Object.mutability])) ?_
  intro hp
  obtain ⟨old, hOld, hKind⟩ := (hGrows.heap hp).kinds a _ hList
  exact ⟨old, hOld, hKind.symm⟩

theorem sparesAt_newFrame (v : Frame) (hFrames : mark.frames ≤ m.frames.size) :
    (newFrame v).SparesAt S mark p m := by
  refine .of_yields (yields_newFrame v m) ?_
  refine { Machine.Grows.refl mark p m with
    size := by simp [Machine.withFrame]
    frames := ?_ }
  intro a ha
  have hNe : a ≠ m.frames.size := by omega
  simp [Machine.withFrame, Array.getElem?_push, hNe]

theorem sparesAt_setVariable {a : Address} (ha : mark.frames ≤ a) (name : String)
    (v? : Option Value) : (setVariable a name v?).SparesAt S mark p m := by
  refine .of_yields (yields_modify _ m) ?_
  refine { Machine.Grows.refl mark p m with
    size := by simp
    frames := ?_ }
  intro b hb
  have hNe : a ≠ b := Nat.ne_of_gt (Nat.lt_of_lt_of_le hb ha)
  simp [Array.getElem?_modify, hNe]

theorem sparesAt_warn (kind : ErrorClass) (message : List Value) (line : Nat) :
    (warn kind message line : Run W Unit).SparesAt S mark p m := by
  refine .read (yields_get m) ?_
  split
  · exact .fail fun _ _ h => nomatch h
  · refine .of_yields (yields_modify _ m) ?_
    exact { Machine.Grows.refl mark p m with
      warnings := List.prefix_append _ _
      issued := List.prefix_append _ _ }

variable (S mark) in
/-- A fault that is written down is an exception object from then on. -/
theorem exists_kept (hf : p → f.IsObject m.heap) :
    ∃ g m', (keep f).Yields m g m' ∧ m.Grows S mark p m' ∧ (p → g.IsObject m'.heap) := by
  obtain ⟨kind, detail, trace, object?⟩ := f
  cases object? with
  | some a =>
    let f : Fault := ⟨kind, detail, trace, some a⟩
    have hObject : p → ∃ old, m.heap[a]? = some old ∧
        (Object.exception f).mutability = old.mutability := by
      intro hp
      obtain ⟨g, hg⟩ := hf hp a rfl
      exact ⟨_, hg, rfl⟩
    have hSet : (setObject a (.exception f)).SparesAt S mark p m :=
      sparesAt_setObject (.inl (by simp [Object.mutability])) hObject
    refine ⟨f, m.putObject a (.exception f), rfl, hSet.machine, ?_⟩
    intro hp b hb
    cases hb
    obtain ⟨old, hOld, -⟩ := hObject hp
    have hLt : a < m.heap.size := (Array.getElem?_eq_some_iff.mp hOld).1
    exact ⟨f, by simp [Machine.putObject, hLt]⟩
  | none =>
    let f : Fault := ⟨kind, detail, trace, none⟩
    have hNew : (allocate (.exception f)).SparesAt S mark p m := sparesAt_allocate _
    refine ⟨{ f with object? := some m.heap.size }, m.withObject (.exception f), rfl,
      hNew.machine, ?_⟩
    intro _ b hb
    cases hb
    exact ⟨f, by simp [Machine.withObject]⟩

/-- An exception that is raised again is the object that it was. -/
theorem sparesAt_raiseAgain (hf : p → f.IsObject m.heap) :
    (raiseAgain f : Run W α).SparesAt S mark p m := by
  have hCurrent : ∃ g, (current f).Yields m g m ∧ g.object? = f.object? := by
    cases hObject : f.value.object? m.heap with
    | none => exact ⟨f, (yields_object? hObject).bind .pure, rfl⟩
    | some o =>
      cases o with
      | exception g =>
        exact ⟨{ g with object? := f.object? }, (yields_object? hObject).bind .pure, rfl⟩
      | _ => exact ⟨f, (yields_object? hObject).bind .pure, rfl⟩
  obtain ⟨g, hYields, hSame⟩ := hCurrent
  refine .read hYields (.fail ?_)
  intro hp a ha
  exact hf hp a (hSame ▸ ha)

end

/-! ## Runs of all machines -/

section

variable [IsPreorder W S]

theorem spares_pure (a : α) : (pure a : Run W α).Spares S mark p fs := fun _ _ => .pure a

theorem spares_fail (hf : ∀ a, f.object? = some a → ∃ g ∈ fs, g.object? = some a) :
    (fail f : Run W α).Spares S mark p fs := by
  intro m h
  refine .fail ?_
  intro hp a ha
  obtain ⟨g, hg, hObject⟩ := hf a ha
  exact h.mem hp hg a hObject

theorem spares_fail_mem (hf : f ∈ fs) : (fail f : Run W α).Spares S mark p fs :=
  spares_fail fun _ h => ⟨f, hf, h⟩

theorem spares_fail_new (kind : ErrorClass) (detail : Detail) :
    (fail (.new kind detail) : Run W α).Spares S mark p fs := spares_fail fun _ h => nomatch h

theorem spares_raise (kind : ErrorClass) (message : String) :
    (raise kind message : Run W α).Spares S mark p fs := spares_fail_new _ _

theorem spares_typeError (message : String) : (typeError message : Run W α).Spares S mark p fs :=
  spares_raise _ _

theorem spares_of_read {r : Run W α} (h : ∀ m, ∃ a, r.Yields m a m) : r.Spares S mark p fs := by
  intro m _
  obtain ⟨a, hr⟩ := h m
  exact .of_yields hr (.refl _ _ _)

theorem spares_heap : (heap : Run W Heap).Spares S mark p fs :=
  spares_of_read fun m => ⟨_, yields_heap m⟩

theorem spares_world : (world : Run W W).Spares S mark p fs := spares_of_read fun _ => ⟨_, rfl⟩

theorem spares_typeOf (v : Value) : (typeOf v : Run W String).Spares S mark p fs :=
  spares_of_read fun m => ⟨_, yields_typeOf v m⟩

theorem spares_object? (v : Value) : (object? v : Run W (Option Object)).Spares S mark p fs :=
  spares_of_read fun _ => ⟨_, yields_object? rfl⟩

theorem spares_frame (a : Address) : (frame a : Run W Frame).Spares S mark p fs :=
  spares_of_read fun _ => ⟨_, rfl⟩

theorem spares_allocate (o : Object) : (allocate o : Run W Address).Spares S mark p fs :=
  fun _ _ => sparesAt_allocate o

theorem spares_setVariable {a : Address} (ha : mark.frames ≤ a) (name : String)
    (v? : Option Value) : (setVariable a name v? : Run W Unit).Spares S mark p fs :=
  fun _ _ => sparesAt_setVariable ha name v?

theorem spares_warn (kind : ErrorClass) (message : List Value) (line : Nat) :
    (warn kind message line : Run W Unit).Spares S mark p fs :=
  fun _ _ => sparesAt_warn kind message line

theorem spares_raiseAgain (hf : f ∈ fs) : (raiseAgain f : Run W α).Spares S mark p fs :=
  fun _ h => sparesAt_raiseAgain fun hp => h.mem hp hf

end

namespace Spares

theorem mono {fs' : List Fault} (h : r.Spares S mark p fs) (hFaults : fs ⊆ fs') :
    r.Spares S mark p fs' := fun m hm => h m (hm.mono hFaults)

/-- Nothing comes after an exception. -/
theorem raise_bind [IsPreorder W S] (kind : ErrorClass) (message : String)
    (next : α → Run W β) : (raise kind message >>= next).Spares S mark p fs := by
  intro m _
  have hRun : (raise kind message : Run W α).perform m = (.error (.ofMessage kind message), m) :=
    rfl
  have hBind := perform_bind_error hRun next
  constructor
  case machine => rw [hBind]; exact .refl _ _ _
  case fault =>
    rw [hBind]
    rintro _ _ ⟨⟩ a ha
    cases ha

theorem ite {c : Prop} [Decidable c] {r' : Run W α} (hr : r.Spares S mark p fs)
    (hr' : r'.Spares S mark p fs) : (if c then r else r').Spares S mark p fs := by
  split
  · exact hr
  · exact hr'

variable [IsPreorder W S]

theorem bind (hr : r.Spares S mark p fs) (hNext : ∀ a, (next a).Spares S mark p fs) :
    (r >>= next).Spares S mark p fs :=
  fun m h => (hr m h).bind fun a m' _ hGrows => hNext a m' (h.grows hGrows)

theorem tryCatch {handle : Fault → Run W α} (hr : r.Spares S mark p fs)
    (hHandle : ∀ f, (handle f).Spares S mark p (f :: fs)) :
    (tryCatch r handle).Spares S mark p fs := by
  intro m h
  refine (hr m h).tryCatch ?_
  intro f m' hGrows hObject
  exact hHandle f m' ((h.grows hGrows).cons hObject)

theorem newFrame_bind {v : Frame} {next : Address → Run W β}
    (hNext : ∀ a, mark.frames ≤ a → (next a).Spares S mark p fs) :
    (newFrame v >>= next).Spares S mark p fs := by
  intro m h
  refine (sparesAt_newFrame v h.frames).bind ?_
  intro a m' hNew hGrows
  cases hNew
  exact hNext _ h.frames _ (h.grows hGrows)

theorem newObject (o : Object) : (newObject o : Run W Value).Spares S mark p fs :=
  (spares_allocate o).bind fun _ => spares_pure _

/-- An object that is put in a place that was kept for it. -/
theorem fill {o : Object} {r : Address → Run W α} {full : α → Object}
    (hr : ∀ a, (r a).Spares S mark p fs) (hKind : ∀ x, (full x).mutability = o.mutability) :
    (do
      let a ← allocate o
      setObject a (full (← r a))
      return .ref a : Run W Value).Spares S mark p fs := by
  intro m h
  refine (sparesAt_allocate o).bind ?_
  intro a m₁ hNew hGrows
  cases hNew
  have hPlace : (m.withObject o).heap[m.heap.size]? = some o := by simp [Machine.withObject]
  refine (hr _ _ (h.grows hGrows)).bind ?_
  intro x m₂ _ hGrows'
  refine SparesAt.bind (sparesAt_setObject (.inr h.objects) ?_) fun _ _ _ _ => .pure _
  intro hp
  obtain ⟨old, hOld, hSame⟩ := (hGrows'.heap hp).kinds _ _ hPlace
  exact ⟨old, hOld, (hKind x).trans hSame.symm⟩

theorem through (s : Step) (hr : r.Spares S mark p fs) : (through s r).Spares S mark p fs := by
  refine hr.tryCatch fun f => ?_
  exact spares_fail fun a ha => ⟨f, List.mem_cons_self, ha⟩

theorem keep_bind {next : Fault → Run W β}
    (hf : ∀ a, f.object? = some a → ∃ g ∈ fs, g.object? = some a)
    (hNext : ∀ g, (next g).Spares S mark p (g :: fs)) : (keep f >>= next).Spares S mark p fs := by
  intro m h
  have hObject : p → f.IsObject m.heap := by
    intro hp a ha
    obtain ⟨g, hg, hSame⟩ := hf a ha
    exact h.mem hp hg a hSame
  obtain ⟨g, m', hKeep, hGrows, hKept⟩ := exists_kept S mark hObject
  exact .of_perform (hKeep.perform_bind next) hGrows (hNext g m' ((h.grows hGrows).cons hKept))

/-- A run that is settled yields in any case. -/
theorem exists_settled (hr : r.SparesAt S mark p m) :
    ∃ outcome m', (settle r).Yields m outcome m' ∧ m.Grows S mark p m' ∧
      ∀ f, outcome = .error f → p → f.IsObject m'.heap := by
  rcases hRun : r.perform m with ⟨x, m'⟩
  obtain ⟨hGrows, hFault⟩ := hr
  rw [hRun] at hGrows hFault
  cases x with
  | ok a =>
    refine ⟨.ok a, m', Yields.settle hRun, hGrows, ?_⟩
    intro f hf
    cases hf
  | error f =>
    have hSettle : (settle r).perform m = (do return Except.error (← keep f)).perform m' :=
      perform_tryCatch_error (perform_bind_error hRun _) _
    have hObject : p → f.IsObject m'.heap := fun hp => hFault hp f rfl
    obtain ⟨g, m'', hKeep, hGrows', hKept⟩ := exists_kept S mark hObject
    refine ⟨.error g, m'', hSettle.trans (hKeep.bind .pure), hGrows.trans hGrows', ?_⟩
    rintro _ ⟨⟩
    exact hKept

theorem settle_bind {next : Except Fault α → Run W β} (hr : r.Spares S mark p fs)
    (hOk : ∀ a, (next (.ok a)).Spares S mark p fs)
    (hError : ∀ g, (next (.error g)).Spares S mark p (g :: fs)) :
    (settle r >>= next).Spares S mark p fs := by
  intro m h
  obtain ⟨outcome, m', hSettle, hGrows, hObject⟩ := exists_settled (hr m h)
  refine .of_perform (hSettle.perform_bind next) hGrows ?_
  cases outcome with
  | ok a => exact hOk a m' (h.grows hGrows)
  | error f => exact hError f m' ((h.grows hGrows).cons (hObject f rfl))

omit [IsPreorder W S] in
theorem perform_whileHandling (f : Fault) (r : Run W α) (m : Machine W) :
    (whileHandling f r).perform m =
      ((r.perform { m with handling := f :: m.handling }).1,
        { (r.perform { m with handling := f :: m.handling }).2 with handling := m.handling }) := by
  refine ((yields_get m).perform_bind _).trans (((yields_modify _ m).perform_bind _).trans ?_)
  rcases hRun : r.perform { m with handling := f :: m.handling } with ⟨x, m'⟩
  cases x with
  | ok a => exact Yields.bind (Yields.tryCatch (Yields.bind hRun rfl)) rfl
  | error g => exact perform_bind_error (perform_tryCatch_error (perform_bind_error hRun _) _) _

omit [IsPreorder W S] in
theorem whileHandling (hr : r.Spares S mark p fs) (hf : f ∈ fs) :
    (whileHandling f r).Spares S mark p fs := by
  intro m h
  have hFits : Machine.Fits mark p fs { m with handling := f :: m.handling } := by
    refine ⟨h.objects, h.frames, ?_⟩
    intro hp g hg
    rcases List.mem_append.mp hg with hg | hg
    · exact h.mem hp hg
    · rcases List.mem_cons.mp hg with rfl | hg
      · exact h.mem hp hf
      · exact h.sound hp g (List.mem_append_right _ hg)
  obtain ⟨hGrows, hFault⟩ := hr _ hFits
  constructor
  case machine =>
    rw [perform_whileHandling]
    exact { hGrows with handling := rfl }
  case fault =>
    rw [perform_whileHandling]
    exact hFault

/-! ### Loops -/

theorem mapM {g : α → Run W β} (hg : ∀ a, (g a).Spares S mark p fs) (l : List α) :
    (l.mapM g).Spares S mark p fs := by
  induction l with
  | nil =>
    rw [List.mapM_nil]
    exact spares_pure _
  | cons a l ih =>
    rw [List.mapM_cons]
    exact (hg a).bind fun _ => ih.bind fun _ => spares_pure _

theorem foldlM {g : β → α → Run W β} (hg : ∀ b a, (g b a).Spares S mark p fs) (l : List α)
    (b : β) : (l.foldlM g b).Spares S mark p fs := by
  induction l generalizing b with
  | nil => exact spares_pure b
  | cons a l ih =>
    rw [List.foldlM_cons]
    exact (hg b a).bind ih

theorem forM {g : α → Run W PUnit} (hg : ∀ a, (g a).Spares S mark p fs) (l : List α) :
    (l.forM g).Spares S mark p fs := by
  induction l with
  | nil => exact spares_pure _
  | cons a l ih => exact (hg a).bind fun _ => ih

end Spares

attribute [grind ←] spares_pure spares_fail_new spares_raise spares_typeError spares_heap
  spares_typeOf spares_object? spares_frame spares_allocate spares_warn Spares.bind
  Spares.newObject Spares.mapM Spares.foldlM

end Run

end Stencil.Script
