import Stencil.Proofs.Script.Sparing
import Stencil.Script.Build

/-!
# Runs that only add objects

Values that are made of data, and copies of values, are new objects. Nothing else is changed on the
way, also if a value turns out to be part of itself, and this is all that can go wrong.

* `Machine.Adds`: machines that have some more objects and are the same otherwise.
* `Run.OnlyAdds`: runs that leave such machines, and what may end them early.
* `onlyAdds_ofOptions`, `onlyAdds_copyAll`: options that are made of data, and values that are
  copied.
-/

namespace Stencil.Script

variable {W α β : Type}

/-! ## Machines with more objects -/

/-- Whether a machine has some more objects than another and is the same otherwise. -/
structure Machine.Adds (m m' : Machine W) : Prop where
  same : m' = { m with heap := m'.heap }
  size : m.heap.size ≤ m'.heap.size
  heap : ∀ a < m.heap.size, m'.heap[a]? = m.heap[a]?

namespace Machine.Adds

variable {m m' m'' : Machine W}

theorem refl (m : Machine W) : m.Adds m := ⟨rfl, Nat.le_refl _, fun _ _ => rfl⟩

theorem trans (h : m.Adds m') (h' : m'.Adds m'') : m.Adds m'' where
  same := by rw [h'.same, h.same]
  size := Nat.le_trans h.size h'.size
  heap a ha := (h'.heap a (Nat.lt_of_lt_of_le ha h.size)).trans (h.heap a ha)

theorem withObject (m : Machine W) (o : Object) : m.Adds (m.withObject o) where
  same := rfl
  size := by simp [Machine.withObject]
  heap a ha := by simp [Machine.withObject, Array.getElem?_push, Nat.ne_of_lt ha]

/-- An object that was added first may be filled last. -/
theorem fill {o : Object} (h : (m.withObject o).Adds m') (o' : Object) :
    m.Adds (m'.putObject m.heap.size o') := by
  have hWhole := (withObject m o).trans h
  refine ⟨?_, ?_, fun a ha => ?_⟩
  · rw [Machine.putObject, hWhole.same]
  · simpa [Machine.putObject] using hWhole.size
  · rw [heap_putObject (Nat.ne_of_lt ha)]
    exact hWhole.heap a ha

theorem heap_fill {o : Object} (h : (m.withObject o).Adds m') (o' : Object) :
    (m'.putObject m.heap.size o').heap[m.heap.size]? = some o' := by
  refine heap_putObject_self (o := o) ?_ o'
  rw [h.heap _ (by simp [Machine.withObject])]
  exact m.heap_withObject_self o

end Machine.Adds

/-! ## Runs that add objects -/

/-- Whether all that a run changes is that it adds objects, and it ends early only because a value
is part of itself. -/
def Run.OnlyAdds (r : Run W α) : Prop :=
  ∀ m x m', r.perform m = (x, m') → m.Adds m' ∧ ∀ f, x = .error f → f.kind = .valueError

open Run

namespace Run.OnlyAdds

variable {r : Run W α} {next : α → Run W β}

theorem of_yields (h : ∀ m, ∃ a m', r.Yields m a m' ∧ m.Adds m') : r.OnlyAdds := by
  intro m x m' hRun
  obtain ⟨a, m₁, hYields, hAdds⟩ := h m
  cases Eq.trans (Eq.symm hYields) hRun
  exact ⟨hAdds, fun _ hError => nomatch hError⟩

/-- Such a run comes to its end, or it fails with the exception about such a value. -/
theorem ends (h : r.OnlyAdds) (m : Machine W) :
    (∃ a m', r.Yields m a m' ∧ m.Adds m') ∨ r.Fails m fun f => f.kind = .valueError := by
  rcases hRun : r.perform m with ⟨x, m'⟩
  obtain ⟨hAdds, hKind⟩ := h m x m' hRun
  cases x with
  | ok a => exact .inl ⟨a, m', hRun, hAdds⟩
  | error f => exact .inr ⟨f, m', hRun, hKind f rfl⟩

theorem adds {m m' : Machine W} {a : α} (h : r.OnlyAdds) (hr : r.Yields m a m') : m.Adds m' :=
  (h m (.ok a) m' hr).1

theorem pure (a : α) : (Pure.pure a : Run W α).OnlyAdds :=
  of_yields fun m => ⟨a, m, .pure, .refl m⟩

theorem circular : (Script.circular : Run W α).OnlyAdds := by
  intro m x m' hRun
  cases hRun
  refine ⟨.refl m, fun f hError => ?_⟩
  cases hError
  rfl

theorem bind (h : r.OnlyAdds) (hNext : ∀ a, (next a).OnlyAdds) : (r >>= next).OnlyAdds := by
  intro m x m' hRun
  rcases hFirst : r.perform m with ⟨y, m₁⟩
  obtain ⟨hAdds, hKind⟩ := h m y m₁ hFirst
  cases y with
  | ok a =>
    rw [Yields.perform_bind hFirst] at hRun
    obtain ⟨hAdds', hKind'⟩ := hNext a m₁ x m' hRun
    exact ⟨hAdds.trans hAdds', hKind'⟩
  | error g =>
    rw [perform_bind_error hFirst] at hRun
    cases hRun
    refine ⟨hAdds, fun f hError => ?_⟩
    cases hError
    exact hKind g rfl

theorem mapM {f : α → Run W β} (h : ∀ a, (f a).OnlyAdds) (l : List α) :
    (l.mapM f).OnlyAdds := by
  induction l with
  | nil => exact .pure []
  | cons a l ih =>
    rw [List.mapM_cons]
    exact (h a).bind fun b => ih.bind fun bs => .pure _

theorem allocate (o : Object) : (Run.allocate o : Run W Address).OnlyAdds :=
  of_yields fun m => ⟨_, _, yields_allocate o m, .withObject m o⟩

theorem newObject (o : Object) : (Run.newObject o : Run W Value).OnlyAdds :=
  of_yields fun m => ⟨_, _, yields_newObject o m, .withObject m o⟩

theorem object? (v : Value) : (Run.object? v : Run W (Option Object)).OnlyAdds :=
  of_yields fun m => ⟨_, m, yields_object? rfl, .refl m⟩

/-- An object may be there before it is known what it is. -/
theorem filled {r : Address → Run W α} {o : Object} {o' : α → Object} (h : ∀ a, (r a).OnlyAdds) :
    (do
      let a ← Run.allocate o
      Run.setObject a (o' (← r a))
      return Value.ref a).OnlyAdds := by
  intro m x m' hRun
  have hFirst := yields_allocate o m
  rw [hFirst.perform_bind] at hRun
  rcases hItems : (r m.heap.size).perform (m.withObject o) with ⟨y, m₁⟩
  obtain ⟨hAdds, hKind⟩ := h _ _ y m₁ hItems
  cases y with
  | ok a =>
    rw [Yields.perform_bind hItems] at hRun
    cases hRun
    exact ⟨hAdds.fill _, fun _ hError => nomatch hError⟩
  | error g =>
    rw [perform_bind_error hItems] at hRun
    cases hRun
    refine ⟨(Machine.Adds.withObject m o).trans hAdds, fun f hError => ?_⟩
    cases hError
    exact hKind g rfl

end Run.OnlyAdds

/-! ## Values of data -/

mutual

theorem onlyAdds_valueWithin : ∀ (d : Data) (around : List Address),
    (valueWithin around d : Run W Value).OnlyAdds
  | .list items, around =>
    .filled fun a => onlyAdds_valuesWithin items (a :: around)
  | .dict entries, around =>
    .filled fun a => onlyAdds_entriesWithin entries (a :: around)
  | .set items, around =>
    .filled fun a => onlyAdds_valuesWithin items (a :: around)
  | .tuple items, around =>
    (onlyAdds_valuesWithin items around).bind fun _ => .newObject _
  | .within level, around => by
    rw [valueWithin]
    cases around[level]? with
    | some a => exact .pure _
    | none => exact .circular
  | .null, _ | .bool _, _ | .int _, _ | .float _, _ | .text _, _ | .moment _, _ | .bytes _, _
  | .member _, _ => .pure _

theorem onlyAdds_valuesWithin : ∀ (items : List Data) (around : List Address),
    (valuesWithin around items : Run W (List Value)).OnlyAdds
  | [], _ => .pure []
  | d :: items, around =>
    (onlyAdds_valueWithin d around).bind fun _ =>
      (onlyAdds_valuesWithin items around).bind fun _ => .pure _

theorem onlyAdds_entriesWithin : ∀ (entries : List (Data × Data)) (around : List Address),
    (entriesWithin around entries : Run W (List (Value × Value))).OnlyAdds
  | [], _ => .pure []
  | (key, d) :: entries, around =>
    (onlyAdds_valueWithin key around).bind fun _ => (onlyAdds_valueWithin d around).bind fun _ =>
      (onlyAdds_entriesWithin entries around).bind fun _ => .pure _

end

theorem onlyAdds_ofEntries (e : Entries Data) : (ofEntries e : Run W (Entries Value)).OnlyAdds := by
  refine .mapM (fun p => ?_) e
  exact (onlyAdds_valueWithin p.2 []).bind fun _ => .pure _

theorem onlyAdds_ofOptions (o : Options Data) : (ofOptions o : Run W (Options Value)).OnlyAdds := by
  unfold ofOptions
  cases o.params? with
  | none => exact (onlyAdds_ofEntries o.extras).bind fun _ => .pure _
  | some params =>
    exact (onlyAdds_ofEntries params).bind fun _ =>
      (onlyAdds_ofEntries o.extras).bind fun _ => .pure _

/-- Whether options have the same fields, apart from their parameters. -/
structure SameFields (o : Options α) (d : Options β) : Prop where
  inputFile? : o.inputFile? = d.inputFile?
  inputString? : o.inputString? = d.inputString?
  path? : o.path? = d.path?
  raw? : o.raw? = d.raw?
  preprocessOnly? : o.preprocessOnly? = d.preprocessOnly?
  encoding? : o.encoding? = d.encoding?

theorem SameFields.trans {γ : Type} {o : Options α} {d : Options β} {e : Options γ}
    (h : SameFields o d) (h' : SameFields d e) : SameFields o e where
  inputFile? := h.inputFile?.trans h'.inputFile?
  inputString? := h.inputString?.trans h'.inputString?
  path? := h.path?.trans h'.path?
  raw? := h.raw?.trans h'.raw?
  preprocessOnly? := h.preprocessOnly?.trans h'.preprocessOnly?
  encoding? := h.encoding?.trans h'.encoding?

theorem sameFields_ofOptions {d : Options Data} {o : Options Value} {m m' : Machine W}
    (h : (ofOptions d).Yields m o m') : SameFields o d := by
  have hExtras : ∀ {params? : Option (Entries Value)} {m₁ : Machine W},
      (do return (⟨d.inputFile?, d.inputString?, params?, d.path?, d.raw?, d.preprocessOnly?,
        d.encoding?, ← ofEntries d.extras⟩ : Options Value)).Yields m₁ o m' → SameFields o d := by
    intro params? m₁ hYields
    obtain ⟨extras, m₂, -, hLast⟩ := exists_yields_of_bind hYields
    cases hLast
    exact ⟨rfl, rfl, rfl, rfl, rfl, rfl⟩
  unfold ofOptions at h
  cases hParams : d.params? with
  | none =>
    rw [hParams] at h
    exact hExtras h
  | some params =>
    rw [hParams] at h
    obtain ⟨e, m₁, -, hRest⟩ := exists_yields_of_bind h
    exact hExtras hRest

theorem onlyAdds_newOptions (o : Options Value) : (newOptions o : Run W Value).OnlyAdds :=
  (OnlyAdds.allocate _).bind fun _ => (OnlyAdds.allocate _).bind fun _ => .newObject _

/-! ## Copies -/

theorem onlyAdds_copyAt (depth : Nat) (inside : List Address) (v : Value) :
    (copyAt depth inside v : Run W Value).OnlyAdds := by
  induction depth generalizing inside v with
  | zero => exact .circular
  | succ depth ih =>
    have hItems : ∀ (inside : List Address) (items : List Value),
        (items.mapM (copyAt depth inside) : Run W (List Value)).OnlyAdds :=
      fun inside items => .mapM (ih inside) items
    have hEntries : ∀ (inside : List Address) (entries : List (Value × Value)),
        (entries.mapM (fun e => return (e.1, ← copyAt depth inside e.2)) :
          Run W (List (Value × Value))).OnlyAdds :=
      fun inside entries => .mapM (fun e => (ih inside e.2).bind fun _ => .pure _) entries
    unfold copyAt
    refine (OnlyAdds.object? v).bind fun object? => ?_
    split
    case h_1 a object =>
      split
      case isTrue => exact .circular
      case isFalse =>
        cases object with
        | list items => exact (hItems _ items).bind fun _ => .newObject _
        | tuple items => exact (hItems _ items).bind fun _ => .newObject _
        | set items => exact (hItems _ items).bind fun _ => .newObject _
        | dict entries => exact (hEntries _ entries).bind fun _ => .newObject _
        | options o params path => exact (hEntries _ _).bind fun _ => .newObject _
        | _ => exact .pure _
    case h_2 => exact .pure _

theorem onlyAdds_copyAll (e : Entries Value) : (copyAll e : Run W (Entries Value)).OnlyAdds := by
  have hHeap : (Run.heap : Run W Heap).OnlyAdds := .of_yields fun m => ⟨_, m, yields_heap m, .refl m⟩
  refine .mapM (fun p => ?_) e
  exact (hHeap.bind fun _ => onlyAdds_copyAt _ [] p.2).bind fun _ => .pure _

end Stencil.Script
