import Mathlib.Data.List.Perm.Subperm
import Mathlib.Data.List.Range
import Stencil.Proofs.Options.Overriding
import Stencil.Proofs.Script.Adding

/-!
# Values that stand for data

Data that is handed to a running script becomes a value, and a value that is passed on becomes a
copy. Both are made of new objects, and both stand for the data that there was: the same numbers and
texts, in lists and mappings of the same kinds and in the same order. This holds of data that is not
part of itself; no copy is made of a value that contains itself.

What a value stands for depends on the objects that it leads to, so it is said of a heap, and of the
objects that the value is in, to none of which it may lead.

* `StandsFor`: a value for some data, with an object of its own for each collection.
* `Makes`: runs that make something out of new objects, with one rule for each way to make it.
* `makes_ofData`: the value of some data stands for it.
* `makes_copy`: so does a copy of a value that stands for it.
* `OptionsFor`, `makes_ofOptions`: options whose values stand for data.
-/

namespace Stencil

namespace Data

open Script in
/-- The value of data that is no collection. -/
def plain? : Data → Option Value
  | null => some .none
  | bool b => some (.bool b)
  | int n => some (.int n)
  | float x => some (.float x)
  | text s => some (.text s)
  | moment m => some (.moment m)
  | bytes b => some (.bytes b)
  | member name => some (.member name)
  | list _ | dict _ | tuple _ | set _ | within _ => none

mutual

/-- Whether no collection is part of itself, and all keys are no collections. -/
def isTree : Data → Bool
  | list items | tuple items | set items => areTrees items
  | dict entries => areTreeEntries entries
  | within _ => false
  | _ => true

def areTrees : List Data → Bool
  | [] => true
  | d :: items => d.isTree && areTrees items

def areTreeEntries : List (Data × Data) → Bool
  | [] => true
  | (key, d) :: entries => key.plain?.isSome && d.isTree && areTreeEntries entries

end

end Data

namespace Script

/-- Collections whose items have no keys. -/
inductive Collection where
  | list | tuple | set
  deriving DecidableEq, Repr

namespace Collection

def object : Collection → List Value → Object
  | list => .list
  | tuple => .tuple
  | set => .set

def data : Collection → List Data → Data
  | list => .list
  | tuple => .tuple
  | set => .set

end Collection

mutual

/-- Whether a value stands for some data, with the objects of a heap. Each collection is an object
of its own, which stands at none of the addresses `inside`. -/
def StandsFor : Value → Data → Heap → List Address → Prop
  | v, .list items, heap, inside => ∃ a vs, v = .ref a ∧ a ∉ inside ∧
      heap[a]? = some (.list vs) ∧ StandForAll vs items heap (a :: inside)
  | v, .tuple items, heap, inside => ∃ a vs, v = .ref a ∧ a ∉ inside ∧
      heap[a]? = some (.tuple vs) ∧ StandForAll vs items heap (a :: inside)
  | v, .set items, heap, inside => ∃ a vs, v = .ref a ∧ a ∉ inside ∧
      heap[a]? = some (.set vs) ∧ StandForAll vs items heap (a :: inside)
  | v, .dict entries, heap, inside => ∃ a vs, v = .ref a ∧ a ∉ inside ∧
      heap[a]? = some (.dict vs) ∧ StandForEntries vs entries heap (a :: inside)
  | _, .within _, _, _ => False
  | v, d, _, _ => d.plain? = some v

def StandForAll : List Value → List Data → Heap → List Address → Prop
  | [], [], _, _ => True
  | v :: vs, d :: items, heap, inside => StandsFor v d heap inside ∧ StandForAll vs items heap inside
  | _, _, _, _ => False

def StandForEntries :
    List (Value × Value) → List (Data × Data) → Heap → List Address → Prop
  | [], [], _, _ => True
  | (k, v) :: vs, (key, d) :: entries, heap, inside =>
    key.plain? = some k ∧ StandsFor v d heap inside ∧ StandForEntries vs entries heap inside
  | _, _, _, _ => False

end

variable {W α : Type} {heap heap' : Heap} {inside : List Address} {v : Value} {d : Data}

theorem standsFor_collection (k : Collection) {items : List Data} :
    StandsFor v (k.data items) heap inside ↔ ∃ a vs, v = .ref a ∧ a ∉ inside ∧
      heap[a]? = some (k.object vs) ∧ StandForAll vs items heap (a :: inside) := by
  cases k with
  | list => simp only [Collection.data, Collection.object, StandsFor]
  | tuple => simp only [Collection.data, Collection.object, StandsFor]
  | set => simp only [Collection.data, Collection.object, StandsFor]

theorem standsFor_dict {entries : List (Data × Data)} :
    StandsFor v (.dict entries) heap inside ↔ ∃ a vs, v = .ref a ∧ a ∉ inside ∧
      heap[a]? = some (.dict vs) ∧ StandForEntries vs entries heap (a :: inside) := by
  simp only [StandsFor]

theorem standsFor_plain (h : d.plain? = some v) : StandsFor v d heap inside := by
  cases d with
  | list | tuple | set | dict | within => cases h
  | _ => exact h

/-! ## Other objects make no difference -/

/-- Whether all objects of a heap but some are those of another. -/
def KeepsBeside (inside : List Address) (heap heap' : Heap) : Prop :=
  ∀ a, a ∉ inside → ∀ o, heap[a]? = some o → heap'[a]? = some o

theorem KeepsBeside.cons (h : KeepsBeside inside heap heap') (a : Address) :
    KeepsBeside (a :: inside) heap heap' :=
  fun b hb => h b fun hMem => hb (List.mem_cons_of_mem a hMem)

theorem Machine.Adds.keeps {m m' : Machine W} (h : m.Adds m') (inside : List Address) :
    KeepsBeside inside m.heap m'.heap := by
  intro a _ o hObject
  rw [h.heap a (Array.getElem?_eq_some_iff.mp hObject).1]
  exact hObject

/-- Whether something that is said of a heap and of some of its objects goes on to hold as long as
only these objects change. -/
def Lasting (P : Heap → List Address → Prop) : Prop :=
  ∀ ⦃heap heap' inside⦄, P heap inside → KeepsBeside inside heap heap' → P heap' inside

theorem lasting_collection (k : Collection) {items : List Data}
    (hItems : ∀ vs, Lasting (StandForAll vs items)) (v : Value) :
    Lasting (StandsFor v (k.data items)) := by
  intro heap heap' inside h hKeeps
  obtain ⟨a, vs, hRef, hNew, hObject, hAll⟩ := (standsFor_collection k).mp h
  have hAll' := hItems vs hAll (hKeeps.cons a)
  exact (standsFor_collection k).mpr ⟨a, vs, hRef, hNew, hKeeps a hNew _ hObject, hAll'⟩

mutual

theorem lasting_standsFor : ∀ (d : Data) (v : Value), Lasting (StandsFor v d)
  | .list items, v => lasting_collection .list (lasting_standForAll items) v
  | .tuple items, v => lasting_collection .tuple (lasting_standForAll items) v
  | .set items, v => lasting_collection .set (lasting_standForAll items) v
  | .dict entries, v => by
    intro heap heap' inside h hKeeps
    obtain ⟨a, vs, hRef, hNew, hObject, hAll⟩ := standsFor_dict.mp h
    have hAll' := lasting_standForEntries entries vs hAll (hKeeps.cons a)
    exact standsFor_dict.mpr ⟨a, vs, hRef, hNew, hKeeps a hNew _ hObject, hAll'⟩
  | .within _, _ => fun _ _ _ h _ => h
  | .null, _ | .bool _, _ | .int _, _ | .float _, _ | .text _, _ | .moment _, _ | .bytes _, _
  | .member _, _ => fun _ _ _ h _ => h

theorem lasting_standForAll : ∀ (items : List Data) (vs : List Value),
    Lasting (StandForAll vs items)
  | [], [] => fun _ _ _ _ _ => trivial
  | d :: items, v :: vs => fun _ _ _ h hKeeps =>
    ⟨lasting_standsFor d v h.1 hKeeps, lasting_standForAll items vs h.2 hKeeps⟩
  | [], _ :: _ | _ :: _, [] => fun _ _ _ h _ => h

theorem lasting_standForEntries : ∀ (entries : List (Data × Data)) (vs : List (Value × Value)),
    Lasting (StandForEntries vs entries)
  | [], [] => fun _ _ _ _ _ => trivial
  | (_, d) :: entries, (_, v) :: vs => fun _ _ _ h hKeeps =>
    ⟨h.1, lasting_standsFor d v h.2.1 hKeeps, lasting_standForEntries entries vs h.2.2 hKeeps⟩
  | [], _ :: _ | _ :: _, [] => fun _ _ _ h _ => h

end

/-! ## Runs that make something -/

/-- Whether something holds of a machine that was made from another by adding objects, inside any
objects but the new ones. -/
structure Machine.Made (m m' : Machine W) (P : Heap → List Address → Prop) : Prop where
  adds : m.Adds m'
  holds : ∀ inside, (∀ a ∈ inside, a < m.heap.size ∨ m'.heap.size ≤ a) → P m'.heap inside

namespace Machine.Made

variable {m m' m'' : Machine W} {P Q : Heap → List Address → Prop}

theorem here (h : m.Made m' P) : P m'.heap [] := h.holds [] fun _ ha => nomatch ha

theorem and (h : m.Made m' P) (hP : Lasting P) (h' : m'.Made m'' Q) :
    m.Made m'' fun heap inside => P heap inside ∧ Q heap inside := by
  refine ⟨h.adds.trans h'.adds, fun inside hApart => ⟨?_, ?_⟩⟩
  · have hBefore : P m'.heap inside := by
      apply h.holds
      intro a ha
      exact (hApart a ha).imp_right (Nat.le_trans h'.adds.size)
    exact hP hBefore (h'.adds.keeps inside)
  · apply h'.holds
    intro a ha
    exact (hApart a ha).imp_left fun hLt => Nat.lt_of_lt_of_le hLt h.adds.size

/-- An object around what was made. -/
theorem newObject {o : Object} (h : m.Made m' P) (hP : Lasting P)
    (hQ : ∀ heap inside, m'.heap.size ∉ inside → heap[m'.heap.size]? = some o →
      P heap (m'.heap.size :: inside) → Q heap inside) : m.Made (m'.withObject o) Q := by
  have hLast : m'.Adds (m'.withObject o) := .withObject m' o
  have hSize : (m'.withObject o).heap.size = m'.heap.size + 1 := Array.size_push ..
  refine ⟨h.adds.trans hLast, fun inside hApart => ?_⟩
  have hNew : m'.heap.size ∉ inside := by
    intro hMem
    have := hApart _ hMem
    have := h.adds.size
    omega
  apply hQ _ _ hNew (m'.heap_withObject_self o)
  apply hP (h.holds _ ?_) (hLast.keeps _)
  intro a ha
  rcases List.mem_cons.mp ha with rfl | ha
  · exact .inr (Nat.le_refl _)
  · have := hApart a ha
    omega

/-- An object around what was made, which was there first. -/
theorem fill {o o' : Object} (h : (m.withObject o).Made m' P) (hP : Lasting P)
    (hQ : ∀ heap inside, m.heap.size ∉ inside → heap[m.heap.size]? = some o' →
      P heap (m.heap.size :: inside) → Q heap inside) :
    m.Made (m'.putObject m.heap.size o') Q := by
  have hSize : (m.withObject o).heap.size = m.heap.size + 1 := Array.size_push ..
  have hSize' : (m'.putObject m.heap.size o').heap.size = m'.heap.size :=
    Array.size_setIfInBounds ..
  refine ⟨h.adds.fill o', fun inside hApart => ?_⟩
  have hNew : m.heap.size ∉ inside := by
    intro hMem
    have := hApart _ hMem
    have := h.adds.size
    omega
  apply hQ _ _ hNew (h.adds.heap_fill o')
  apply hP (h.holds _ ?_) ?_
  · intro a ha
    rcases List.mem_cons.mp ha with rfl | ha
    · left
      omega
    · have := hApart a ha
      omega
  · intro a ha object hObject
    rw [heap_putObject (List.ne_of_not_mem_cons ha)]
    exact hObject

end Machine.Made

/-- Whether a run of a machine makes something out of new objects. -/
def Makes (r : Run W α) (m : Machine W) (P : α → Heap → List Address → Prop) : Prop :=
  ∃ a m', r.Yields m a m' ∧ m.Made m' (P a)

section

open Run

variable {m : Machine W} {r : Run W α} {P : α → Heap → List Address → Prop}

theorem Makes.congr {r' : Run W α} (h : Makes r' m P) (hSame : r.perform m = r'.perform m) :
    Makes r m P := by
  obtain ⟨a, m', hr, hMade⟩ := h
  exact ⟨a, m', hSame.trans hr, hMade⟩

theorem makes_pure {a : α} (h : ∀ heap inside, P a heap inside) : Makes (return a) m P :=
  ⟨a, m, .pure, .refl m, fun _ _ => h _ _⟩

/-- What is made first is there when more is made. -/
theorem Makes.both {β γ : Type} {r' : Run W β} {f : α → β → γ}
    {Q : β → Heap → List Address → Prop} {R : γ → Heap → List Address → Prop}
    (h : Makes r m P) (hP : ∀ a, Lasting (P a)) (h' : ∀ m', m.Adds m' → Makes r' m' Q)
    (hR : ∀ a b heap inside, P a heap inside → Q b heap inside → R (f a b) heap inside) :
    Makes (do return f (← r) (← r')) m R := by
  obtain ⟨a, m₁, hr, hMade⟩ := h
  obtain ⟨b, m₂, hr', hMade'⟩ := h' m₁ hMade.adds
  have hBoth := hMade.and (hP a) hMade'
  refine ⟨f a b, m₂, hr.bind (hr'.bind .pure), hBoth.adds, fun inside hApart => ?_⟩
  have hHolds := hBoth.holds inside hApart
  exact hR a b _ _ hHolds.1 hHolds.2

variable {object : α → Object} {Q : Value → Heap → List Address → Prop}

/-- An object may be made after what is in it. -/
theorem Makes.newObject (h : Makes r m P) (hP : ∀ a, Lasting (P a))
    (hQ : ∀ a address heap inside, address ∉ inside → heap[address]? = some (object a) →
      P a heap (address :: inside) → Q (.ref address) heap inside) :
    Makes (do Run.newObject (object (← r))) m Q := by
  obtain ⟨a, m', hr, hMade⟩ := h
  refine ⟨_, _, hr.bind (yields_newObject _ m'), ?_⟩
  exact hMade.newObject (hP a) (hQ a _)

/-- An object may be there before what is in it. -/
theorem makes_filled {r : Address → Run W α} {o : Object}
    (h : ∀ a m', m.Adds m' → Makes (r a) m' P) (hP : ∀ a, Lasting (P a))
    (hQ : ∀ a address heap inside, address ∉ inside → heap[address]? = some (object a) →
      P a heap (address :: inside) → Q (.ref address) heap inside) :
    Makes (do
      let a ← allocate o
      setObject a (object (← r a))
      return .ref a) m Q := by
  have hFirst := yields_allocate o m
  obtain ⟨a, m', hr, hMade⟩ := h m.heap.size _ (.withObject m o)
  refine ⟨_, _, hFirst.bind (hr.bind ((yields_setObject _ _ m').bind .pure)), ?_⟩
  exact hMade.fill (hP a) (hQ a _)

end

/-! ## Values of data -/

open Run

theorem makes_plain (h : d.plain? = some v) (m : Machine W) :
    Makes (return v) m fun v => StandsFor v d :=
  makes_pure fun _ _ => standsFor_plain h

theorem makes_items {r : Run W Value} {rest : Run W (List Value)} {m : Machine W}
    {items : List Data} (h : Makes r m fun v => StandsFor v d)
    (hRest : ∀ m', m.Adds m' → Makes rest m' fun vs => StandForAll vs items) :
    Makes (do return (← r) :: (← rest)) m fun vs => StandForAll vs (d :: items) :=
  h.both (lasting_standsFor d) hRest fun _ _ _ _ hFirst hOthers => ⟨hFirst, hOthers⟩

theorem makes_entries {r : Run W Value} {rest : Run W (List (Value × Value))} {m : Machine W}
    {k : Value} {key : Data} {entries : List (Data × Data)} (hKey : key.plain? = some k)
    (h : Makes r m fun v => StandsFor v d)
    (hRest : ∀ m', m.Adds m' → Makes rest m' fun vs => StandForEntries vs entries) :
    Makes (do return (k, ← r) :: (← rest)) m fun vs => StandForEntries vs ((key, d) :: entries) :=
  h.both (lasting_standsFor d) hRest fun _ _ _ _ hFirst hOthers => ⟨hKey, hFirst, hOthers⟩

theorem makes_collection (k : Collection) {r : Run W (List Value)} {m : Machine W}
    {items : List Data} (h : Makes r m fun vs => StandForAll vs items) :
    Makes (do newObject (k.object (← r))) m fun v => StandsFor v (k.data items) :=
  h.newObject (lasting_standForAll items) fun vs a _ _ hNew hObject hItems =>
    (standsFor_collection k).mpr ⟨a, vs, rfl, hNew, hObject, hItems⟩

theorem makes_dict {r : Run W (List (Value × Value))} {m : Machine W}
    {entries : List (Data × Data)} (h : Makes r m fun vs => StandForEntries vs entries) :
    Makes (do newObject (.dict (← r))) m fun v => StandsFor v (.dict entries) :=
  h.newObject (lasting_standForEntries entries) fun vs a _ _ hNew hObject hEntries =>
    standsFor_dict.mpr ⟨a, vs, rfl, hNew, hObject, hEntries⟩

theorem makes_filledCollection (k : Collection) {r : Address → Run W (List Value)} {m : Machine W}
    {items : List Data} (h : ∀ a m', Makes (r a) m' fun vs => StandForAll vs items) :
    Makes (do
      let a ← allocate (k.object [])
      setObject a (k.object (← r a))
      return .ref a) m fun v => StandsFor v (k.data items) :=
  makes_filled (fun a m' _ => h a m') (lasting_standForAll items)
    fun vs a _ _ hNew hObject hItems =>
      (standsFor_collection k).mpr ⟨a, vs, rfl, hNew, hObject, hItems⟩

theorem valueWithin_plain {around : List Address} (h : d.plain? = some v) :
    (valueWithin around d : Run W Value) = return v := by
  cases d with
  | list | tuple | set | dict | within => cases h
  | _ =>
    cases h
    rfl

mutual

/-- The value of some data stands for it, within whatever it is made. -/
theorem makes_valueWithin : ∀ (d : Data), d.isTree → ∀ (around : List Address) (m : Machine W),
    Makes (valueWithin around d) m fun v => StandsFor v d
  | .list items, h, around, _ =>
    makes_filledCollection .list fun a => makes_valuesWithin items h (a :: around)
  | .set items, h, around, _ =>
    makes_filledCollection .set fun a => makes_valuesWithin items h (a :: around)
  | .tuple items, h, around, m => makes_collection .tuple (makes_valuesWithin items h around m)
  | .dict entries, h, around, _ =>
    makes_filled (fun a m' _ => makes_entriesWithin entries h (a :: around) m')
      (lasting_standForEntries entries) fun vs a _ _ hNew hObject hEntries =>
        standsFor_dict.mpr ⟨a, vs, rfl, hNew, hObject, hEntries⟩
  | .null, _, _, m | .bool _, _, _, m | .int _, _, _, m | .float _, _, _, m | .text _, _, _, m
  | .moment _, _, _, m | .bytes _, _, _, m | .member _, _, _, m => makes_plain rfl m

theorem makes_valuesWithin : ∀ (items : List Data), Data.areTrees items →
    ∀ (around : List Address) (m : Machine W),
      Makes (valuesWithin around items) m fun vs => StandForAll vs items
  | [], _, _, _ => makes_pure fun _ _ => trivial
  | d :: items, h, around, m => by
    obtain ⟨hTree, hRest⟩ := (Bool.and_eq_true _ _).mp h
    exact makes_items (makes_valueWithin d hTree around m)
      fun m' _ => makes_valuesWithin items hRest around m'

theorem makes_entriesWithin : ∀ (entries : List (Data × Data)), Data.areTreeEntries entries →
    ∀ (around : List Address) (m : Machine W),
      Makes (entriesWithin around entries) m fun vs => StandForEntries vs entries
  | [], _, _, _ => makes_pure fun _ _ => trivial
  | (key, d) :: entries, h, around, m => by
    obtain ⟨hFirst, hRest⟩ := (Bool.and_eq_true _ _).mp h
    obtain ⟨hKey, hTree⟩ := (Bool.and_eq_true _ _).mp hFirst
    obtain ⟨k, hk⟩ := Option.isSome_iff_exists.mp hKey
    have hRun : (entriesWithin around ((key, d) :: entries) : Run W _) =
        (do return (k, ← valueWithin around d) :: (← entriesWithin around entries)) := by
      rw [entriesWithin, valueWithin_plain hk, pure_bind]
    rw [hRun]
    exact makes_entries hk (makes_valueWithin d hTree around m)
      fun m' _ => makes_entriesWithin entries hRest around m'

end

theorem makes_ofData (h : d.isTree) (m : Machine W) :
    Makes (ofData d) m fun v => StandsFor v d := makes_valueWithin d h [] m

/-! ## Copies -/

section

variable {m₀ m : Machine W} {depth : Nat}

theorem copyAt_plain (h : d.plain? = some v) (depth : Nat) (inside : List Address)
    (m : Machine W) : (copyAt (depth + 1) inside v : Run W Value).Yields m v m := by
  cases d with
  | list | tuple | set | dict | within => cases h
  | _ =>
    cases h
    rfl

/-- What a copy has gone into, of the objects that there were: it may go into as many as are left. -/
structure Reached (m₀ : Machine W) (depth : Nat) (inside : List Address) : Prop where
  nodup : inside.Nodup
  known : ∀ a ∈ inside, a < m₀.heap.size
  depth : m₀.heap.size < depth + inside.length

theorem Reached.start (m₀ : Machine W) : Reached m₀ (m₀.heap.size + 1) [] :=
  ⟨List.nodup_nil, fun _ h => absurd h List.not_mem_nil, Nat.lt_succ_self _⟩

theorem Reached.exists_depth (h : Reached m₀ depth inside) : ∃ left, depth = left + 1 := by
  apply Nat.exists_eq_succ_of_ne_zero
  rintro rfl
  have hSubset : inside ⊆ List.range m₀.heap.size :=
    fun a ha => List.mem_range.mpr (h.known a ha)
  have hLength := (h.nodup.subperm hSubset).length_le
  rw [List.length_range] at hLength
  have := h.depth
  omega

theorem Reached.cons {a : Address} {o : Object} (h : Reached m₀ (depth + 1) inside)
    (hNew : a ∉ inside) (hObject : m₀.heap[a]? = some o) : Reached m₀ depth (a :: inside) where
  nodup := List.nodup_cons.mpr ⟨hNew, h.nodup⟩
  known b hb := by
    rcases List.mem_cons.mp hb with rfl | hb
    · exact (Array.getElem?_eq_some_iff.mp hObject).1
    · exact h.known b hb
  depth := by
    have := h.depth
    rw [List.length_cons]
    omega

/-- Copies of the values of a mapping. -/
def copyEntries (depth : Nat) (inside : List Address) (vs : List (Value × Value)) :
    Run W (List (Value × Value)) :=
  vs.mapM fun e => return (e.1, ← copyAt depth inside e.2)

theorem copyEntries_cons (depth : Nat) (inside : List Address) (k v : Value)
    (vs : List (Value × Value)) : (copyEntries depth inside ((k, v) :: vs) : Run W _) =
      do return (k, ← copyAt depth inside v) :: (← copyEntries depth inside vs) := by
  simp only [copyEntries, List.mapM_cons, bind_assoc, pure_bind]

theorem copyAt_collection {a : Address} (k : Collection) {vs : List Value} (hNew : a ∉ inside)
    (hObject : m.heap[a]? = some (k.object vs)) :
    (copyAt (depth + 1) inside (.ref a)).perform m =
      (do newObject (k.object (← vs.mapM (copyAt depth (a :: inside))))).perform m := by
  have hFind : (object? (.ref a)).Yields m (some (k.object vs)) m := yields_object? hObject
  have hOutside : inside.contains a = false := by simpa using hNew
  refine (hFind.perform_bind _).trans ?_
  cases k with
  | list | tuple | set =>
    simp only [Collection.object, hOutside]
    rfl

theorem copyAt_dict {a : Address} {vs : List (Value × Value)} (hNew : a ∉ inside)
    (hObject : m.heap[a]? = some (.dict vs)) :
    (copyAt (depth + 1) inside (.ref a)).perform m =
      (do newObject (.dict (← copyEntries depth (a :: inside) vs))).perform m := by
  have hFind : (object? (.ref a)).Yields m (some (.dict vs)) m := yields_object? hObject
  have hOutside : inside.contains a = false := by simpa using hNew
  refine (hFind.perform_bind _).trans ?_
  simp only [hOutside]
  rfl

/-- Whether all copies of a value for some data stand for it too. -/
def Copies (m₀ : Machine W) (d : Data) : Prop :=
  ∀ v depth inside (m : Machine W),
    StandsFor v d m₀.heap inside → Reached m₀ depth inside → m₀.Adds m →
      Makes (copyAt depth inside v) m fun v => StandsFor v d

theorem copies_plain (h : ∀ v heap inside, StandsFor v d heap inside → d.plain? = some v) :
    Copies m₀ d := by
  intro v depth inside m hStands hReached _
  obtain ⟨left, rfl⟩ := hReached.exists_depth
  have hPlain := h _ _ _ hStands
  exact (makes_plain hPlain m).congr (copyAt_plain hPlain left _ m)

theorem copies_collection (k : Collection) {items : List Data}
    (h : ∀ vs depth inside (m : Machine W),
      StandForAll vs items m₀.heap inside → Reached m₀ depth inside → m₀.Adds m →
        Makes (vs.mapM (copyAt depth inside)) m fun vs => StandForAll vs items) :
    Copies m₀ (k.data items) := by
  intro v depth inside m hStands hReached hAdds
  obtain ⟨left, rfl⟩ := hReached.exists_depth
  obtain ⟨a, vs, rfl, hNew, hObject, hItems⟩ := (standsFor_collection k).mp hStands
  have hNow := hAdds.keeps inside a hNew _ hObject
  refine Makes.congr ?_ (copyAt_collection k hNew hNow)
  exact makes_collection k (h vs left _ m hItems (hReached.cons hNew hObject) hAdds)

mutual

/-- A copy of a value that stands for some data stands for it too. -/
theorem makes_copyAt : ∀ (d : Data), Copies m₀ d
  | .list items => copies_collection .list (makes_copies items)
  | .tuple items => copies_collection .tuple (makes_copies items)
  | .set items => copies_collection .set (makes_copies items)
  | .dict entries => by
    intro v depth inside m hStands hReached hAdds
    obtain ⟨left, rfl⟩ := hReached.exists_depth
    obtain ⟨a, vs, rfl, hNew, hObject, hEntries⟩ := standsFor_dict.mp hStands
    have hNow := hAdds.keeps inside a hNew _ hObject
    refine Makes.congr ?_ (copyAt_dict hNew hNow)
    have hInner := hReached.cons hNew hObject
    exact makes_dict (makes_copyEntries entries vs left (a :: inside) m hEntries hInner hAdds)
  | .within _ => fun _ _ _ _ hStands => hStands.elim
  | .null | .bool _ | .int _ | .float _ | .text _ | .moment _ | .bytes _ | .member _ =>
    copies_plain fun _ _ _ h => h

theorem makes_copies : ∀ (items : List Data) (vs : List Value) (depth : Nat)
    (inside : List Address) (m : Machine W), StandForAll vs items m₀.heap inside →
      Reached m₀ depth inside → m₀.Adds m →
        Makes (vs.mapM (copyAt depth inside)) m fun vs => StandForAll vs items
  | [], vs, _, _, _, h, _, _ => by
    cases vs with
    | nil => exact makes_pure fun _ _ => trivial
    | cons => exact h.elim
  | d :: items, vs, depth, inside, m, h, hReached, hAdds => by
    cases vs with
    | nil => exact h.elim
    | cons v vs =>
      rw [List.mapM_cons]
      exact makes_items (makes_copyAt d v depth inside m h.1 hReached hAdds)
        fun m' hMore => makes_copies items vs depth inside m' h.2 hReached (hAdds.trans hMore)

theorem makes_copyEntries : ∀ (entries : List (Data × Data)) (vs : List (Value × Value))
    (depth : Nat) (inside : List Address) (m : Machine W),
      StandForEntries vs entries m₀.heap inside → Reached m₀ depth inside → m₀.Adds m →
        Makes (copyEntries depth inside vs) m fun vs => StandForEntries vs entries
  | [], vs, _, _, _, h, _, _ => by
    cases vs with
    | nil => exact makes_pure fun _ _ => trivial
    | cons => exact h.elim
  | (key, d) :: entries, vs, depth, inside, m, h, hReached, hAdds => by
    cases vs with
    | nil => exact h.elim
    | cons e vs =>
      obtain ⟨k, v⟩ := e
      rw [copyEntries_cons]
      exact makes_entries h.1 (makes_copyAt d v depth inside m h.2.1 hReached hAdds) fun m' hMore =>
        makes_copyEntries entries vs depth inside m' h.2.2 hReached (hAdds.trans hMore)

end

theorem makes_copy (h : StandsFor v d m.heap []) : Makes (copy v) m fun v => StandsFor v d :=
  (makes_copyAt d v (m.heap.size + 1) [] m h (.start m) (.refl m)).congr rfl

end

/-! ## Named values and options -/

/-- Whether named values stand for named data. -/
def NamedFor (e : Entries Value) (data : Entries Data) (heap : Heap) (inside : List Address) :
    Prop :=
  List.Forall₂ (fun p q => p.1 = q.1 ∧ StandsFor p.2 q.2 heap inside) e data

section

variable {m : Machine W} {e : Entries Value} {data : Entries Data}

theorem lasting_namedFor (data : Entries Data) (e : Entries Value) : Lasting (NamedFor e data) :=
  fun _ _ _ h hKeeps =>
    List.Forall₂.imp (fun p q hBoth => ⟨hBoth.1, lasting_standsFor q.2 p.2 hBoth.2 hKeeps⟩) h

theorem NamedFor.names (h : NamedFor e data heap inside) : e.names = data.names := by
  induction h with
  | nil => rfl
  | cons hHead _ ih =>
    rw [Entries.names, Entries.names, List.map_cons, List.map_cons, hHead.1]
    exact congrArg _ ih

theorem NamedFor.get? (h : NamedFor e data heap inside) (name : List Char) :
    Option.Rel (fun v d => StandsFor v d heap inside) (e.get? name) (data.get? name) := by
  induction h with
  | nil => exact .none
  | @cons p q e data hHead _ ih =>
    obtain ⟨n, v⟩ := p
    obtain ⟨n', d⟩ := q
    obtain rfl : n = n' := hHead.1
    rw [Entries.get?_cons, Entries.get?_cons]
    by_cases hName : name = n
    · rw [if_pos hName, if_pos hName]
      exact .some hHead.2
    · rw [if_neg hName, if_neg hName]
      exact ih

/-- Values that are made one after another. -/
theorem makes_named {m₀ : Machine W} {f : α → Run W Value} {l : Entries α}
    (h : List.Forall₂ (fun p q => p.1 = q.1 ∧
      ∀ m', m₀.Adds m' → Makes (f p.2) m' fun v => StandsFor v q.2) l data)
    (hSince : m₀.Adds m) :
    Makes (l.mapM fun (p : List Char × α) => return (p.1, ← f p.2)) m
      fun e => NamedFor e data := by
  induction h generalizing m with
  | nil => exact makes_pure fun _ _ => .nil
  | @cons p q l data hHead _ ih =>
    rw [List.mapM_cons]
    simp only [bind_assoc, pure_bind]
    exact (hHead.2 m hSince).both (lasting_standsFor q.2) (fun m' hMore => ih (hSince.trans hMore))
      fun v e _ _ hFirst hOthers => .cons ⟨hHead.1, hFirst⟩ hOthers

theorem makes_ofEntries (h : ∀ p ∈ data, p.2.isTree) (m : Machine W) :
    Makes (ofEntries data) m fun e => NamedFor e data := by
  refine makes_named (List.forall₂_same.mpr fun p hp => ⟨rfl, fun m' _ => ?_⟩) (.refl m)
  exact makes_ofData (h p hp) m'

theorem makes_copyAll (h : NamedFor e data m.heap []) :
    Makes (copyAll e) m fun e => NamedFor e data := by
  refine makes_named (List.Forall₂.imp (fun p q hBoth => ⟨hBoth.1, fun m' hAdds => ?_⟩) h) (.refl m)
  exact makes_copy (lasting_standsFor q.2 p.2 hBoth.2 (hAdds.keeps []))

/-- Whether options of values are those of some data. -/
structure OptionsFor (o : Options Value) (d : Options Data) (heap : Heap) (inside : List Address) :
    Prop extends SameFields o d where
  params : NamedFor o.params d.params heap inside
  extras : NamedFor o.extras d.extras heap inside

/-- Whether no collection among the values of options is part of itself. -/
structure TreeOptions (d : Options Data) : Prop where
  params : ∀ p ∈ d.params, p.2.isTree
  extras : ∀ p ∈ d.extras, p.2.isTree

theorem lasting_optionsFor (d : Options Data) (o : Options Value) : Lasting (OptionsFor o d) :=
  fun _ _ _ h hKeeps =>
    ⟨h.toSameFields, lasting_namedFor _ _ h.params hKeeps, lasting_namedFor _ _ h.extras hKeeps⟩

theorem makes_ofOptions {d : Options Data} (h : TreeOptions d) (m : Machine W) :
    Makes (ofOptions d) m fun o => OptionsFor o d := by
  obtain ⟨inputFile?, inputString?, params?, path?, raw?, preprocessOnly?, encoding?, extras⟩ := d
  have hFields : ∀ (e? : Option (Entries Value)) (e' : Entries Value), SameFields
      (⟨inputFile?, inputString?, e?, path?, raw?, preprocessOnly?, encoding?, e'⟩ : Options Value)
      (⟨inputFile?, inputString?, params?, path?, raw?, preprocessOnly?, encoding?, extras⟩ :
        Options Data) := fun _ _ => ⟨rfl, rfl, rfl, rfl, rfl, rfl⟩
  cases params? with
  | none =>
    obtain ⟨e, m', hRun, hMade⟩ := makes_ofEntries h.extras m
    refine ⟨_, m', hRun.bind .pure, hMade.adds, fun inside hApart => ?_⟩
    exact ⟨hFields none e, .nil, hMade.holds inside hApart⟩
  | some params =>
    exact (makes_ofEntries h.params m).both (lasting_namedFor params)
      (fun m' _ => makes_ofEntries h.extras m')
      fun e e' _ _ hParams hExtras => ⟨hFields (some e) e', hParams, hExtras⟩

end

end Script

end Stencil
