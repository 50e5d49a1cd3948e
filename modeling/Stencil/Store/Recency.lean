/-!
# What was used last

A store that knows in which order its entries were used, and may have a limit on how many it keeps.
When an entry comes in that is one too many, the one that was not used for the longest time goes.

- `Recency.get?_insert_self`: what came in last is there.
- `Recency.size_insert_le`: a store never grows over its limit.
-/

namespace Stencil.Store

/-- Entries in the order of their last use, the one used last at the end. -/
structure Recency (κ υ : Type) where
  /-- How many entries may be kept, if not any number. -/
  limit? : Option Nat
  /-- The entries. -/
  entries : List (κ × υ)
  deriving DecidableEq, Repr, Inhabited

/-- A number as a limit. At least one entry has to be kept. -/
def checkLimit (n : Int) : Except String Nat :=
  if n < 1 then .error "max_size must be at least 1" else .ok n.toNat

/-- The last entries of a list, as many as a limit allows. -/
def keepLast {α : Type} (limit? : Option Nat) (l : List α) : List α :=
  match limit? with
  | none => l
  | some n => l.drop (l.length - n)

namespace Recency

variable {κ υ : Type}

/-- A store without entries. -/
def empty (limit? : Option Nat) : Recency κ υ := ⟨limit?, []⟩

/-- How many entries there are. -/
def size (r : Recency κ υ) : Nat := r.entries.length

/-- The keys in the order of their last use. -/
def keys (r : Recency κ υ) : List κ := r.entries.map (·.1)

/-- The same limit, and no entries. -/
def clear (r : Recency κ υ) : Recency κ υ := { r with entries := [] }

variable [DecidableEq κ]

/-- The value of a key. -/
def get? (r : Recency κ υ) (key : κ) : Option υ := r.entries.lookup key

/-- Whether there is an entry for a key. -/
def contains (r : Recency κ υ) (key : κ) : Bool := (r.get? key).isSome

/-- Entries without that of a key. -/
def without (key : κ) (entries : List (κ × υ)) : List (κ × υ) :=
  entries.filter fun e => e.1 ≠ key

/-- Makes the entry of a key the one used last, if there is one. -/
def touch (r : Recency κ υ) (key : κ) : Recency κ υ :=
  match r.get? key with
  | some value => { r with entries := without key r.entries ++ [(key, value)] }
  | none => r

/-- Gives a key a value. Its entry is the one used last. -/
def insert (r : Recency κ υ) (key : κ) (value : υ) : Recency κ υ :=
  { r with entries := keepLast r.limit? (without key r.entries ++ [(key, value)]) }

theorem length_keepLast_le {α : Type} (n : Nat) (l : List α) :
    (keepLast (some n) l).length ≤ n := by
  simp only [keepLast, List.length_drop]
  omega

theorem keepLast_append_singleton {α : Type} {limit? : Option Nat} (h : limit? ≠ some 0)
    (l : List α) (a : α) : ∃ k, keepLast limit? (l ++ [a]) = l.drop k ++ [a] := by
  cases limit? with
  | none => exact ⟨0, rfl⟩
  | some n =>
    have hn : n ≠ 0 := fun h0 => h (congrArg some h0)
    refine ⟨l.length + 1 - n, ?_⟩
    simp only [keepLast, List.length_append, List.length_singleton]
    rw [List.drop_append_of_le_length (by omega)]

/-- No entry of a key is left without it. -/
theorem lookup_without (key : κ) (entries : List (κ × υ)) :
    (without key entries).lookup key = none := by
  simp only [List.lookup_eq_none_iff, without, List.mem_filter, decide_eq_true_eq]
  intro e he
  simpa using fun h => he.2 h.symm

theorem mem_of_get? {r : Recency κ υ} {key : κ} {value : υ} (h : r.get? key = some value) :
    (key, value) ∈ r.entries := by
  obtain ⟨before, after, hEntries, -⟩ := List.lookup_eq_some_iff.mp h
  rw [hEntries]
  exact List.mem_append_right before List.mem_cons_self

/-- An entry that is used stays what it was. -/
theorem mem_entries_touch {r : Recency κ υ} {key : κ} {e : κ × υ} (h : e ∈ (r.touch key).entries) :
    e ∈ r.entries := by
  unfold touch at h
  split at h
  case h_1 value hValue =>
    rcases List.mem_append.mp h with hOld | hUsed
    · exact (List.mem_filter.mp hOld).1
    · rw [List.mem_singleton.mp hUsed]
      exact mem_of_get? hValue
  case h_2 => exact h

theorem mem_entries_insert {r : Recency κ υ} {key : κ} {value : υ} {e : κ × υ}
    (h : e ∈ (r.insert key value).entries) : e = (key, value) ∨ e ∈ r.entries := by
  have hAll : e ∈ without key r.entries ++ [(key, value)] := by
    unfold insert keepLast at h
    cases hLimit : r.limit? with
    | none => simpa only [hLimit] using h
    | some n =>
      rw [hLimit] at h
      exact List.mem_of_mem_drop h
  rcases List.mem_append.mp hAll with hOld | hNew
  · exact .inr ((List.mem_filter.mp hOld).1)
  · exact .inl (List.mem_singleton.mp hNew)

/-- What came in last is there, unless nothing may be kept. -/
theorem get?_insert_self {r : Recency κ υ} (h : r.limit? ≠ some 0) (key : κ) (value : υ) :
    (r.insert key value).get? key = some value := by
  obtain ⟨k, hk⟩ := keepLast_append_singleton h (without key r.entries) (key, value)
  have hnone : ((without key r.entries).drop k).lookup key = none := by
    have hall := lookup_without key r.entries
    simp only [List.lookup_eq_none_iff] at hall ⊢
    exact fun e he => hall e (List.mem_of_mem_drop he)
  simp [get?, insert, hk, List.lookup_append, hnone]

/-- A store does not grow over its limit. -/
theorem size_insert_le {r : Recency κ υ} {n : Nat} (h : r.limit? = some n) (key : κ) (value : υ) :
    (r.insert key value).size ≤ n := by
  simp only [size, insert, h]
  exact length_keepLast_le n _

theorem map_fst_without (key : κ) (entries : List (κ × υ)) :
    (without key entries).map (·.1) = (entries.map (·.1)).filter (· ≠ key) := by
  simp [without, List.filter_map, Function.comp_def]

end Recency

end Stencil.Store
