import Mathlib.Data.List.Dedup
import Mathlib.Data.List.DropRight
import Mathlib.Logic.Relation
import Stencil.Store.Recency

/-!
# A store and the history of its uses

What a store holds is determined by the keys that were used, in the order of their uses: it holds
those used last, each one once, as many as its limit allows. A key that is used again therefore
moves to the end, and a new key can push the first one out.

* `keepLast_dedup_concat`: what one more use does to the keys used last.
* `keys_touch`, `keys_insert`: uses of a store do just that to its keys.
* `Uses.fits`: a store that is used does not grow over its limit.
* `get?_touch`, `get?_insert_of_ne`: what is used elsewhere, and without a limit what comes in,
  changes no look-up.
-/

namespace Stencil.Store

variable {κ υ : Type} [DecidableEq κ]

/-! ## The last of some keys -/

/-- Where a list is long enough, nothing in front of it is kept. -/
theorem keepLast_append_of_le {α : Type} {n : Nat} {l : List α} (h : n ≤ l.length)
    (front : List α) : keepLast (some n) (front ++ l) = keepLast (some n) l := by
  have hLength : (front ++ l).length - n = front.length + (l.length - n) := by
    rw [List.length_append]
    omega
  simp only [keepLast]
  rw [hLength, ← List.drop_drop, List.drop_left]

theorem keepLast_of_length_le {α : Type} {limit? : Option Nat} {l : List α}
    (h : ∀ n, limit? = some n → l.length ≤ n) : keepLast limit? l = l := by
  cases limit? with
  | none => rfl
  | some n =>
    have hZero : l.length - n = 0 := Nat.sub_eq_zero_of_le (h n rfl)
    simp only [keepLast, hZero, List.drop_zero]

theorem keepLast_nil {α : Type} (limit? : Option Nat) : keepLast limit? ([] : List α) = [] :=
  keepLast_of_length_le fun _ _ => Nat.zero_le _

theorem keepLast_sublist {α : Type} (limit? : Option Nat) (l : List α) :
    (keepLast limit? l).Sublist l := by
  cases limit? with
  | none => exact List.Sublist.refl l
  | some n => exact List.drop_sublist _ _

theorem map_keepLast {α β : Type} (f : α → β) (limit? : Option Nat) (l : List α) :
    (keepLast limit? l).map f = keepLast limit? (l.map f) := by
  cases limit? with
  | none => rfl
  | some n => simp [keepLast]

/-- The last use of a key is the one that counts. -/
theorem dedup_concat (ks : List κ) (key : κ) :
    (ks ++ [key]).dedup = ks.dedup.filter (· ≠ key) ++ [key] := by
  induction ks with
  | nil => simp
  | cons a ks ih =>
    rw [List.cons_append]
    by_cases hKey : a = key
    · have hMem : a ∈ ks ++ [key] := by simp [hKey]
      rw [List.dedup_cons_of_mem hMem, ih, List.dedup_cons]
      split <;> simp [hKey]
    · by_cases hMem : a ∈ ks
      · rw [List.dedup_cons_of_mem (List.mem_append_left _ hMem), List.dedup_cons_of_mem hMem, ih]
      · have hNew : a ∉ ks ++ [key] := by simp [hMem, hKey]
        rw [List.dedup_cons_of_notMem hNew, List.dedup_cons_of_notMem hMem, ih]
        simp [hKey]

/-- A list without duplicates loses at most one item with a key. -/
theorem length_le_length_filter_ne {l : List κ} (h : l.Nodup) (key : κ) :
    l.length ≤ (l.filter (· ≠ key)).length + 1 := by
  induction l with
  | nil => exact Nat.zero_le _
  | cons a l ih =>
    obtain ⟨hNew, hNodup⟩ := List.nodup_cons.mp h
    by_cases hKey : a = key
    · have hAll : l.filter (· ≠ key) = l := by
        refine List.filter_eq_self.mpr fun b hb => ?_
        have hNe : b ≠ key := fun hEq => hNew (hKey.trans hEq.symm ▸ hb)
        simpa using hNe
      rw [List.filter_cons_of_neg (by simpa using hKey), hAll, List.length_cons]
    · have hRest := ih hNodup
      rw [List.filter_cons_of_pos (by simpa using hKey), List.length_cons, List.length_cons]
      omega

/-- After one more use, the keys used last can be told from those used last before. -/
theorem keepLast_dedup_concat (limit? : Option Nat) (ks : List κ) (key : κ) :
    keepLast limit? ((keepLast limit? ks.dedup).filter (· ≠ key) ++ [key]) =
      keepLast limit? (ks ++ [key]).dedup := by
  rw [dedup_concat]
  cases limit? with
  | none => rfl
  | some n =>
    by_cases hFits : ks.dedup.length ≤ n
    · have hAll : keepLast (some n) ks.dedup = ks.dedup :=
        keepLast_of_length_le (by simpa using hFits)
      rw [hAll]
    · let older := ks.dedup.take (ks.dedup.length - n)
      let newer := ks.dedup.drop (ks.dedup.length - n)
      have hNewer : newer.length = n := by
        simp only [newer, List.length_drop]
        omega
      have hNodup : newer.Nodup := (List.nodup_dedup ks).sublist (List.drop_sublist _ _)
      have hEnough : n ≤ (newer.filter (· ≠ key) ++ [key]).length := by
        have hLoss := length_le_length_filter_ne hNodup key
        rw [List.length_append, List.length_singleton]
        omega
      have hSplit : ks.dedup = older ++ newer := (List.take_append_drop _ _).symm
      show keepLast (some n) (newer.filter (· ≠ key) ++ [key]) = _
      rw [hSplit, List.filter_append, List.append_assoc]
      exact (keepLast_append_of_le hEnough _).symm

namespace Recency

variable {r r' : Recency κ υ}

/-! ## Uses -/

/-- One use of a store. -/
inductive Use : Recency κ υ → Recency κ υ → Prop where
  | touch (r : Recency κ υ) (key : κ) : Use r (r.touch key)
  | insert (r : Recency κ υ) (key : κ) (value : υ) : Use r (r.insert key value)
  | clear (r : Recency κ υ) : Use r r.clear

/-- Any number of uses of a store. -/
abbrev Uses : Recency κ υ → Recency κ υ → Prop := Relation.ReflTransGen Use

/-- Whether a store holds no more than its limit allows. -/
def Fits (r : Recency κ υ) : Prop := ∀ n, r.limit? = some n → r.size ≤ n

theorem limit?_touch (r : Recency κ υ) (key : κ) : (r.touch key).limit? = r.limit? := by
  unfold touch
  split <;> rfl

theorem keys_insert (r : Recency κ υ) (key : κ) (value : υ) :
    (r.insert key value).keys = keepLast r.limit? (r.keys.filter (· ≠ key) ++ [key]) := by
  simp only [keys, insert, map_keepLast, List.map_append, map_fst_without, List.map_cons,
    List.map_nil]

theorem length_moved_le {ks : List κ} {key : κ} (h : key ∈ ks) :
    (ks.filter (· ≠ key) ++ [key]).length ≤ ks.length := by
  have hFewer : (ks.filter (· ≠ key)).length < ks.length :=
    List.length_filter_lt_length_iff_exists.mpr ⟨key, h, by simp⟩
  rw [List.length_append, List.length_singleton]
  omega

theorem mem_keys_of_get? {key : κ} {value : υ} (h : r.get? key = some value) : key ∈ r.keys :=
  List.mem_map_of_mem (mem_of_get? h)

omit [DecidableEq κ] in
theorem Fits.length_keys (h : r.Fits) : ∀ n, r.limit? = some n → r.keys.length ≤ n := by
  intro n hLimit
  rw [keys, List.length_map]
  exact h n hLimit

/-- A key that is used again moves to the end. No key has to go for that. -/
theorem keys_touch (hFits : r.Fits) {key : κ} {value : υ} (h : r.get? key = some value) :
    (r.touch key).keys = keepLast r.limit? (r.keys.filter (· ≠ key) ++ [key]) := by
  have hMoved : (r.touch key).keys = r.keys.filter (· ≠ key) ++ [key] := by
    simp only [keys, touch, h, List.map_append, map_fst_without, List.map_cons, List.map_nil]
  have hRoom : ∀ n, r.limit? = some n → (r.keys.filter (· ≠ key) ++ [key]).length ≤ n := by
    intro n hLimit
    exact Nat.le_trans (length_moved_le (mem_keys_of_get? h)) (hFits.length_keys n hLimit)
  rw [hMoved, keepLast_of_length_le hRoom]

theorem fits_touch (hFits : r.Fits) (key : κ) : (r.touch key).Fits := by
  cases h : r.get? key with
  | none =>
    have hSame : r.touch key = r := by simp only [touch, h]
    rw [hSame]
    exact hFits
  | some value =>
    intro n hLimit
    rw [limit?_touch] at hLimit
    rw [size, ← List.length_map (·.1), ← keys, keys_touch hFits h, hLimit]
    exact length_keepLast_le n _

theorem fits_insert (r : Recency κ υ) (key : κ) (value : υ) : (r.insert key value).Fits :=
  fun n (hLimit : r.limit? = some n) => size_insert_le hLimit key value

theorem Uses.limit?_eq (h : r.Uses r') : r'.limit? = r.limit? := by
  induction h with
  | refl => rfl
  | tail _ hUse ih =>
    cases hUse with
    | touch key => exact (limit?_touch _ key).trans ih
    | insert key value => exact ih
    | clear => exact ih

/-- However a store is used, it holds no more than its limit allows. -/
theorem Uses.fits (h : r.Uses r') (hFits : r.Fits) : r'.Fits := by
  induction h with
  | refl => exact hFits
  | tail _ hUse ih =>
    cases hUse with
    | touch key => exact fits_touch ih key
    | insert key value => exact fits_insert _ key value
    | clear => exact fun n _ => Nat.zero_le n

/-! ## Values -/

/-- A key that is given a value has no other one. -/
theorem of_mem_insert {key : κ} {value : υ} {e : κ × υ} (h : e ∈ (r.insert key value).entries) :
    e = (key, value) ∨ e ∈ r.entries ∧ e.1 ≠ key := by
  have hAll : e ∈ without key r.entries ++ [(key, value)] := (keepLast_sublist _ _).subset h
  rcases List.mem_append.mp hAll with hOld | hNew
  · obtain ⟨hMem, hKey⟩ := List.mem_filter.mp hOld
    exact .inr ⟨hMem, by simpa using hKey⟩
  · exact .inl (List.mem_singleton.mp hNew)

/-! ## Look-ups -/

theorem lookup_without_of_ne {key key' : κ} (h : key' ≠ key) (entries : List (κ × υ)) :
    (without key entries).lookup key' = entries.lookup key' := by
  induction entries with
  | nil => rfl
  | cons e entries ih =>
    by_cases hKey : e.1 = key
    · have hOther : (key' == e.1) = false := beq_eq_false_iff_ne.mpr (hKey ▸ h)
      rw [without, List.filter_cons_of_neg (by simpa using hKey), List.lookup_cons, hOther]
      exact ih
    · rw [without, List.filter_cons_of_pos (by simpa using hKey), List.lookup_cons, List.lookup_cons]
      cases key' == e.1 with
      | true => rfl
      | false => exact ih

theorem get?_touch (r : Recency κ υ) (key key' : κ) : (r.touch key).get? key' = r.get? key' := by
  unfold touch
  cases hValue : r.get? key with
  | none => rfl
  | some value =>
    simp only [get?, List.lookup_append]
    by_cases hKey : key' = key
    · subst hKey
      rw [lookup_without, Option.none_or, List.lookup_cons_self]
      exact hValue.symm
    · rw [lookup_without_of_ne hKey, List.lookup_cons, beq_eq_false_iff_ne.mpr hKey]
      exact Option.or_none

/-- A store without a limit loses nothing. -/
theorem get?_insert_of_ne {key key' : κ} (hLimit : r.limit? = none) (h : key' ≠ key) (value : υ) :
    (r.insert key value).get? key' = r.get? key' := by
  simp only [get?, insert, hLimit, keepLast, List.lookup_append]
  rw [lookup_without_of_ne h, List.lookup_cons, beq_eq_false_iff_ne.mpr h]
  exact Option.or_none

end Recency

end Stencil.Store
