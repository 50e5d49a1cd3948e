import Stencil.Options.Merge

/-!
# Entries put over entries

Putting entries over others in which each name stands once keeps them so. It can be done in any
grouping: `Entries.override_assoc`. What is put over entries a second time changes nothing:
`Entries.override_override_self`.
-/

namespace Stencil.Entries

variable {α : Type} {name other : List Char} {v w : α}

theorem mem_names_cons {p : List Char × α} {e : Entries α} :
    name ∈ names (p :: e) ↔ name = p.1 ∨ name ∈ e.names := List.mem_cons

theorem get?_eq_none_iff {e : Entries α} : e.get? name = none ↔ name ∉ e.names := by
  induction e with
  | nil => simp [get?, names]
  | cons p e ih =>
    obtain ⟨n, u⟩ := p
    rw [get?_cons, mem_names_cons, not_or]
    by_cases h : name = n
    · simp [h]
    · rw [if_neg h, ih]
      exact ⟨fun hRest => ⟨h, hRest⟩, And.right⟩

theorem get?_append (e e' : Entries α) (name : List Char) :
    (e ++ e').get? name = (e.get? name).or (e'.get? name) := by
  induction e with
  | nil => rfl
  | cons p e ih =>
    obtain ⟨n, u⟩ := p
    rw [List.cons_append, get?_cons, get?_cons, ih]
    split
    case isTrue => rfl
    case isFalse => rfl

/-- Entries may be left out by their names. -/
theorem get?_filter (p : List Char → Bool) (e : Entries α) (name : List Char) :
    get? name (e.filter fun q => p q.1) = if p name then e.get? name else none := by
  induction e with
  | nil => simp [get?]
  | cons q e ih =>
    obtain ⟨n, u⟩ := q
    by_cases hp : p n
    · rw [List.filter_cons_of_pos (p := fun q => p q.1) (a := (n, u)) hp, get?_cons, get?_cons, ih]
      by_cases h : name = n
      · rw [if_pos h, if_pos h, h, if_pos hp]
      · rw [if_neg h, if_neg h]
    · rw [List.filter_cons_of_neg (p := fun q => p q.1) (a := (n, u)) hp, ih, get?_cons]
      by_cases h : name = n
      · rw [h, if_neg hp, if_neg hp]
      · rw [if_neg h]

theorem names_filter (p : List Char → Bool) (e : Entries α) :
    names (e.filter fun q => p q.1) = e.names.filter p := by
  rw [names, names, List.filter_map]
  rfl

theorem names_append (e e' : Entries α) : names (e ++ e') = e.names ++ e'.names := List.map_append

/-! ## Names of entries with a new value -/

theorem names_put_of_mem {e : Entries α} (h : name ∈ e.names) : (put name v e).names = e.names := by
  induction e with
  | nil => cases h
  | cons p e ih =>
    obtain ⟨n, u⟩ := p
    unfold put
    split
    case isTrue => rfl
    case isFalse hn =>
      have hMem : name ∈ names e := (mem_names_cons.mp h).resolve_left (Ne.symm hn)
      exact congrArg (n :: ·) (ih hMem)

theorem put_of_notMem {e : Entries α} (h : name ∉ e.names) (v : α) :
    put name v e = e ++ [(name, v)] := by
  induction e with
  | nil => rfl
  | cons p e ih =>
    obtain ⟨n, u⟩ := p
    rw [mem_names_cons, not_or] at h
    rw [put, if_neg (Ne.symm h.1), ih h.2, List.cons_append]

theorem nodup_nil : (names ([] : Entries α)).Nodup := List.Pairwise.nil

theorem mem_names_put {e : Entries α} :
    other ∈ (put name v e).names ↔ other = name ∨ other ∈ e.names := by
  by_cases h : name ∈ e.names
  · rw [names_put_of_mem h]
    exact ⟨.inr, fun hOr => hOr.elim (fun hEq => hEq ▸ h) id⟩
  · rw [put_of_notMem h, names_append, List.mem_append, or_comm]
    simp [names]

theorem nodup_put {e : Entries α} (h : e.names.Nodup) (name : List Char) (v : α) :
    (put name v e).names.Nodup := by
  by_cases hMem : name ∈ e.names
  · rw [names_put_of_mem hMem]
    exact h
  · rw [put_of_notMem hMem, names_append]
    refine List.nodup_append.mpr ⟨h, List.pairwise_singleton .., ?_⟩
    rintro a ha b hb rfl
    rw [List.mem_singleton.mp hb] at ha
    exact hMem ha

theorem mem_names_override {lower upper : Entries α} :
    name ∈ (lower.override upper).names ↔ name ∈ lower.names ∨ name ∈ upper.names := by
  induction upper generalizing lower with
  | nil => simp [override, names]
  | cons p upper ih =>
    have hStep : lower.override (p :: upper) = (put p.1 p.2 lower).override upper := rfl
    rw [hStep, ih, mem_names_put, mem_names_cons, or_assoc, or_left_comm]

theorem nodup_override {lower : Entries α} (h : lower.names.Nodup) (upper : Entries α) :
    (lower.override upper).names.Nodup := by
  induction upper generalizing lower with
  | nil => exact h
  | cons p upper ih => exact ih (nodup_put h p.1 p.2)

theorem filter_put (p : List Char → Bool) (e : Entries α) :
    (put name v e).filter (fun q => p q.1) =
      if p name then put name v (e.filter fun q => p q.1) else e.filter fun q => p q.1 := by
  induction e with
  | nil => by_cases hp : p name <;> simp [put, hp]
  | cons q e ih =>
    obtain ⟨n, u⟩ := q
    by_cases hn : n = name
    · by_cases hp : p name <;> simp [put, hn, hp]
    · by_cases hp : p n
      · by_cases hName : p name <;> simp [put, hn, hp, hName, ih]
      · by_cases hName : p name <;> simp [put, hn, hp, hName, ih]

/-! ## Grouping -/

theorem put_put_self (e : Entries α) : put name v (put name w e) = put name v e := by
  induction e with
  | nil => simp [put]
  | cons p e ih =>
    obtain ⟨n, u⟩ := p
    by_cases h : n = name
    · simp [put, h]
    · simp [put, h, ih]

/-- A name that is there already has its place, whatever is put before. -/
theorem put_put_of_mem {e : Entries α} (h : name ∈ e.names) (hNe : other ≠ name) :
    put name v (put other w e) = put other w (put name v e) := by
  induction e with
  | nil => cases h
  | cons p e ih =>
    obtain ⟨n, u⟩ := p
    by_cases hn : n = name
    · subst hn
      simp [put, Ne.symm hNe]
    · have hMem : name ∈ names e := (List.mem_cons.mp h).resolve_left (Ne.symm hn)
      by_cases ho : n = other
      · simp [put, ho, hNe]
      · simp [put, hn, ho, ih hMem]

theorem put_override_of_mem {lower upper : Entries α} (h : name ∈ lower.names)
    (hNew : name ∉ upper.names) :
    put name v (lower.override upper) = (put name v lower).override upper := by
  induction upper generalizing lower with
  | nil => rfl
  | cons p upper ih =>
    obtain ⟨hNe, hRest⟩ := not_or.mp (fun h => hNew (mem_names_cons.mpr h))
    have hMem : name ∈ (put p.1 p.2 lower).names := mem_names_put.mpr (.inr h)
    have hStep : put name v (put p.1 p.2 lower) = put p.1 p.2 (put name v lower) :=
      put_put_of_mem h (Ne.symm hNe)
    exact (ih hMem hRest).trans (congrArg (override · upper) hStep)

theorem override_put {upper : Entries α} (h : upper.names.Nodup) (lower : Entries α) :
    lower.override (put name v upper) = put name v (lower.override upper) := by
  induction upper generalizing lower with
  | nil => rfl
  | cons p upper ih =>
    obtain ⟨n, u⟩ := p
    obtain ⟨hNew, hRest⟩ := List.nodup_cons.mp h
    by_cases hn : n = name
    · subst hn
      have hPut : put n v ((n, u) :: upper) = (n, v) :: upper := by simp [put]
      have hMem : n ∈ (put n u lower).names := mem_names_put.mpr (.inl rfl)
      calc lower.override (put n v ((n, u) :: upper))
        _ = (put n v lower).override upper := by rw [hPut]; rfl
        _ = (put n v (put n u lower)).override upper := by rw [put_put_self]
        _ = put n v ((put n u lower).override upper) := (put_override_of_mem hMem hNew).symm
    · have hPut : put name v ((n, u) :: upper) = (n, u) :: put name v upper := by simp [put, hn]
      rw [hPut]
      exact ih hRest (put n u lower)

/-- What is put over entries may be put together first. -/
theorem override_assoc {middle : Entries α} (h : middle.names.Nodup) (lower upper : Entries α) :
    lower.override (middle.override upper) = (lower.override middle).override upper := by
  induction upper generalizing middle with
  | nil => rfl
  | cons p upper ih =>
    have hStep := ih (nodup_put h p.1 p.2)
    rw [override_put h] at hStep
    exact hStep

theorem put_of_get? {e : Entries α} (h : e.get? name = some v) : put name v e = e := by
  induction e with
  | nil => cases h
  | cons p e ih =>
    obtain ⟨n, u⟩ := p
    rw [get?_cons] at h
    by_cases hn : name = n
    · rw [if_pos hn] at h
      rw [put, if_pos hn.symm, Option.some.inj h]
    · rw [if_neg hn] at h
      rw [put, if_neg (Ne.symm hn), ih h]

theorem get?_of_mem {e : Entries α} (h : e.names.Nodup) (hMem : (name, v) ∈ e) :
    e.get? name = some v := by
  induction e with
  | nil => cases hMem
  | cons p e ih =>
    obtain ⟨n, u⟩ := p
    obtain ⟨hNew, hRest⟩ := List.nodup_cons.mp h
    rw [get?_cons]
    rcases List.mem_cons.mp hMem with hEq | hMem
    · rw [if_pos (Prod.mk.inj hEq).1, (Prod.mk.inj hEq).2]
    · have hName : name ∈ names e := List.mem_map.mpr ⟨_, hMem, rfl⟩
      have hNe : name ≠ n := fun hEq => hNew (hEq ▸ hName)
      rw [if_neg hNe]
      exact ih hRest hMem

/-- What is there already may be put over entries. -/
theorem override_of_get? {lower upper : Entries α}
    (h : ∀ p ∈ upper, lower.get? p.1 = some p.2) : lower.override upper = lower := by
  induction upper with
  | nil => rfl
  | cons p upper ih =>
    have hStep : lower.override (p :: upper) = (put p.1 p.2 lower).override upper := rfl
    rw [hStep, put_of_get? (h p List.mem_cons_self)]
    exact ih fun q hq => h q (List.mem_cons_of_mem p hq)

/-- Entries put over others a second time change nothing. -/
theorem override_override_self {lower : Entries α} (h : lower.names.Nodup) (upper : Entries α) :
    lower.override (lower.override upper) = lower.override upper := by
  have hSelf : lower.override lower = lower := override_of_get? fun p hp => get?_of_mem h hp
  rw [override_assoc h, hSelf]

/-- New names are put at the end, in order. -/
theorem override_of_disjoint {lower upper : Entries α} (h : (names (lower ++ upper)).Nodup) :
    lower.override upper = lower ++ upper := by
  induction upper generalizing lower with
  | nil => exact (List.append_nil lower).symm
  | cons p upper ih =>
    obtain ⟨n, v⟩ := p
    have hNew : n ∉ names lower := by
      intro hMem
      rw [names_append] at h
      exact (List.nodup_append.mp h).2.2 n hMem n List.mem_cons_self rfl
    have hStep : lower.override ((n, v) :: upper) = (put n v lower).override upper := rfl
    have hAppend : lower ++ [(n, v)] ++ upper = lower ++ (n, v) :: upper := List.append_assoc ..
    rw [hStep, put_of_notMem hNew, ih (hAppend ▸ h), hAppend]

theorem nil_override {e : Entries α} (h : e.names.Nodup) : override [] e = e :=
  override_of_disjoint h

/-- Leaving entries out by their names goes before or after. -/
theorem filter_override (p : List Char → Bool) (lower upper : Entries α) :
    (lower.override upper).filter (fun q => p q.1) =
      override (lower.filter fun q => p q.1) (upper.filter fun q => p q.1) := by
  induction upper generalizing lower with
  | nil => rfl
  | cons q upper ih =>
    obtain ⟨n, v⟩ := q
    have hStep : lower.override ((n, v) :: upper) = (put n v lower).override upper := rfl
    rw [hStep, ih, filter_put]
    by_cases hp : p n
    · rw [if_pos hp, List.filter_cons_of_pos (p := fun q => p q.1) (a := (n, v)) hp]
      rfl
    · rw [if_neg hp, List.filter_cons_of_neg (p := fun q => p q.1) (a := (n, v)) hp]

end Stencil.Entries
