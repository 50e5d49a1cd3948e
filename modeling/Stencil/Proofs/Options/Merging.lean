import Stencil.Proofs.Options.Writing

/-!
# What options become over defaults

Of options over defaults, a value is looked up by its name: it is the caller's if there is one, or
else what the defaults hand on, or else what the field is without either. Parameters are combined,
and so are search paths; the source of a template comes from one side as a whole. An extra of the
defaults that has the name of a member is not handed on, the member is: `handedOn?_of_member`.

* `valid_merge`: options over defaults are valid.
* `Merged`, `merged_merge`: the law.
* `merge_merge`: options that have been put over defaults, put over them again.
-/

namespace Stencil.Options

section

variable {α : Type} {o d : Options α}

/-! ## Extras -/

/-- The extras that defaults add. -/
def added (o d : Options α) : Entries α := d.extras.filter fun e => !o.extras.names.contains e.1

theorem mem_names_added {name : List Char} :
    name ∈ (added o d).names ↔ name ∈ d.extras.names ∧ name ∉ o.extras.names := by
  rw [added, Entries.names_filter fun name => !o.extras.names.contains name, List.mem_filter]
  simp

variable [Material α]

/-- What defaults hand on under the name of an extra. -/
def handedOn? (d : Options α) (name : List Char) : Option α :=
  (d.extras.get? name).map fun v => (d.handedOn (name, v)).2

theorem handedOn_fst (d : Options α) (e : List Char × α) : (d.handedOn e).1 = e.1 := by
  unfold handedOn
  split
  case h_1 => rfl
  case h_2 => rfl

theorem get?_map_handedOn (d : Options α) (e : Entries α) (name : List Char) :
    Entries.get? name (e.map d.handedOn) = (e.get? name).map fun v => (d.handedOn (name, v)).2 := by
  induction e with
  | nil => rfl
  | cons p e ih =>
    obtain ⟨n, v⟩ := p
    have hHead : d.handedOn (n, v) = (n, (d.handedOn (n, v)).2) := Prod.ext (d.handedOn_fst _) rfl
    rw [List.map_cons, hHead, Entries.get?_cons, Entries.get?_cons, ih]
    by_cases h : name = n
    · rw [if_pos h, if_pos h, h]
      rfl
    · rw [if_neg h, if_neg h]

theorem names_map_handedOn (d : Options α) (e : Entries α) :
    Entries.names (e.map d.handedOn) = e.names := by
  rw [Entries.names, List.map_map]
  exact List.map_congr_left fun p _ => d.handedOn_fst p

theorem extras_merge (o d : Options α) :
    (o.merge d).extras = o.extras ++ (added o d).map d.handedOn := rfl

theorem names_extras_merge (o d : Options α) :
    (o.merge d).extras.names = o.extras.names ++ (added o d).names := by
  rw [extras_merge, Entries.names_append, names_map_handedOn]

/-- An extra is the caller's, or else what the defaults hand on. -/
theorem get?_extras_merge (o d : Options α) (name : List Char) :
    (o.merge d).extras.get? name = (o.extras.get? name).or (d.handedOn? name) := by
  rw [extras_merge, Entries.get?_append, get?_map_handedOn, added,
    Entries.get?_filter fun name => !o.extras.names.contains name]
  cases hGiven : o.extras.get? name with
  | some v => rfl
  | none =>
    have hNew : (!o.extras.names.contains name) = true := by
      rw [Entries.get?_eq_none_iff] at hGiven
      simpa using hGiven
    rw [if_pos hNew]
    rfl

theorem handedOn?_of_noMember (d : Options α) {name : List Char}
    (h : Member.ofName? name = none) : d.handedOn? name = d.extras.get? name := by
  have hSame : ∀ v, (d.handedOn (name, v)).2 = v := by
    intro v
    unfold handedOn
    rw [h]
  rw [handedOn?]
  simp only [hSame]
  exact Option.map_id'

/-- A name of a member stands for the member, also where defaults have an extra of that name. -/
theorem handedOn?_of_member (d : Options α) {name : List Char} {m : Member}
    (h : Member.ofName? name = some m) :
    d.handedOn? name = (d.extras.get? name).map fun _ => m.value d := by
  have hMember : ∀ v, (d.handedOn (name, v)).2 = m.value d := by
    intro v
    unfold handedOn
    rw [h]
  rw [handedOn?]
  simp only [hMember]

example : (merge empty { empty with extras := [("copy".toList, Data.int 1)] }).extras.get?
    "copy".toList = some (.member "copy".toList) := by rfl

theorem valid_merge (ho : o.Valid) (hd : d.Valid) : (o.merge d).Valid where
  params := Entries.nodup_override hd.params o.params
  extras := by
    have hAdded : (added o d).names.Nodup :=
      hd.extras.sublist (List.filter_sublist.map Prod.fst)
    rw [names_extras_merge]
    refine List.nodup_append.mpr ⟨ho.extras, hAdded, ?_⟩
    rintro name hGiven name' hName rfl
    exact (mem_names_added.mp hName).2 hGiven
  unmeant name hName := by
    rw [names_extras_merge, List.mem_append, mem_names_added] at hName
    rcases hName with hName | ⟨hName, -⟩
    · exact ho.unmeant name hName
    · exact hd.unmeant name hName

/-! ## Putting options over the same defaults twice -/

theorem added_merge (o d : Options α) : added (o.merge d) d = [] := by
  refine List.filter_eq_nil_iff.mpr fun p hp => ?_
  have hName : p.1 ∈ (o.merge d).extras.names := by
    rw [names_extras_merge, List.mem_append, mem_names_added]
    by_cases h : p.1 ∈ o.extras.names
    · exact .inl h
    · exact .inr ⟨List.mem_map_of_mem hp, h⟩
  simpa using hName

/-- Options that have been put over defaults are not changed by the same defaults, apart from the
search path. -/
theorem merge_merge (o : Options α) (hd : d.params.names.Nodup) :
    (o.merge d).merge d = { o.merge d with
      path? := some (currentDirectory :: (o.merge d).path ++ d.path) } := by
  have hParams : d.params.override (o.merge d).params = (o.merge d).params :=
    Entries.override_override_self hd o.params
  have hExtras : ((o.merge d).merge d).extras = (o.merge d).extras := by
    rw [extras_merge (o.merge d) d, added_merge, List.map_nil, List.append_nil]
  calc (o.merge d).merge d
    _ = { o.merge d with
          path? := some (currentDirectory :: (o.merge d).path ++ d.path)
          params? := some (d.params.override (o.merge d).params)
          extras := ((o.merge d).merge d).extras } := rfl
    _ = _ := by
        rw [hParams, hExtras]
        rfl

end

/-! ## The law -/

/-- What a field is if it is not given. -/
def fallback : OptionField → Data
  | .inputFile | .inputString => .null
  | .params => .dict []
  | .path => .list []
  | .raw | .preprocessOnly => .bool false
  | .encoding => .text defaultEncoding

/-- Fields of which the caller's value does not simply come before that of the defaults. -/
def combined : List OptionField := [.inputFile, .inputString, .params, .path]

/-- What options are that come of options over defaults. -/
structure Merged (m o d : Options Data) : Prop where
  /-- They can be read from what is written down of them. -/
  read : ofEntries m.written.mapping = .ok m
  full : ∀ f : OptionField, f.isGiven m
  params : ∀ name, m.params.get? name = (o.params.get? name).or (d.params.get? name)
  path : m.path = currentDirectory :: o.path ++ d.path
  callersSource : o.hasSource → m.inputFile = o.inputFile ∧ m.inputString = o.inputString
  defaultSource : ¬o.hasSource → m.inputFile = d.inputFile ∧ m.inputString = d.inputString
  field : ∀ f : OptionField, f ∉ combined → m.written.get? f.name =
    ((o.written.get? f.name).or (d.written.get? f.name)).or (some (fallback f))
  extra : ∀ name, OptionField.ofName? name = none → Member.ofName? name = none →
    m.written.get? name = (o.written.get? name).or (d.written.get? name)
  member : ∀ name k, OptionField.ofName? name = none → Member.ofName? name = some k →
    m.written.get? name = (o.written.get? name).or ((d.written.get? name).map fun _ => k.value d)

theorem some_getD_getD {β γ : Type} (g : β → γ) (x? y? : Option β) (z : β) :
    some (g (x?.getD (y?.getD z))) = ((x?.map g).or (y?.map g)).or (some (g z)) := by
  cases x? with
  | some x => rfl
  | none =>
    cases y? with
    | some y => rfl
    | none => rfl

theorem merged_merge {o d : Options Data} (ho : o.Valid) (hd : d.Valid) :
    Merged (o.merge d) o d where
  read := ofEntries_written (valid_merge ho hd)
  full f := by cases f <;> rfl
  params := get?_params_merge o d ho.params
  path := rfl
  callersSource h := by
    rw [inputFile, inputString, merge, if_pos h, if_pos h]
    exact ⟨rfl, rfl⟩
  defaultSource h := by
    rw [inputFile, inputString, merge, if_neg h, if_neg h]
    exact ⟨rfl, rfl⟩
  field f hf := by
    rw [get?_written_field (valid_merge ho hd), get?_written_field ho, get?_written_field hd]
    cases f with
    | inputFile | inputString | params | path => exact absurd (by decide) hf
    | raw => exact some_getD_getD Data.bool o.raw? d.raw? false
    | preprocessOnly => exact some_getD_getD Data.bool o.preprocessOnly? d.preprocessOnly? false
    | encoding => exact some_getD_getD Data.text o.encoding? d.encoding? defaultEncoding
  extra name hName hMember := by
    rw [get?_written_extra _ hName, get?_written_extra o hName, get?_written_extra d hName,
      get?_extras_merge, handedOn?_of_noMember d hMember]
  member name k hName hMember := by
    rw [get?_written_extra _ hName, get?_written_extra o hName, get?_written_extra d hName,
      get?_extras_merge, handedOn?_of_member d hMember]

end Stencil.Options
