import Stencil.Data.Basic
import Stencil.Proofs.Options.Rereading

/-!
# Options that are written down

Options are written down as the names that they give, with their values. A reading of what was
written down finds the options again, and a value is looked up in it by its name, be it the name of
a field or of an extra.

* `written_names`, `get?_written_field`, `get?_written_extra`: what is written down.
* `ofEntries_written`: what is written down is read as it was.
* `coerce_written`: names may be given anew in the options or in what was written down.
-/

namespace Stencil

instance : LawfulMaterial Data := ⟨fun _ => rfl⟩

/-- Names and values as a mapping. -/
def Entries.mapping (e : Entries Data) : List (Data × Data) := e.map fun p => (.text p.1, p.2)

theorem named_mapping (e : Entries Data) : named e.mapping = e := by
  induction e with
  | nil => rfl
  | cons p e ih => exact congrArg (p :: ·) ih

theorem textKeys_mapping (e : Entries Data) : TextKeys e.mapping := by
  intro d hd
  obtain ⟨p, -, rfl⟩ := List.mem_map.mp hd
  exact ⟨p.1, rfl⟩

/-- A text that may be missing, as data. -/
def optionalText (s? : Option (List Char)) : Data := (s?.map .text).getD .null

namespace OptionField

/-- The value of a field, if it is given. -/
def written? (o : Options Data) : OptionField → Option Data
  | inputFile => o.inputFile?.map optionalText
  | inputString => o.inputString?.map optionalText
  | params => o.params?.map fun e => .dict e.mapping
  | path => o.path?.map fun directories => .list (directories.map .text)
  | raw => o.raw?.map .bool
  | preprocessOnly => o.preprocessOnly?.map .bool
  | encoding => o.encoding?.map .text

theorem isSome_written? (o : Options Data) (f : OptionField) :
    (f.written? o).isSome = f.isGiven o := by
  cases f with
  | _ => exact Option.isSome_map

theorem ofName?_name (f : OptionField) : ofName? f.name = some f := by cases f <;> decide

theorem nodup_names : (all.map name).Nodup := by decide

end OptionField

namespace Options

variable {o : Options Data}

/-- The fields that are given, with their values. -/
def writtenFields (o : Options Data) : Entries Data :=
  OptionField.all.filterMap fun f => (f.written? o).map fun v => (f.name, v)

/-- The names that are given, with their values. -/
def written (o : Options Data) : Entries Data := o.writtenFields ++ o.extras

theorem mem_writtenFields {name : List Char} {v : Data} :
    (name, v) ∈ o.writtenFields ↔ ∃ f : OptionField, f.name = name ∧ f.written? o = some v := by
  simp only [writtenFields, List.mem_filterMap, Option.map_eq_some_iff, Prod.mk.injEq]
  constructor
  · rintro ⟨f, -, u, hWritten, hName, rfl⟩
    exact ⟨f, hName, hWritten⟩
  · rintro ⟨f, hName, hWritten⟩
    have hAll : f ∈ OptionField.all := by cases f <;> decide
    exact ⟨f, hAll, v, hWritten, hName, rfl⟩

theorem names_writtenFields (o : Options Data) :
    o.writtenFields.names =
      (OptionField.all.filter (OptionField.isGiven o)).map OptionField.name := by
  rw [writtenFields]
  induction OptionField.all with
  | nil => rfl
  | cons f fields ih =>
    have hGiven := OptionField.isSome_written? o f
    cases hWritten : f.written? o with
    | none =>
      rw [hWritten] at hGiven
      rw [List.filterMap_cons_none (by rw [hWritten]; rfl), ih,
        List.filter_cons_of_neg (by rw [← hGiven]; decide)]
    | some v =>
      rw [hWritten] at hGiven
      rw [List.filterMap_cons_some (by rw [hWritten]; rfl),
        List.filter_cons_of_pos hGiven.symm, List.map_cons, ← ih]
      rfl

/-- The names that are written down are those that are given. -/
theorem names_written (o : Options Data) : o.written.names = o.givenNames := by
  rw [written, Entries.names_append, names_writtenFields]
  rfl

theorem nodup_writtenFields (o : Options Data) : o.writtenFields.names.Nodup := by
  rw [names_writtenFields]
  exact OptionField.nodup_names.sublist (List.filter_sublist.map OptionField.name)

theorem ofName?_of_mem_writtenFields {name : List Char} (h : name ∈ o.writtenFields.names) :
    ∃ f, OptionField.ofName? name = some f := by
  obtain ⟨⟨n, v⟩, hMem, rfl⟩ := List.mem_map.mp h
  obtain ⟨f, hName, -⟩ := mem_writtenFields.mp hMem
  exact ⟨f, hName ▸ f.ofName?_name⟩

theorem nodup_written (h : o.Valid) : o.written.names.Nodup := by
  rw [written, Entries.names_append]
  refine List.nodup_append.mpr ⟨nodup_writtenFields o, h.extras, ?_⟩
  rintro name hField name' hExtra rfl
  obtain ⟨f, hName⟩ := ofName?_of_mem_writtenFields hField
  rw [h.unmeant name hExtra] at hName
  cases hName

theorem get?_writtenFields (o : Options Data) (f : OptionField) :
    o.writtenFields.get? f.name = f.written? o := by
  cases hWritten : f.written? o with
  | some v =>
    exact Entries.get?_of_mem (nodup_writtenFields o) (mem_writtenFields.mpr ⟨f, rfl, hWritten⟩)
  | none =>
    rw [Entries.get?_eq_none_iff]
    intro hMem
    obtain ⟨⟨n, v⟩, hMem, hName⟩ := List.mem_map.mp hMem
    obtain ⟨g, rfl, hValue⟩ := mem_writtenFields.mp hMem
    have hSame : some g = some f := by
      rw [← g.ofName?_name, ← f.ofName?_name]
      exact congrArg _ hName
    cases hSame
    rw [hWritten] at hValue
    cases hValue

theorem get?_written_field (h : o.Valid) (f : OptionField) :
    o.written.get? f.name = f.written? o := by
  have hExtra : o.extras.get? f.name = none := by
    rw [Entries.get?_eq_none_iff]
    intro hMem
    have hName := h.unmeant f.name hMem
    rw [f.ofName?_name] at hName
    cases hName
  rw [written, Entries.get?_append, get?_writtenFields, hExtra, Option.or_none]

theorem get?_written_extra (o : Options Data) {name : List Char}
    (h : OptionField.ofName? name = none) : o.written.get? name = o.extras.get? name := by
  have hField : o.writtenFields.get? name = none := by
    rw [Entries.get?_eq_none_iff]
    intro hMem
    obtain ⟨f, hName⟩ := ofName?_of_mem_writtenFields hMem
    rw [h] at hName
    cases hName
  rw [written, Entries.get?_append, hField, Option.none_or]

theorem unmeant_written (h : o.Valid) : o.written.unmeant = o.extras := by
  have hFields : o.writtenFields.unmeant = [] := by
    refine List.filter_eq_nil_iff.mpr fun p hp => ?_
    obtain ⟨f, hName⟩ := ofName?_of_mem_writtenFields (List.mem_map_of_mem hp)
    rw [hName]
    exact Bool.false_ne_true
  have hExtras : o.extras.unmeant = o.extras := by
    refine List.filter_eq_self.mpr fun p hp => ?_
    rw [h.unmeant p.1 (List.mem_map_of_mem hp)]
    rfl
  rw [written, Entries.unmeant_append, hFields, hExtras, List.nil_append]

end Options

/-! ## What is written down is read as it was -/

theorem checkOptionalText_optionalText (place : List Place) (s? : Option (List Char)) :
    checkOptionalText place (optionalText s?) = .ok s? := by
  cases s? with
  | none => rfl
  | some s => rfl

theorem checkEntries_mapping (place : List Place) {e : Entries Data} (h : e.names.Nodup) :
    checkEntries place (Data.dict e.mapping) = .ok e := by
  have hChecks : e.mapping.map (fun d =>
      (checkText (place ++ [Place.ofKey d.1, .name "[key]".toList]) d.1).map fun key =>
        (key, d.2)) = e.map .ok := by
    rw [Entries.mapping, List.map_map]
    rfl
  show Except.map _ (gather (List.map _ e.mapping)) = _
  rw [hChecks, gather_ok]
  exact congrArg Except.ok (Entries.nil_override h)

namespace Options

variable {o : Options Data}

theorem checkField_written {β : Type} {check : List Place → Data → Checked β} {write : β → Data}
    {f : OptionField} {had? : Option β} (h : o.Valid) (hWritten : f.written? o = had?.map write)
    (hCheck : ∀ x, had? = some x → check [.name f.name] (write x) = .ok x) :
    checkField check f o.written.mapping none = .ok had? := by
  unfold checkField
  rw [given?_eq, named_mapping, get?_written_field h, hWritten]
  cases had? with
  | none => rfl
  | some x =>
    show (check [.name f.name] (write x)).map some = .ok (some x)
    rw [hCheck x rfl]
    rfl

/-- What is written down is read as it was. -/
theorem ofEntries_written (h : o.Valid) : ofEntries o.written.mapping = .ok o := by
  refine read_eq_ok_iff.mpr ⟨?_, ?_, ?_, ?_, ?_, ?_, ?_, textKeys_mapping _, ?_⟩
  · exact checkField_written h rfl fun s? _ => checkOptionalText_optionalText _ s?
  · exact checkField_written h rfl fun s? _ => checkOptionalText_optionalText _ s?
  · refine checkField_written h rfl fun e he => checkEntries_mapping _ ?_
    have hParams := h.params
    rw [params, he] at hParams
    exact hParams
  · exact checkField_written h rfl fun _ _ => checkTexts_texts rfl _
  · exact checkField_written h rfl fun _ _ => rfl
  · exact checkField_written h rfl fun _ _ => rfl
  · exact checkField_written h rfl fun _ _ => rfl
  · rw [named_mapping, unmeant_written h]
    exact (Entries.nil_override h.extras).symm

/-- Names may be given anew in options, or in what was written down of them. -/
theorem coerce_written (h : o.Valid) (overrides : Entries Data) :
    coerce (.mapping o.written.mapping) overrides = coerce (.options o) overrides := by
  refine (coerce_options_eq_mapping (ofEntries_written h) ?_ overrides).symm
  rw [named_mapping]
  exact nodup_written h

end Options

end Stencil
