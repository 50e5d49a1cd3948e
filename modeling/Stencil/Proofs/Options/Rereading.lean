import Stencil.Options.Coerce
import Stencil.Proofs.Options.Overriding

/-!
# Options that are read again

A mapping is read by the names that its keys stand for. Names may be given anew in the mapping before
it is read, or in the options that a reading of it has left: the outcome is the same. A caller may
therefore give options in the place of the mapping that they came from.

* `named_putAllNamed`: a mapping in which names have new values.
* `Options.Reads`: what a reading finds, field by field.
* `read_putAllNamed`, `coerce_options_eq_mapping`: readings one after the other.
* `Options.Valid`, `valid_of_coerce`: what every reading leaves.
-/

namespace Stencil

theorem gather_ok {β : Type} (l : List β) : gather (l.map .ok) = .ok l := by
  induction l with
  | nil => rfl
  | cons b l ih => simp only [List.map_cons, gather, ih]

theorem gather_eq_ok {β : Type} {cs : List (Checked β)} {bs : List β} (h : gather cs = .ok bs) :
    cs = bs.map .ok := by
  induction cs generalizing bs with
  | nil =>
    cases h
    rfl
  | cons c cs ih =>
    unfold gather at h
    split at h
    case h_1 b bs' hRest =>
      cases h
      rw [ih hRest, List.map_cons]
    all_goals cases h

namespace Entries

variable {α : Type}

/-- The entries whose names are not those of fields. -/
def unmeant (e : Entries α) : Entries α := e.filter fun p => (OptionField.ofName? p.1).isNone

theorem names_unmeant (e : Entries α) :
    e.unmeant.names = e.names.filter fun name => (OptionField.ofName? name).isNone :=
  names_filter (fun name => (OptionField.ofName? name).isNone) e

theorem unmeant_override (lower upper : Entries α) :
    (lower.override upper).unmeant = lower.unmeant.override upper.unmeant :=
  filter_override (fun name => (OptionField.ofName? name).isNone) lower upper

theorem unmeant_append (e e' : Entries α) : unmeant (e ++ e') = e.unmeant ++ e'.unmeant :=
  List.filter_append ..

theorem nodup_unmeant {e : Entries α} (h : e.names.Nodup) : e.unmeant.names.Nodup := by
  rw [names_unmeant]
  exact h.sublist List.filter_sublist

theorem ofName?_of_mem_unmeant {e : Entries α} {name : List Char} (h : name ∈ e.unmeant.names) :
    OptionField.ofName? name = none := by
  rw [names_unmeant] at h
  exact Option.isNone_iff_eq_none.mp (List.mem_filter.mp h).2

end Entries

/-- A material in which a text looks like one. -/
class LawfulMaterial (α : Type) [Material α] : Prop where
  shape_text : ∀ s : List Char, shape (Material.text s : α) = .text s

section

variable {α : Type} [Material α]

/-! ## Names of a mapping -/

/-- A text. -/
def text? (v : α) : Option (List Char) :=
  match shape v with
  | .text s => some s
  | _ => none

/-- The entries of a mapping whose keys are texts. -/
def named (entries : List (α × α)) : Entries α :=
  entries.filterMap fun e => (text? e.1).map fun name => (name, e.2)

/-- Whether all keys of a mapping are texts. -/
def TextKeys (entries : List (α × α)) : Prop := ∀ e ∈ entries, ∃ name, text? e.1 = some name

theorem named_cons_of_some {e : α × α} {name : List Char} (h : text? e.1 = some name)
    (entries : List (α × α)) : named (e :: entries) = (name, e.2) :: named entries := by
  rw [named, List.filterMap_cons, h]
  rfl

theorem named_cons_of_none {e : α × α} (h : text? e.1 = none) (entries : List (α × α)) :
    named (e :: entries) = named entries := by
  rw [named, List.filterMap_cons, h]
  rfl

theorem isText_iff {name : List Char} {v : α} : isText name v ↔ text? v = some name := by
  unfold isText text?
  cases shape v with
  | text t => simp
  | _ => simp

theorem given?_cons (f : OptionField) (e : α × α) (entries : List (α × α)) :
    given? f (e :: entries) = if text? e.1 = some f.name then some e.2 else given? f entries := by
  rw [given?, List.findSome?_cons, ← given?]
  unfold text?
  cases shape e.1 with
  | text s => by_cases h : s = f.name <;> simp [h]
  | _ => rfl

/-- A field has the first value that is given under its name. -/
theorem given?_eq (f : OptionField) (entries : List (α × α)) :
    given? f entries = (named entries).get? f.name := by
  induction entries with
  | nil => rfl
  | cons e entries ih =>
    rw [given?_cons]
    cases hText : text? e.1 with
    | none => rw [if_neg nofun, named_cons_of_none hText, ih]
    | some name =>
      rw [named_cons_of_some hText, Entries.get?_cons, ih]
      simp only [Option.some.injEq, eq_comm]

/-- Checks that a key is a text. -/
def checkKey (e : α × α) : Checked (Entries α) :=
  match text? e.1 with
  | some name => .ok [(name, e.2)]
  | none => refuse [Place.ofKey e.1] .noName

theorem checkExtras_eq (entries : List (α × α)) :
    checkExtras entries = (gather (entries.map checkKey)).map fun named =>
      named.flatten.filter fun e => (OptionField.ofName? e.1).isNone := by
  unfold checkExtras
  congr 3
  funext e
  unfold checkKey text?
  cases shape e.1 with
  | _ => rfl

theorem flatten_keys {entries : List (α × α)} {keys : List (Entries α)}
    (h : entries.map checkKey = keys.map .ok) :
    TextKeys entries ∧ keys.flatten = named entries := by
  induction entries generalizing keys with
  | nil =>
    cases keys with
    | nil => exact ⟨fun _ he => (List.not_mem_nil he).elim, rfl⟩
    | cons key keys => cases h
  | cons e entries ih =>
    cases keys with
    | nil => cases h
    | cons key keys =>
      obtain ⟨hKey, hRest⟩ := List.cons.inj h
      obtain ⟨hKeys, hFlatten⟩ := ih hRest
      unfold checkKey at hKey
      split at hKey
      case h_1 name hName =>
        cases hKey
        refine ⟨fun d hd => ?_, ?_⟩
        · rcases List.mem_cons.mp hd with rfl | hd
          · exact ⟨name, hName⟩
          · exact hKeys d hd
        · rw [named_cons_of_some hName, ← hFlatten]
          rfl
      case h_2 => cases hKey

/-- Extras are the names that are not those of fields; all keys have to be texts. -/
theorem checkExtras_eq_ok_iff {entries : List (α × α)} {extras : Entries α} :
    checkExtras entries = .ok extras ↔ TextKeys entries ∧ extras = (named entries).unmeant := by
  rw [checkExtras_eq]
  constructor
  · intro h
    cases hKeys : gather (entries.map checkKey) with
    | error issues =>
      rw [hKeys] at h
      cases h
    | ok keys =>
      rw [hKeys] at h
      obtain ⟨hText, hFlatten⟩ := flatten_keys (gather_eq_ok hKeys)
      exact ⟨hText, hFlatten ▸ (Except.ok.inj h).symm⟩
  · rintro ⟨hText, rfl⟩
    have hKeys : entries.map checkKey =
        (entries.map fun e => [((text? e.1).getD [], e.2)]).map .ok := by
      rw [List.map_map]
      refine List.map_congr_left fun e he => ?_
      obtain ⟨name, hName⟩ := hText e he
      simp [checkKey, hName]
    rw [hKeys, gather_ok]
    exact congrArg (fun e : Entries α => Except.ok e.unmeant) (flatten_keys hKeys).2

/-! ## Names with new values -/

theorem textKeys_cons {e : α × α} {entries : List (α × α)} :
    TextKeys (e :: entries) ↔ (∃ name, text? e.1 = some name) ∧ TextKeys entries :=
  List.forall_mem_cons

variable [LawfulMaterial α]

theorem text?_text (s : List Char) : text? (Material.text s : α) = some s := by
  rw [text?, LawfulMaterial.shape_text]

theorem checkText_text (place : List Place) (s : List Char) :
    checkText place (Material.text s : α) = .ok s := by
  rw [checkText, LawfulMaterial.shape_text]

/-- A list of texts has nothing wrong with it. -/
theorem checkTexts_texts {v : α} {texts : List (List Char)}
    (h : shape v = .list (texts.map Material.text)) (place : List Place) :
    checkTexts place v = .ok texts := by
  have hChecks : (texts.map Material.text).mapIdx (fun i (item : α) =>
      checkText (place ++ [.index i]) item) = texts.map .ok := by
    refine List.ext_getElem? fun i => ?_
    simp only [List.getElem?_mapIdx, List.getElem?_map, Option.map_map, Function.comp_def,
      checkText_text]
  unfold checkTexts
  rw [h]
  exact (congrArg gather hChecks).trans (gather_ok texts)

theorem named_putNamed (name : List Char) (v : α) (entries : List (α × α)) :
    named (putNamed name v entries) = Entries.put name v (named entries) := by
  induction entries with
  | nil => exact named_cons_of_some (text?_text name) []
  | cons e entries ih =>
    unfold putNamed
    by_cases hText : isText name e.1
    · have hKey : text? e.1 = some name := isText_iff.mp hText
      have hNew : named ((e.1, v) :: entries) = (name, v) :: named entries :=
        named_cons_of_some (show text? (e.1, v).1 = some name from hKey) entries
      rw [if_pos hText, hNew, named_cons_of_some hKey, Entries.put, if_pos rfl]
    · rw [if_neg hText]
      rw [isText_iff] at hText
      cases hKey : text? e.1 with
      | none => rw [named_cons_of_none hKey, named_cons_of_none hKey, ih]
      | some n =>
        have hNe : n ≠ name := fun hEq => hText (hEq ▸ hKey)
        rw [named_cons_of_some hKey, named_cons_of_some hKey, Entries.put, if_neg hNe, ih]

theorem textKeys_putNamed {entries : List (α × α)} (h : TextKeys entries) (name : List Char)
    (v : α) : TextKeys (putNamed name v entries) := by
  induction entries with
  | nil => exact textKeys_cons.mpr ⟨⟨name, text?_text name⟩, h⟩
  | cons e entries ih =>
    obtain ⟨hKey, hRest⟩ := textKeys_cons.mp h
    unfold putNamed
    split
    case isTrue => exact textKeys_cons.mpr ⟨hKey, hRest⟩
    case isFalse => exact textKeys_cons.mpr ⟨hKey, ih hRest⟩

/-- A mapping in which names have new values has them in place of the old ones. -/
theorem named_putAllNamed (overrides : Entries α) (entries : List (α × α)) :
    named (putAllNamed overrides entries) = (named entries).override overrides := by
  induction overrides generalizing entries with
  | nil => rfl
  | cons p overrides ih =>
    have hStep : putAllNamed (p :: overrides) entries =
        putAllNamed overrides (putNamed p.1 p.2 entries) := rfl
    rw [hStep, ih, named_putNamed]
    rfl

theorem textKeys_putAllNamed {entries : List (α × α)} (h : TextKeys entries)
    (overrides : Entries α) : TextKeys (putAllNamed overrides entries) := by
  induction overrides generalizing entries with
  | nil => exact h
  | cons p overrides ih => exact ih (textKeys_putNamed h p.1 p.2)

/-- A field that is given among the new values has the new one. -/
theorem given?_putAllNamed (f : OptionField) (overrides : Entries α) (entries : List (α × α)) :
    given? f (putAllNamed overrides entries) =
      (given? f (putAllNamed overrides [])).or (given? f entries) := by
  simp only [given?_eq, named_putAllNamed]
  have hNodup : (Entries.override [] overrides).names.Nodup :=
    Entries.nodup_override Entries.nodup_nil overrides
  have hGroup : (named entries).override (Entries.override [] overrides) =
      (named entries).override overrides := Entries.override_assoc Entries.nodup_nil ..
  rw [← hGroup, Entries.get?_override _ hNodup]
  rfl

end

/-! ## Valid options -/

namespace Options

variable {α : Type}

/-- What every reading leaves: each name stands once, and the names of fields stand for fields. -/
structure Valid (o : Options α) : Prop where
  params : o.params.names.Nodup
  extras : o.extras.names.Nodup
  unmeant : ∀ name ∈ o.extras.names, OptionField.ofName? name = none

theorem valid_empty : (empty : Options α).Valid :=
  ⟨Entries.nodup_nil, Entries.nodup_nil, fun _ h => (List.not_mem_nil h).elim⟩

end Options

/-! ## Readings -/

section

variable {α : Type} [Material α]

namespace Options

/-- What a reading finds, field by field. -/
structure Reads (base : Options α) (entries : List (α × α)) (o : Options α) : Prop where
  inputFile : checkField checkOptionalText .inputFile entries base.inputFile? = .ok o.inputFile?
  inputString :
    checkField checkOptionalText .inputString entries base.inputString? = .ok o.inputString?
  params : checkField checkEntries .params entries base.params? = .ok o.params?
  path : checkField checkTexts .path entries base.path? = .ok o.path?
  raw : checkField checkBool .raw entries base.raw? = .ok o.raw?
  preprocessOnly :
    checkField checkBool .preprocessOnly entries base.preprocessOnly? = .ok o.preprocessOnly?
  encoding : checkField checkText .encoding entries base.encoding? = .ok o.encoding?
  keys : TextKeys entries
  extras : o.extras = base.extras.override (named entries).unmeant

theorem read_eq_ok_iff {base : Options α} {entries : List (α × α)} {o : Options α} :
    read base entries = .ok o ↔ Reads base entries o := by
  constructor
  · intro h
    dsimp only [read] at h
    split at h
    case h_1 inputFile inputString params path raw preprocessOnly encoding extras =>
      obtain ⟨hKeys, hExtras⟩ := checkExtras_eq_ok_iff.mp extras
      cases h
      exact ⟨inputFile, inputString, params, path, raw, preprocessOnly, encoding, hKeys,
        congrArg _ hExtras⟩
    case h_2 => cases h
  · rintro ⟨inputFile, inputString, params, path, raw, preprocessOnly, encoding, hKeys, hExtras⟩
    unfold read
    rw [inputFile, inputString, params, path, raw, preprocessOnly, encoding,
      checkExtras_eq_ok_iff.mpr ⟨hKeys, rfl⟩]
    simp only [← hExtras]

/-- Readings that find the same are the same. -/
theorem read_congr {base base' : Options α} {entries entries' : List (α × α)}
    (inputFile : checkField checkOptionalText .inputFile entries base.inputFile? =
      checkField checkOptionalText .inputFile entries' base'.inputFile?)
    (inputString : checkField checkOptionalText .inputString entries base.inputString? =
      checkField checkOptionalText .inputString entries' base'.inputString?)
    (params : checkField checkEntries .params entries base.params? =
      checkField checkEntries .params entries' base'.params?)
    (path : checkField checkTexts .path entries base.path? =
      checkField checkTexts .path entries' base'.path?)
    (raw : checkField checkBool .raw entries base.raw? =
      checkField checkBool .raw entries' base'.raw?)
    (preprocessOnly : checkField checkBool .preprocessOnly entries base.preprocessOnly? =
      checkField checkBool .preprocessOnly entries' base'.preprocessOnly?)
    (encoding : checkField checkText .encoding entries base.encoding? =
      checkField checkText .encoding entries' base'.encoding?)
    (keys : TextKeys entries) (keys' : TextKeys entries')
    (extras : base.extras.override (named entries).unmeant =
      base'.extras.override (named entries').unmeant) :
    read base entries = read base' entries' := by
  unfold read
  rw [inputFile, inputString, params, path, raw, preprocessOnly, encoding,
    checkExtras_eq_ok_iff.mpr ⟨keys, rfl⟩, checkExtras_eq_ok_iff.mpr ⟨keys', rfl⟩]
  -- Something wrong with a field is told on both sides, whatever the extras are.
  rcases checkField checkOptionalText .inputFile entries' base'.inputFile? with _ | inputFile
  · rfl
  rcases checkField checkOptionalText .inputString entries' base'.inputString? with _ | inputString
  · rfl
  rcases checkField checkEntries .params entries' base'.params? with _ | params
  · rfl
  rcases checkField checkTexts .path entries' base'.path? with _ | path
  · rfl
  rcases checkField checkBool .raw entries' base'.raw? with _ | raw
  · rfl
  rcases checkField checkBool .preprocessOnly entries' base'.preprocessOnly? with _ | preprocessOnly
  · rfl
  rcases checkField checkText .encoding entries' base'.encoding? with _ | encoding
  · rfl
  simp only [extras]

/-! ## Readings one after the other -/

section

variable [LawfulMaterial α] {base o : Options α} {entries : List (α × α)}

theorem checkField_putAllNamed {β : Type} {check : List Place → α → Checked β} {f : OptionField}
    {had had' : Option β} (h : checkField check f entries had = .ok had') (overrides : Entries α) :
    checkField check f (putAllNamed overrides []) had' =
      checkField check f (putAllNamed overrides entries) had := by
  unfold checkField
  rw [given?_putAllNamed f overrides entries]
  cases given? f (putAllNamed overrides []) with
  | some v => rfl
  | none => exact h.symm

/-- Names may be given anew in what a reading has left, or in the mapping before it is read. -/
theorem read_putAllNamed (h : read base entries = .ok o) (hNames : (named entries).names.Nodup)
    (overrides : Entries α) :
    read o (putAllNamed overrides []) = read base (putAllNamed overrides entries) := by
  obtain ⟨inputFile, inputString, params, path, raw, preprocessOnly, encoding, hKeys, hExtras⟩ :=
    read_eq_ok_iff.mp h
  have hAfter : o.extras.override (named (putAllNamed overrides [])).unmeant =
      o.extras.override overrides.unmeant := by
    calc o.extras.override (named (putAllNamed overrides [])).unmeant
      _ = o.extras.override (Entries.override [] overrides.unmeant) := by
          rw [named_putAllNamed, Entries.unmeant_override]
          rfl
      _ = o.extras.override overrides.unmeant := Entries.override_assoc Entries.nodup_nil ..
  have hBefore : base.extras.override (named (putAllNamed overrides entries)).unmeant =
      o.extras.override overrides.unmeant := by
    calc base.extras.override (named (putAllNamed overrides entries)).unmeant
      _ = base.extras.override ((named entries).unmeant.override overrides.unmeant) := by
          rw [named_putAllNamed, Entries.unmeant_override]
      _ = o.extras.override overrides.unmeant := by
          rw [Entries.override_assoc (Entries.nodup_unmeant hNames), hExtras]
  exact read_congr (checkField_putAllNamed inputFile overrides)
    (checkField_putAllNamed inputString overrides) (checkField_putAllNamed params overrides)
    (checkField_putAllNamed path overrides) (checkField_putAllNamed raw overrides)
    (checkField_putAllNamed preprocessOnly overrides) (checkField_putAllNamed encoding overrides)
    (textKeys_putAllNamed (fun _ he => (List.not_mem_nil he).elim) overrides)
    (textKeys_putAllNamed hKeys overrides) (hAfter.trans hBefore.symm)

/-- A caller may give options or the mapping that they came from, whatever is given anew: the
options that are meant are the same, and so is what is wrong with them. -/
theorem coerce_options_eq_mapping (h : ofEntries entries = .ok o)
    (hNames : (named entries).names.Nodup) (overrides : Entries α) :
    coerce (.options o) overrides = coerce (.mapping entries) overrides :=
  read_putAllNamed h hNames overrides

end

/-! ## What readings leave -/

theorem nodup_of_checkEntries {place : List Place} {v : α} {e : Entries α}
    (h : checkEntries place v = .ok e) : e.names.Nodup := by
  unfold checkEntries at h
  split at h
  case h_1 entries _ =>
    cases hNamed : gather (entries.map fun e =>
        (checkText (place ++ [Place.ofKey e.1, .name "[key]".toList]) e.1).map fun key =>
          (key, e.2)) with
    | error issues =>
      rw [hNamed] at h
      cases h
    | ok named =>
      rw [hNamed] at h
      cases h
      exact Entries.nodup_override Entries.nodup_nil named
  case h_2 => cases h

theorem Reads.valid {base o : Options α} {entries : List (α × α)} (h : Reads base entries o)
    (hBase : base.Valid) : o.Valid where
  params := by
    have hParams := h.params
    unfold checkField at hParams
    split at hParams
    case h_1 v _ =>
      cases hEntries : checkEntries [.name OptionField.params.name] v with
      | error issues =>
        rw [hEntries] at hParams
        cases hParams
      | ok e =>
        rw [hEntries] at hParams
        rw [Options.params, ← Except.ok.inj hParams]
        exact nodup_of_checkEntries hEntries
    case h_2 =>
      rw [Options.params, ← Except.ok.inj hParams]
      exact hBase.params
  extras := by
    rw [h.extras]
    exact Entries.nodup_override hBase.extras _
  unmeant name hName := by
    rw [h.extras, Entries.mem_names_override] at hName
    rcases hName with hName | hName
    · exact hBase.unmeant name hName
    · exact Entries.ofName?_of_mem_unmeant hName

/-- Options that a caller gives are valid if the options they are made of are. -/
theorem valid_of_coerce {given : Given α} {overrides : Entries α} {o : Options α}
    (h : coerce given overrides = .ok o) (hGiven : ∀ base, given = .options base → base.Valid) :
    o.Valid := by
  cases given with
  | nothing => exact (read_eq_ok_iff.mp h).valid valid_empty
  | mapping entries => exact (read_eq_ok_iff.mp h).valid valid_empty
  | options base => exact (read_eq_ok_iff.mp h).valid (hGiven base rfl)

end Options

end

end Stencil
