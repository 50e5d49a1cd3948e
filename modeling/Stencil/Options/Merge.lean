import Stencil.Options.Member

/-!
# Options over defaults

The options of a caller are combined with defaults. Parameters are combined by name. The caller's
search path comes before that of the defaults, and the current directory before both. The source of
a template, be it a file or a text, is taken from the defaults only if the caller gave neither. Of
anything else the caller's value counts if there is one.

A default extra whose name is that of a member of options stands for that member.

- `Options.merge`: the combination.
- `Options.get?_params_merge`: a parameter is the caller's, or else that of the defaults.
-/

namespace Stencil

/-- The directory in which every search starts. -/
def currentDirectory : List Char := ['.']

namespace Options

variable {α : Type} [Material α]

/-- An extra of defaults as it is handed on. -/
def handedOn (d : Options α) (e : List Char × α) : List Char × α :=
  match Member.ofName? e.1 with
  | some m => (e.1, m.value d)
  | none => e

/-- Whether a caller told what to render. -/
def hasSource (o : Options α) : Bool := o.inputFile?.isSome || o.inputString?.isSome

/-- Options with defaults for what they do not give. Every field of the result is given. -/
def merge (o d : Options α) : Options α where
  inputFile? := some (if o.hasSource then o.inputFile else d.inputFile)
  inputString? := some (if o.hasSource then o.inputString else d.inputString)
  params? := some (d.params.override o.params)
  path? := some (currentDirectory :: o.path ++ d.path)
  raw? := some (o.raw?.getD d.raw)
  preprocessOnly? := some (o.preprocessOnly?.getD d.preprocessOnly)
  encoding? := some (o.encoding?.getD d.encoding)
  extras := o.extras ++
    (d.extras.filter fun e => !o.extras.names.contains e.1).map d.handedOn

end Options

namespace Entries

variable {α : Type}

theorem get?_override_of_notMem {name : List Char} {upper : Entries α} (lower : Entries α)
    (h : name ∉ upper.names) : (lower.override upper).get? name = lower.get? name := by
  induction upper generalizing lower with
  | nil => rfl
  | cons p rest ih =>
    simp only [names, List.map_cons, List.mem_cons, not_or] at h
    exact (ih (put p.1 p.2 lower) h.2).trans (get?_put_of_ne h.1 p.2 lower)

/-- The value of a name in two sets of entries, one over the other. Where the upper one has a name
once, its value counts. -/
theorem get?_override {upper : Entries α} (lower : Entries α) (h : upper.names.Nodup)
    (name : List Char) :
    (lower.override upper).get? name = (upper.get? name).or (lower.get? name) := by
  induction upper generalizing lower with
  | nil => simp [override, get?]
  | cons p rest ih =>
    obtain ⟨n, v⟩ := p
    simp only [names, List.map_cons, List.nodup_cons] at h
    have hrest : (lower.override ((n, v) :: rest)) = (put n v lower).override rest := rfl
    rw [hrest, get?_cons]
    by_cases hn : name = n
    · subst hn
      rw [get?_override_of_notMem _ h.1, get?_put_self]
      simp
    · rw [ih _ h.2, get?_put_of_ne hn]
      simp [hn]

end Entries

namespace Options

variable {α : Type} [Material α]

/-- A parameter is the caller's, or else that of the defaults. -/
theorem get?_params_merge (o d : Options α) (h : o.params.names.Nodup) (name : List Char) :
    (o.merge d).params.get? name = (o.params.get? name).or (d.params.get? name) :=
  Entries.get?_override d.params h name

end Options

end Stencil
