import Stencil.Options.Material

/-!
# Options of a render

Options tell what to render and how. Each field may be given or not; a field that is not given has a
default, but which fields were given matters when options are combined. Names without a meaning are
kept as extras.
-/

namespace Stencil

/-- Names and the values they have, in order, each name once. -/
abbrev Entries (α : Type) := List (List Char × α)

namespace Entries

variable {α : Type}

/-- The value of a name. -/
def get? (name : List Char) (e : Entries α) : Option α := List.lookup name e

/-- Gives a name a value: in its place if it has one already, or else at the end. -/
def put (name : List Char) (value : α) : Entries α → Entries α
  | [] => [(name, value)]
  | (n, v) :: rest => if n = name then (n, value) :: rest else (n, v) :: put name value rest

/-- The names. -/
def names (e : Entries α) : List (List Char) := e.map (·.1)

/-- The entries of the first, with those of the second put over them. -/
def override (lower upper : Entries α) : Entries α := upper.foldl (fun e p => put p.1 p.2 e) lower

theorem get?_cons (n name : List Char) (v : α) (e : Entries α) :
    get? name ((n, v) :: e) = if name = n then some v else get? name e := by
  by_cases h : name = n
  · simp [get?, h]
  · simp [get?, List.lookup_cons, beq_eq_false_iff_ne.2 h, h]

theorem get?_put_self (name : List Char) (value : α) (e : Entries α) :
    (put name value e).get? name = some value := by
  induction e with
  | nil => simp [put, get?_cons]
  | cons p rest ih =>
    obtain ⟨n, v⟩ := p
    unfold put
    split
    case isTrue hn => simp [get?_cons, hn]
    case isFalse hn => rw [get?_cons, if_neg (Ne.symm hn), ih]

theorem get?_put_of_ne {name other : List Char} (h : other ≠ name) (value : α) (e : Entries α) :
    (put name value e).get? other = e.get? other := by
  induction e with
  | nil => simp [put, get?_cons, h]
  | cons p rest ih =>
    obtain ⟨n, v⟩ := p
    unfold put
    split
    case isTrue hn =>
      subst hn
      simp [get?_cons, h]
    case isFalse hn => simp [get?_cons, ih]

end Entries

/-- The options of a render. A field is `none` if it was not given. -/
structure Options (α : Type) where
  /-- The name of a template file. -/
  inputFile? : Option (Option (List Char))
  /-- The text of a template. -/
  inputString? : Option (Option (List Char))
  /-- The parameters that the template sees. -/
  params? : Option (Entries α)
  /-- The directories to look for a template file in. -/
  path? : Option (List (List Char))
  /-- Whether the input is a program already. -/
  raw? : Option Bool
  /-- Whether the answer is the program instead of its output. -/
  preprocessOnly? : Option Bool
  /-- The encoding of template files. -/
  encoding? : Option (List Char)
  /-- What else was given. -/
  extras : Entries α
  deriving Inhabited

namespace Options

variable {α : Type}

/-- No options are given. -/
def empty : Options α := ⟨none, none, none, none, none, none, none, []⟩

/-- The encoding when none is given. -/
def defaultEncoding : List Char := "utf-8".toList

/-- The name of a template file, if there is one. -/
def inputFile (o : Options α) : Option (List Char) := o.inputFile?.join

/-- The text of a template, if there is one. -/
def inputString (o : Options α) : Option (List Char) := o.inputString?.join

/-- The parameters; none unless given. -/
def params (o : Options α) : Entries α := o.params?.getD []

/-- The search path; empty unless given. -/
def path (o : Options α) : List (List Char) := o.path?.getD []

/-- Whether the input is a program; false unless given. -/
def raw (o : Options α) : Bool := o.raw?.getD false

/-- Whether the answer is the program; false unless given. -/
def preprocessOnly (o : Options α) : Bool := o.preprocessOnly?.getD false

/-- The encoding; UTF-8 unless given. -/
def encoding (o : Options α) : List Char := o.encoding?.getD defaultEncoding

end Options

/-- The fields of options that have a meaning, in the order in which they are checked. -/
inductive OptionField where
  | inputFile | inputString | params | path | raw | preprocessOnly | encoding
  deriving DecidableEq, Repr, Inhabited

namespace OptionField

/-- All fields in order. -/
def all : List OptionField :=
  [inputFile, inputString, params, path, raw, preprocessOnly, encoding]

/-- The name under which a field is given. -/
def name : OptionField → List Char
  | inputFile => "input_file".toList
  | inputString => "input_string".toList
  | params => "params".toList
  | path => "path".toList
  | raw => "raw".toList
  | preprocessOnly => "preprocess_only".toList
  | encoding => "encoding".toList

/-- The field of a name, if the name has a meaning. -/
def ofName? (name : List Char) : Option OptionField := all.find? (·.name = name)

/-- Whether a field is given. -/
def isGiven {α : Type} (o : Options α) : OptionField → Bool
  | inputFile => o.inputFile?.isSome
  | inputString => o.inputString?.isSome
  | params => o.params?.isSome
  | path => o.path?.isSome
  | raw => o.raw?.isSome
  | preprocessOnly => o.preprocessOnly?.isSome
  | encoding => o.encoding?.isSome

end OptionField

namespace Options

variable {α : Type}

/-- The names that are given: those of fields, and those of extras. -/
def givenNames (o : Options α) : List (List Char) :=
  (OptionField.all.filter (OptionField.isGiven o)).map OptionField.name ++ o.extras.names

end Options

end Stencil
