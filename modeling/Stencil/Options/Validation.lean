import Stencil.Decimal.Format
import Stencil.Options.Basic
import Stencil.Text.Decoding
import Stencil.Text.Quoted

/-!
# Reading options

Options are given as names and values. A value has to fit the field of its name; a text may be given
as bytes, and a truth value as a number or as one of some words. All values that do not fit are
reported together, in the order of the fields, each with the place where it stands.

A reading starts from options that are known to be good, so that options can be changed by names and
values.

- `Options.read`: the options that names and values make out of given ones, or what is wrong.
-/

namespace Stencil

/-- A step on the way to a value. -/
inductive Place where
  /-- A name. -/
  | name (s : List Char)
  /-- A position in a list, or a key that is a number. -/
  | index (n : Int)
  deriving DecidableEq, Repr, Inhabited

/-- What is wrong with a value. -/
inductive Complaint where
  | noText | noList | noDict
  /-- Bytes that make no text. -/
  | unclearText
  /-- A value that is no truth value. -/
  | noBool
  /-- A number or a text that stands for no truth value. -/
  | unclearBool
  /-- A name that is no text. -/
  | noName
  deriving DecidableEq, Repr, Inhabited

/-- The short name of a complaint. -/
def Complaint.code : Complaint → String
  | noText => "string_type"
  | unclearText => "string_unicode"
  | noList => "list_type"
  | noDict => "dict_type"
  | noBool => "bool_type"
  | unclearBool => "bool_parsing"
  | noName => "invalid_key"

/-- The words of a complaint. -/
def Complaint.message : Complaint → String
  | noText => "Input should be a valid string"
  | unclearText =>
    "Input should be a valid string, unable to parse raw data as a unicode string"
  | noList => "Input should be a valid list"
  | noDict => "Input should be a valid dictionary"
  | noBool => "Input should be a valid boolean"
  | unclearBool => "Input should be a valid boolean, unable to interpret input"
  | noName => "Keys should be strings"

/-- A complaint and its place. -/
structure Issue where
  /-- The way to the value. -/
  place : List Place
  /-- What is wrong with it. -/
  complaint : Complaint
  deriving DecidableEq, Repr, Inhabited

/-- A value that fits, or what is wrong with it. -/
abbrev Checked (β : Type) := Except (List Issue) β

/-- Words for true, in small letters. -/
def trueWords : List String := ["1", "on", "t", "true", "y", "yes"]

/-- Words for false, in small letters. -/
def falseWords : List String := ["0", "off", "f", "false", "n", "no"]

/-- The truth value that a word stands for. -/
def boolOfWord? (s : List Char) : Option Bool :=
  let small := String.ofList (s.map Char.toLower)
  if trueWords.contains small then some true
  else if falseWords.contains small then some false
  else none

section

variable {α : Type} [Material α]

/-- A field with a single thing wrong with it. -/
def refuse {β : Type} (place : List Place) (c : Complaint) : Checked β := .error [⟨place, c⟩]

/-- Numbers that are this far from zero are no truth values, and do not even look like some. -/
def wordLimit : Int := 0x8000000000000000

/-- Whether a float is a whole number that is not too far from zero. -/
def looksWhole (x : Float) : Bool :=
  x.floor == x && x.abs < Decimal.floatOfInt wordLimit

/-- Checks something that may stand for a truth value. -/
def checkClear (place : List Place) : Option Bool → Checked Bool
  | some b => .ok b
  | none => refuse place .unclearBool

/-- Checks a truth value. -/
def checkBool (place : List Place) (v : α) : Checked Bool :=
  match shape v with
  | .bool b => .ok b
  | .int n =>
    if n = 0 then .ok false
    else if n = 1 then .ok true
    else refuse place (if -wordLimit ≤ n ∧ n < wordLimit then .unclearBool else .noBool)
  | .float x =>
    if x == 0 then .ok false
    else if x == 1 then .ok true
    else refuse place (if looksWhole x then .unclearBool else .noBool)
  | .text s => checkClear place (boolOfWord? s)
  | .bytes b => checkClear place ((Text.decodeUtf8 b).toOption.bind boolOfWord?)
  | _ => refuse place .noBool

/-- Checks a text. -/
def checkText (place : List Place) (v : α) : Checked (List Char) :=
  match shape v with
  | .text s => .ok s
  | .bytes b =>
    match Text.decodeUtf8 b with
    | .ok s => .ok s
    | .error _ => refuse place .unclearText
  | _ => refuse place .noText

/-- Checks a text that may be missing. -/
def checkOptionalText (place : List Place) (v : α) : Checked (Option (List Char)) :=
  match shape v with
  | .none => .ok none
  | _ => (checkText place v).map some

/-- The results of some checks, or all that is wrong with them. -/
def gather {β : Type} : List (Checked β) → Checked (List β)
  | [] => .ok []
  | c :: cs =>
    match c, gather cs with
    | .ok b, .ok bs => .ok (b :: bs)
    | .ok _, .error issues => .error issues
    | .error issues, .ok _ => .error issues
    | .error issues, .error more => .error (issues ++ more)

/-- Checks a list of texts. -/
def checkTexts (place : List Place) (v : α) : Checked (List (List Char)) :=
  match shape v with
  | .list items | .series items =>
    gather (items.mapIdx fun i item => checkText (place ++ [.index i]) item)
  | _ => refuse place .noList

/-- A key on the way to a value. -/
def Place.ofKey (key : α) : Place :=
  match shape key with
  | .text s => .name s
  | .int n => if -wordLimit ≤ n ∧ n < wordLimit then .index n else .name (toString n).toList
  | .bool b => .index (if b then 1 else 0)
  | .none => .name "None".toList
  | .float x => .name (Decimal.floatText x)
  | .bytes b => .name (Text.quotedBytes b)
  | .other shown => .name shown
  | _ => .name []

/-- Checks a mapping with texts for keys. -/
def checkEntries (place : List Place) (v : α) : Checked (Entries α) :=
  match shape v with
  | .dict entries =>
    (gather (entries.map fun e =>
      (checkText (place ++ [Place.ofKey e.1, .name "[key]".toList]) e.1).map fun key =>
        (key, e.2))).map fun named => Entries.override [] named
  | _ => refuse place .noDict

/-- The value given for a field, if there is one. -/
def given? (f : OptionField) (entries : List (α × α)) : Option α :=
  entries.findSome? fun e =>
    match shape e.1 with
    | .text s => if s = f.name then some e.2 else none
    | _ => none

/-- Checks the value of a field, if it is given, and keeps what the field had if it is not. -/
def checkField {β : Type} (check : List Place → α → Checked β) (f : OptionField)
    (entries : List (α × α)) (had : Option β) : Checked (Option β) :=
  match given? f entries with
  | some v => (check [.name f.name] v).map some
  | none => .ok had

/-- Checks the names that are not those of fields. -/
def checkExtras (entries : List (α × α)) : Checked (List (List Char × α)) :=
  (gather (entries.map fun e =>
    match shape e.1 with
    | .text s => .ok [(s, e.2)]
    | _ => refuse [Place.ofKey e.1] .noName)).map fun named =>
      named.flatten.filter fun e => (OptionField.ofName? e.1).isNone

/-- The complaints of a check. -/
def issuesOf {β : Type} : Checked β → List Issue
  | .ok _ => []
  | .error issues => issues

namespace Options

/-- The options that names and values make out of options that are known to be good. Of values with
one name the first counts. -/
def read (base : Options α) (entries : List (α × α)) : Checked (Options α) :=
  let inputFile := checkField checkOptionalText .inputFile entries base.inputFile?
  let inputString := checkField checkOptionalText .inputString entries base.inputString?
  let params := checkField checkEntries .params entries base.params?
  let path := checkField checkTexts .path entries base.path?
  let raw := checkField checkBool .raw entries base.raw?
  let preprocessOnly := checkField checkBool .preprocessOnly entries base.preprocessOnly?
  let encoding := checkField checkText .encoding entries base.encoding?
  let extras := checkExtras entries
  match inputFile, inputString, params, path, raw, preprocessOnly, encoding, extras with
  | .ok inputFile, .ok inputString, .ok params, .ok path, .ok raw, .ok preprocessOnly, .ok encoding,
      .ok extras =>
    .ok ⟨inputFile, inputString, params, path, raw, preprocessOnly, encoding,
      base.extras.override extras⟩
  | inputFile, inputString, params, path, raw, preprocessOnly, encoding, extras =>
    .error (issuesOf inputFile ++ issuesOf inputString ++ issuesOf params ++ issuesOf path
      ++ issuesOf raw ++ issuesOf preprocessOnly ++ issuesOf encoding ++ issuesOf extras)

/-- The options that names and values make. -/
def ofEntries (entries : List (α × α)) : Checked (Options α) := read empty entries

end Options

end

end Stencil
