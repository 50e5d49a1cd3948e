import Stencil.Options.Basic

/-!
# Members of options

Options have members of their own besides fields and extras: operations, such as a copy, and what
they tell about themselves. The name of a member always stands for the member, also where an extra
has the same name.

- `Member.ofName?`: the member of a name.
- `Member.value`: the member of some options.
-/

namespace Stencil

/-- A member of options that is neither a field nor an extra. -/
inductive Member where
  /-- Something of which only the kind is told, by its name. -/
  | known (name : List Char)
  /-- The extras. -/
  | extras
  /-- How options are checked. -/
  | settings
  /-- What is known of each field. -/
  | fields
  /-- The fields that are computed, of which there are none. -/
  | computedFields
  /-- What options are for. -/
  | purpose
  /-- The module that options belong to. -/
  | module
  deriving DecidableEq, Repr, Inhabited

namespace Member

/-- The names of the operations of options. -/
def operations : List String :=
  ["copy", "dict", "json", "construct", "from_orm", "parse_file", "parse_obj", "parse_raw",
    "schema", "schema_json", "update_forward_refs", "validate", "model_construct", "model_copy",
    "model_dump", "model_dump_json", "model_json_schema", "model_parametrized_name",
    "model_post_init", "model_rebuild", "model_validate", "model_validate_json",
    "model_validate_strings", "_calculate_keys", "_copy_and_set_values", "_get_value", "_iter",
    "__init__", "__eq__", "__repr__", "__str__", "__iter__", "__copy__", "__deepcopy__",
    "__getattr__", "__setattr__", "__delattr__", "__getstate__", "__setstate__",
    "__class_getitem__"]

/-- The kinds of members that are told by their kind alone, with the names of such members. -/
def kinds : List (String × List String) :=
  [("method", operations),
    ("method-wrapper", ["__ne__", "__lt__", "__le__", "__gt__", "__ge__", "__getattribute__"]),
    ("builtin_function_or_method", ["__dir__", "__format__", "__reduce__", "__reduce_ex__",
      "__sizeof__", "__new__", "__init_subclass__", "__subclasshook__"]),
    ("set", ["model_fields_set"]),
    ("ModelMetaclass", ["__class__"]),
    ("FieldInfo", ["field"])]

/-- The kind of a member that is told by its kind alone. -/
def kind (name : List Char) : String :=
  ((kinds.find? fun k => k.2.contains (String.ofList name)).map (·.1)).getD "object"

/-- The member of a name. -/
def ofName? (name : List Char) : Option Member :=
  match String.ofList name with
  | "model_extra" => some extras
  | "model_config" => some settings
  | "model_fields" => some fields
  | "model_computed_fields" => some computedFields
  | "__doc__" => some purpose
  | "__module__" => some module
  | "field" => none
  | s => if kinds.any (·.2.contains s) then some (known name) else none

/-- What options are for. -/
def purposeText : List Char :=
  ("Options for a single render call.\n\n    Unknown keys are kept and stay visible to template "
    ++ "code through\n    `_options`.\n    ").toList

/-- The member of some options. -/
def value {α : Type} [Material α] (o : Options α) : Member → α
  | known name => Material.member name
  | extras => Material.dict (o.extras.map fun e => (Material.text e.1, e.2))
  | settings => Material.dict [(Material.text "extra".toList, Material.text "allow".toList)]
  | fields =>
    Material.dict (OptionField.all.map fun f => (Material.text f.name,
      Material.member "field".toList))
  | computedFields => Material.dict []
  | purpose => Material.text purposeText
  | module => Material.text "plate.config".toList

end Member

end Stencil
