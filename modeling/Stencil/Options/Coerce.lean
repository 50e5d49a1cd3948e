import Stencil.Options.Validation

/-!
# What a caller gives as options

A caller gives options as options that were read before, or as a mapping of names and values, or not
at all, and may give single names anew. The names that are given anew count in any case.

- `Options.coerce`: the options that a caller means, or what is wrong with them.
-/

namespace Stencil

/-- What a caller gives as options. -/
inductive Given (α : Type) where
  /-- Nothing. -/
  | nothing
  /-- Names and values. -/
  | mapping (entries : List (α × α))
  /-- Options that were read before. -/
  | options (o : Options α)

section

variable {α : Type} [Material α]

/-- Whether a value is some text. -/
def isText (s : List Char) (v : α) : Bool :=
  match shape v with
  | .text t => t = s
  | _ => false

/-- Gives a name a value in a mapping: in its place if the mapping has it, or else at the end. -/
def putNamed (name : List Char) (value : α) : List (α × α) → List (α × α)
  | [] => [(Material.text name, value)]
  | e :: rest =>
    if isText name e.1 then (e.1, value) :: rest else e :: putNamed name value rest

/-- Gives names values in a mapping, one after the other. -/
def putAllNamed (overrides : Entries α) (entries : List (α × α)) : List (α × α) :=
  overrides.foldl (fun entries e => putNamed e.1 e.2 entries) entries

namespace Options

/-- The options that a caller means who gives some names anew. -/
def coerce (given : Given α) (overrides : Entries α) : Checked (Options α) :=
  match given with
  | .nothing => ofEntries (putAllNamed overrides [])
  | .mapping entries => ofEntries (putAllNamed overrides entries)
  | .options o => read o (putAllNamed overrides [])

end Options

end

end Stencil
