import Stencil.Yaml.Build

/-!
# Data in YAML

The data that a YAML text stands for.

- `load`: the data of a text, or what is wrong with it.
-/

namespace Stencil.Yaml

/-- The data of a node that stands within other nodes, innermost first. No node stands deeper than
there are nodes. -/
def dataWithin (made : Array (Option Made)) : Nat → List NodeId → NodeId → Data
  | 0, _, _ => .null
  | depth + 1, around, n =>
    match around.idxOf? n with
    | some level => .within level
    | none =>
      let inside := dataWithin made depth (n :: around)
      match made[n]?.join with
      | none => .null
      | some (.atom d _) => d
      | some (.list items) => .list (items.map inside)
      | some (.pairs entries) => .list (entries.map fun e => .tuple [inside e.1, inside e.2])
      | some (.dict entries) => .dict (entries.map fun e => (inside e.1, inside e.2))
      | some (.set items) => .set (items.map inside)

/-- The data of a document. -/
def Document.data (d : Document) : Loaded Data := do
  let size := d.nodes.size
  let build : Builder Unit := do
    discard (Builder.make d.root)
    Builder.fillAll (size + 1)
  let (_, s) ← build.run (.start d.nodes)
  return dataWithin s.made (size + 1) [] d.root

/-- The data of a text. A text without a document stands for nothing. -/
def load (s : List Char) : Loaded Data := do
  match ← Document.ofTokens (tokens s) with
  | none => return .null
  | some d => d.data

end Stencil.Yaml
