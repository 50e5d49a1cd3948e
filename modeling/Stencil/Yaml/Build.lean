import Stencil.Decimal.Remainder
import Stencil.Yaml.Scalar

/-!
# What nodes stand for

Each node of a document stands for one thing, wherever it is. Scalars are made at once; collections
are first made empty and filled afterwards, in the order in which they were met. So a collection can
be in itself, and of what is wrong with a document the part that is closest to the root counts.

A mapping may take over the entries of others, which then come before its own. It has a key once: of
entries with equal keys the last one's value counts, in the place of the first.

- `make`: what a node stands for.
- `takeOver`: gives a mapping the entries that it takes over.
- `fillAll`: fills all collections that were met.
-/

namespace Stencil.Yaml

/-- What a node stands for. Collections refer to nodes for what is in them. -/
inductive Made where
  /-- Something without parts, and whether it is the float that is not a number and has a word of
  its own. -/
  | atom (d : Data) (isNan : Bool)
  /-- A list. -/
  | list (items : List NodeId)
  /-- A list of entries. -/
  | pairs (entries : List (NodeId × NodeId))
  /-- A mapping. -/
  | dict (entries : List (NodeId × NodeId))
  /-- A set. -/
  | set (items : List NodeId)
  deriving Inhabited

/-- What is made of a document. -/
structure BuildState where
  /-- The nodes, as far as they have taken over the entries of others. -/
  nodes : Nodes
  /-- What each node stands for, if it was met. -/
  made : Array (Option Made)
  /-- The collections that are not filled yet, last met first. -/
  waiting : List NodeId
  deriving Inhabited

/-- The state before anything is made. -/
def BuildState.start (nodes : Nodes) : BuildState := ⟨nodes, .replicate nodes.size none, []⟩

/-- A part of the making of a document. -/
abbrev Builder := StateT BuildState Loaded

namespace Builder

/-- Gives up: the document has no data. -/
def refuse {α : Type} : Builder α := throw LoadFault.malformed

/-- A node. -/
def node (n : NodeId) : Builder Node := return ((← get).nodes[n]?).getD default

/-- What a node is. -/
def tagOf (n : NodeId) : Builder Tag := return (← node n).tag

/-- Tells what a node stands for. -/
def tell (n : NodeId) (m : Made) : Builder Unit :=
  modify fun s => { s with made := s.made.setIfInBounds n (some m) }

/-- Meets a collection, which is empty for now. -/
def meet (n : NodeId) (empty : Made) : Builder Made := do
  tell n empty
  modify fun s => { s with waiting := n :: s.waiting }
  return empty

/-! ## Scalars -/

/-- The text of a node: its own, or that of the value that stands for a mapping. After some rounds a
text turns out to be its own. -/
def textOf : Nat → NodeId → Builder (List Char)
  | 0, _ => throw LoadFault.endless
  | rounds + 1, n => do
    match (← node n).content with
    | .scalar text => return text
    | .sequence _ => refuse
    | .mapping entries =>
      match ← entries.findM? fun e => return (← tagOf e.1) = .value with
      | some e => textOf rounds e.2
      | none => refuse

/-- What a node without parts stands for. -/
def makeAtom (n : NodeId) (tag : Tag) : Builder Made := do
  let text ← textOf ((← get).nodes.size + 1) n
  match tag, (← node n).content with
  | .timestamp, .mapping _ => throw LoadFault.momentOfMapping
  | tag, _ => return .atom (← scalarData text tag) (tag = .float && isNanWord text)

/-! ## Entries taken over -/

/-- The entries of a node, if it is a mapping. -/
def entriesOf? (n : NodeId) : Builder (Option (List (NodeId × NodeId))) := do
  match (← node n).content with
  | .mapping entries => return some entries
  | _ => return none

/-- The entries of a mapping. -/
def entriesOf (n : NodeId) : Builder (List (NodeId × NodeId)) := return (← entriesOf? n).getD []

/-- Changes the entries of a mapping. -/
def setEntries (n : NodeId) (entries : List (NodeId × NodeId)) : Builder Unit :=
  modify fun s =>
    { s with nodes := s.nodes.modify n fun x => { x with content := .mapping entries } }

/-- Makes a key with a use of its own an ordinary one. -/
def makeOrdinary (n : NodeId) : Builder Unit := do
  if (← tagOf n) = .value then
    modify fun s => { s with nodes := s.nodes.modify n fun x => { x with tag := .text } }

/-- Takes the first entry out of a mapping whose key says that the entries of its value are taken
over, and gives that value. The keys before it are ordinary ones. -/
def nextMerge? (n : NodeId) : Builder (Option NodeId) := do
  let entries ← entriesOf n
  let nodes := (← get).nodes
  let before := entries.takeWhile fun e => (nodes[e.1]?).any (·.tag ≠ .merge)
  before.forM fun e => makeOrdinary e.1
  match entries.drop before.length with
  | [] => return none
  | e :: after =>
    setEntries n (before ++ after)
    return some e.2

/-- Gives a mapping the entries that it takes over, and those from which it takes them theirs. Each
round takes out an entry that says so, and none comes back. -/
def takeOver : Nat → NodeId → Builder Unit
  | 0, _ => refuse
  | rounds + 1, n => do
    match ← nextMerge? n with
    | none => return
    | some v =>
      let given := fun (m : NodeId) => do
        if (← entriesOf? m).isNone then refuse
        takeOver rounds m
        entriesOf m
      let entries ← match (← node v).content with
        | .mapping _ => given v
        | .sequence items => do pure (← items.mapM given).reverse.flatten
        | .scalar _ => refuse
      takeOver rounds n
      setEntries n (entries ++ (← entriesOf n))

/-- How many entries say that others are taken over. -/
def mergeCount (nodes : Nodes) : Nat :=
  let isMerge := fun (e : NodeId × NodeId) => (nodes[e.1]?).any (·.tag = .merge)
  (nodes.toList.map fun n =>
    match n.content with
    | .mapping entries => entries.countP isMerge
    | _ => 0).foldl (· + ·) 0

/-! ## Keys -/

/-- Whether two keys without parts are equal. A truth value is equal to its number. -/
def sameKey : Data → Data → Bool
  | .null, .null => true
  | .text s, .text t => s = t
  | .moment m, .moment n => m.isSame n
  | .bytes a, .bytes b => a = b
  | .float x, .float y => x == y
  | .float x, d => (intOfData? d).any fun n => Decimal.compareToInt x n = some .eq
  | d, .float x => (intOfData? d).any fun n => Decimal.compareToInt x n = some .eq
  | d, e =>
    match intOfData? d, intOfData? e with
    | some m, some n => m = n
    | _, _ => false
where
  /-- The integer that some data is. -/
  intOfData? : Data → Option Int
    | .int n => some n
    | .bool b => some (if b then 1 else 0)
    | _ => none

/-- Whether two nodes stand for the same key. What is not a number is equal to nothing but
itself. -/
def isSameKey (made : Array (Option Made)) (a b : NodeId) : Bool :=
  a = b ||
    match made[a]?.join, made[b]?.join with
    | some (.atom _ true), some (.atom _ true) => true
    | some (.atom d _), some (.atom e _) => sameKey d e
    | _, _ => false

/-- Gives a key a value: in its place if it has one already, or else at the end. -/
def putKey (made : Array (Option Made)) (key value : NodeId) :
    List (NodeId × NodeId) → List (NodeId × NodeId)
  | [] => [(key, value)]
  | e :: rest =>
    if isSameKey made e.1 key then (e.1, value) :: rest else e :: putKey made key value rest

/-! ## Collections -/

/-- What a node stands for, which is made unless it was met before. -/
def make (n : NodeId) : Builder Made := do
  match (← get).made[n]?.join with
  | some m => return m
  | none =>
    match ← tagOf n with
    | .sequence => meet n (.list [])
    | .entries => meet n (.pairs [])
    | .mapping => meet n (.dict [])
    | .set => meet n (.set [])
    | .merge | .value | .unknown => refuse
    | tag =>
      let m ← makeAtom n tag
      tell n m
      return m

/-- Makes an entry. Collections are no keys. -/
def makeEntry (entries : List (NodeId × NodeId)) (e : NodeId × NodeId) :
    Builder (List (NodeId × NodeId)) := do
  match ← make e.1 with
  | .atom .. =>
    let _ ← make e.2
    return putKey (← get).made e.1 e.2 entries
  | _ => refuse

/-- Makes the entries of a mapping and of those from which it takes some over. -/
def makeEntries (n : NodeId) : Builder (List (NodeId × NodeId)) := do
  takeOver (mergeCount (← get).nodes + 1) n
  (← entriesOf n).foldlM makeEntry []

/-- Makes the only entry of a mapping. -/
def makeSingle (n : NodeId) : Builder (NodeId × NodeId) := do
  match ← entriesOf? n with
  | some [e] =>
    let _ ← make e.1
    let _ ← make e.2
    return e
  | _ => refuse

/-- Makes what is in a collection. -/
def fill (n : NodeId) : Builder Unit := do
  let x ← node n
  match x.tag, x.content with
  | .sequence, .sequence items =>
    items.forM fun i => discard (make i)
    tell n (.list items)
  | .entries, .sequence items => tell n (.pairs (← items.mapM makeSingle))
  | .mapping, .mapping _ => tell n (.dict (← makeEntries n))
  | .set, .mapping _ => tell n (.set ((← makeEntries n).map (·.1)))
  | _, _ => refuse

/-- Fills the collections that were met, round by round. -/
def fillAll : Nat → Builder Unit
  | 0 => return
  | rounds + 1 => do
    match (← get).waiting.reverse with
    | [] => return
    | met =>
      modify fun s => { s with waiting := [] }
      met.forM fill
      fillAll rounds

end Builder

end Stencil.Yaml
