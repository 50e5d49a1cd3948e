import Stencil.Yaml.Tag
import Stencil.Yaml.TokenStream

/-!
# YAML nodes

A document is made of nodes: scalars, sequences and mappings, each with what it is. The nodes have
numbers, by which collections refer to what is in them. A node can have a name, under which it can
stand in other places too, even within itself.

- `Document.ofTokens`: the one document that some tokens make, if they make one.
-/

namespace Stencil.Yaml

/-- The number of a node in its document. -/
abbrev NodeId := Nat

/-- What is in a node. -/
inductive Content where
  | scalar (text : List Char)
  | sequence (items : List NodeId)
  | mapping (entries : List (NodeId × NodeId))
  deriving DecidableEq, Repr, Inhabited

/-- A node. -/
structure Node where
  /-- What it is. -/
  tag : Tag
  /-- What is in it. -/
  content : Content
  deriving DecidableEq, Repr, Inhabited

/-- The nodes of a document. -/
abbrev Nodes := Array Node

/-- A document. -/
structure Document where
  /-- Its nodes. -/
  nodes : Nodes
  /-- The node that all others are in. -/
  root : NodeId
  deriving Repr, Inhabited

/-- What the handles of tags stand for, unless a document tells otherwise. -/
def usualHandles : List (List Char × List Char) := [(['!'], ['!']), (['!', '!'], tagSpace)]

/-- What is left of some tokens, with the nodes so far, their names and what handles stand for. -/
structure NodeState where
  /-- The tokens that are left. -/
  stream : TokenStream
  /-- The nodes. -/
  nodes : Nodes
  /-- The named nodes. -/
  names : List (List Char × NodeId)
  /-- What handles stand for. -/
  handles : List (List Char × List Char)
  deriving Inhabited

/-- A reader of nodes. -/
abbrev NodeReader := StateT NodeState Loaded

/-- What stands in front of a node: a name, and a tag as it is written. -/
structure Properties where
  /-- The name. -/
  name? : Option (List Char)
  /-- The tag. -/
  tag? : Option (List Char)
  deriving DecidableEq, Repr, Inhabited

namespace Properties

/-- Whether there is a name or a tag. -/
def areGiven (p : Properties) : Bool := p.name?.isSome || p.tag?.isSome

/-- The tag, if it says something. -/
def telling? (p : Properties) : Option (List Char) := p.tag?.filter (· ≠ ['!'])

/-- What a collection is that is of some kind unless its tag says something else. -/
def collectionTag (p : Properties) (usual : Tag) : Tag := (p.telling?.map Tag.ofName).getD usual

/-- What a scalar is. -/
def scalarTag (p : Properties) (isPlain : Bool) (text : List Char) : Tag :=
  match p.telling? with
  | some name => .ofName name
  | none => if isPlain || p.tag?.isSome then .ofPlain text else .text

end Properties

namespace NodeReader

/-- Gives up: the tokens make no document. -/
def refuse {α : Type} : NodeReader α := throw LoadFault.malformed

/-- The next token, if there is one. -/
def peek : NodeReader (Option Token) := do
  let stream := (← get).stream
  match stream.tokens, stream.fault? with
  | x :: _, _ => return some x
  | [], none => return none
  | [], some f => throw f

/-- Whether the next token is one of some tokens. -/
def at_ (tokens : List Token) : NodeReader Bool := return (← peek).any tokens.contains

/-- Skips a token. -/
def skip : NodeReader Unit :=
  modify fun s => { s with stream := { s.stream with tokens := s.stream.tokens.tail } }

/-- Skips a given token, or gives up. -/
def expect (x : Token) : NodeReader Unit := do if ← at_ [x] then skip else refuse

/-- Skips a given token if it is there, and tells whether it was. -/
def accept (x : Token) : NodeReader Bool := do
  if ← at_ [x] then
    skip
    return true
  else return false

/-! ## Nodes and names -/

/-- Adds a node. -/
def add (n : Node) : NodeReader NodeId := do
  let id := (← get).nodes.size
  modify fun s => { s with nodes := s.nodes.push n }
  return id

/-- A scalar that is not written at all. -/
def missing : NodeReader NodeId := add ⟨.ofPlain [], .scalar []⟩

/-- Gives a node its name, if it has one. -/
def define (p : Properties) (id : NodeId) : NodeReader Unit := do
  match p.name? with
  | none => return
  | some name => modify fun s => { s with names := (name, id) :: s.names }

/-- The node of a name. -/
def named (name : List Char) : NodeReader NodeId := do
  match (← get).names.lookup name with
  | some id => return id
  | none => refuse

/-- A scalar with its name. -/
def addScalar (p : Properties) (isPlain : Bool) (text : List Char) : NodeReader NodeId := do
  let id ← add ⟨p.scalarTag isPlain text, .scalar text⟩
  define p id
  return id

/-- A collection with its name. What is in it is read when its name is known. -/
def addCollection (p : Properties) (usual : Tag) (read : NodeReader Content) :
    NodeReader NodeId := do
  let id ← add ⟨p.collectionTag usual, .sequence []⟩
  define p id
  let content ← read
  modify fun s => { s with nodes := s.nodes.modify id fun n => { n with content } }
  return id

/-- A sequence with its name. -/
def addSequence (p : Properties) (read : NodeReader (List NodeId)) : NodeReader NodeId :=
  addCollection p .sequence (Content.sequence <$> read)

/-- A mapping with its name. -/
def addMapping (p : Properties) (read : NodeReader (List (NodeId × NodeId))) :
    NodeReader NodeId :=
  addCollection p .mapping (Content.mapping <$> read)

/-! ## Properties -/

/-- The name in front of a node, if it has one. -/
def readName? : NodeReader (Option (List Char)) := do
  match ← peek with
  | some (.anchor name) =>
    skip
    return some name
  | _ => return none

/-- The handle and the rest of the tag in front of a node, if it has one. -/
def readTag? : NodeReader (Option (Option (List Char) × List Char)) := do
  match ← peek with
  | some (.tag handle? suffix) =>
    skip
    return some (handle?, suffix)
  | _ => return none

/-- A tag with what its handle stands for. -/
def fullTag : Option (List Char) × List Char → NodeReader (List Char)
  | (none, suffix) => return suffix
  | (some handle, suffix) => do
    match (← get).handles.lookup handle with
    | some stands => return stands ++ suffix
    | none => refuse

/-- The name and the tag of a node, in any order. -/
def readProperties : NodeReader Properties := do
  let (name?, tag?) ← match ← readName? with
    | some name => pure (some name, ← readTag?)
    | none =>
      match ← readTag? with
      | some tag => pure (← readName?, some tag)
      | none => pure (none, none)
  return ⟨name?, ← tag?.mapM fullTag⟩

/-- Gives up if the name of a node is that of another one. -/
def checkName (p : Properties) : NodeReader Unit := do
  match p.name? with
  | none => return
  | some name => if ((← get).names.lookup name).isSome then refuse else return

/-! ## Trees -/

mutual

/-- A node, where a block collection may stand or not, and where a sequence may stand that is not
indented. -/
def readNode : Nat → Bool → Bool → NodeReader NodeId
  | 0, _, _ => refuse
  | depth + 1, inBlock, flat => do
    if let some (.alias name) ← peek then
      skip
      return ← named name
    let p ← readProperties
    let x ← peek
    checkName p
    match x with
    | some (.scalar text isPlain) =>
      skip
      addScalar p isPlain text
    | some .flowSequenceStart =>
      skip
      addSequence p (readFlowItems depth true)
    | some .flowMappingStart =>
      skip
      addMapping p (readFlowEntries depth true)
    | x =>
      if flat && x = some .blockEntry then addSequence p (readFlatItems depth)
      else if inBlock && x = some .blockSequenceStart then
        skip
        addSequence p (readItems depth)
      else if inBlock && x = some .blockMappingStart then
        skip
        addMapping p (readEntries depth)
      else if p.areGiven then addScalar p true []
      else refuse

/-- The items of a block sequence. -/
def readItems : Nat → NodeReader (List NodeId)
  | 0 => refuse
  | depth + 1 => do
    if ← accept .blockEntry then
      let item ←
        if ← at_ [.blockEntry, .blockEnd] then missing else readNode depth true false
      return item :: (← readItems depth)
    else
      expect .blockEnd
      return []

/-- The items of a sequence that is not indented. -/
def readFlatItems : Nat → NodeReader (List NodeId)
  | 0 => refuse
  | depth + 1 => do
    if ← accept .blockEntry then
      let item ←
        if ← at_ [.blockEntry, .key, .value, .blockEnd] then missing
        else readNode depth true false
      return item :: (← readFlatItems depth)
    else return []

/-- A node of a block mapping, where none may be written. -/
def readEntryNode : Nat → NodeReader NodeId
  | 0 => refuse
  | depth + 1 => do
    if ← at_ [.key, .value, .blockEnd] then missing else readNode depth true true

/-- The entries of a block mapping. -/
def readEntries : Nat → NodeReader (List (NodeId × NodeId))
  | 0 => refuse
  | depth + 1 => do
    if ← accept .key then
      let key ← readEntryNode depth
      let value ← if ← accept .value then readEntryNode depth else missing
      return (key, value) :: (← readEntries depth)
    else
      expect .blockEnd
      return []

/-- A node of a flow collection that ends at one of some tokens, where none may be written. -/
def readFlowNode : Nat → List Token → NodeReader NodeId
  | 0, _ => refuse
  | depth + 1, ends => do
    if ← at_ ends then missing else readNode depth false false

/-- The items of a flow sequence. An entry of a mapping among them is a mapping with that entry. -/
def readFlowItems : Nat → Bool → NodeReader (List NodeId)
  | 0, _ => refuse
  | depth + 1, isFirst => do
    if ← accept .flowSequenceEnd then return []
    if !isFirst then expect .flowEntry
    if ← accept .key then
      let entry ← addMapping ⟨none, none⟩ do
        let key ← readFlowNode depth [.value, .flowEntry, .flowSequenceEnd]
        let value ←
          if ← accept .value then readFlowNode depth [.flowEntry, .flowSequenceEnd]
          else missing
        return [(key, value)]
      return entry :: (← readFlowItems depth false)
    else if ← accept .flowSequenceEnd then return []
    else
      let item ← readNode depth false false
      return item :: (← readFlowItems depth false)

/-- The entries of a flow mapping. -/
def readFlowEntries : Nat → Bool → NodeReader (List (NodeId × NodeId))
  | 0, _ => refuse
  | depth + 1, isFirst => do
    if ← accept .flowMappingEnd then return []
    if !isFirst then expect .flowEntry
    if ← accept .key then
      let key ← readFlowNode depth [.value, .flowEntry, .flowMappingEnd]
      let value ←
        if ← accept .value then readFlowNode depth [.flowEntry, .flowMappingEnd]
        else missing
      return (key, value) :: (← readFlowEntries depth false)
    else if ← accept .flowMappingEnd then return []
    else
      let key ← readNode depth false false
      return (key, ← missing) :: (← readFlowEntries depth false)

end

/-! ## Documents -/

/-- The directives of a document, given the versions and handles that were told before. -/
def readDirectives : Nat → Bool → List (List Char × List Char) →
    NodeReader (List (List Char × List Char))
  | 0, _, _ => refuse
  | rounds + 1, told, handles => do
    match ← peek with
    | some (.directive d) =>
      skip
      match d with
      | .version major _ =>
        if told || major ≠ 1 then refuse else readDirectives rounds true handles
      | .handle handle stands =>
        if handles.any (·.1 = handle) then refuse
        else readDirectives rounds told ((handle, stands) :: handles)
      | .other => readDirectives rounds told handles
    | _ => return handles

/-- Skips the marks of the end of a document. -/
def skipEnds : Nat → NodeReader Unit
  | 0 => refuse
  | rounds + 1 => do if ← accept .documentEnd then skipEnds rounds

/-- The node of a document behind its mark, where none may be written. -/
def readContent (depth : Nat) : NodeReader NodeId := do
  match ← peek with
  | none | some (.directive _) | some .documentStart | some .documentEnd => missing
  | _ => readNode depth true false

/-- The root of the one document, if there is a document. -/
def readDocument (depth : Nat) : NodeReader (Option NodeId) := do
  let root? ←
    match ← peek with
    | none => pure none
    | some (.directive _) | some .documentStart => do
      let handles ← readDirectives depth false []
      modify fun s => { s with handles := handles ++ s.handles }
      expect .documentStart
      pure (some (← readContent depth))
    | _ => pure (some (← readNode depth true false))
  skipEnds depth
  if (← peek).isSome then
    let _ ← readDirectives depth false []
    refuse
  else return root?

end NodeReader

/-- The one document that some tokens make, if they make one; there may be no document either. No
document is deeper than its tokens are many. -/
def Document.ofTokens (stream : TokenStream) : Loaded (Option Document) := do
  let rounds := 4 * stream.tokens.length + 8
  let (root?, s) ← (NodeReader.readDocument rounds).run ⟨stream, #[], [], usualHandles⟩
  return root?.map fun root => ⟨s.nodes, root⟩

end Stencil.Yaml
