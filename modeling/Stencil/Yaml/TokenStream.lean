import Stencil.Yaml.Token

/-!
# The tokens of a YAML text

Tokens are found from left to right. Two things need memory. The start of a line tells by its column
which block collections end there, and a new one starts where an entry stands further right than
those around it. And what turns out to be a key, since a colon follows, gets its token in front
after the fact; so the reader remembers, for each flow collection it is in, the place where a key
may have started.

- `tokens`: the tokens of a text, as far as it has any.
-/

namespace Stencil.Yaml

/-- A place where a key may have started. -/
structure KeyStart where
  /-- The number of tokens before it. -/
  tokens : Nat
  /-- Whether there has to be a key. -/
  required : Bool
  /-- Its place in the text. -/
  index : Nat
  /-- Its line. -/
  line : Nat
  /-- Its column. -/
  column : Nat
  deriving DecidableEq, Repr, Inhabited

/-- What is known after a part of a text. -/
structure TokenState where
  /-- The rest of the text. -/
  cursor : Cursor
  /-- The tokens so far. -/
  tokens : List Token
  /-- The column of the block collection around the cursor; none has the column -1. -/
  indent : Int
  /-- The columns of the block collections around that one, innermost first. -/
  outer : List Int
  /-- Whether a key may start here. -/
  mayStart : Bool
  /-- The place where a key of the innermost collection may have started. -/
  keyStart? : Option KeyStart
  /-- The same for the collections around it, of which all but the last are flow collections. -/
  outerKeyStarts : List (Option KeyStart)
  deriving Inhabited

/-- A state, or what is wrong with the text. -/
abbrev Tokenized := Loaded TokenState

/-- The tokens of a text, up to the place from which on it has none. -/
structure TokenStream where
  /-- The tokens. -/
  tokens : List Token
  /-- What is wrong with the text behind them, if anything is. -/
  fault? : Option LoadFault
  deriving Repr, Inhabited

namespace TokenState

/-- The state at the start of a text. -/
def start (s : List Char) : TokenState := ⟨.start s, [], -1, [], true, none, []⟩

/-- Whether the cursor is in a flow collection. -/
def inFlow (t : TokenState) : Bool := !t.outerKeyStarts.isEmpty

/-- Adds a token. -/
def push (t : TokenState) (x : Token) : TokenState := { t with tokens := t.tokens ++ [x] }

/-- Adds a token in front of those after some number of tokens. -/
def insertAfter (t : TokenState) (n : Nat) (x : Token) : TokenState :=
  { t with tokens := t.tokens.take n ++ x :: t.tokens.drop n }

/-- The state with another cursor. -/
def at_ (t : TokenState) (c : Cursor) : TokenState := { t with cursor := c }

/-- The state where a key may start or may not. -/
def allowing (t : TokenState) (b : Bool) : TokenState := { t with mayStart := b }

/-! ## Keys -/

/-- Whether a key may still have started at a place: on this line, and not too far back. -/
def isRecent (c : Cursor) (k : KeyStart) : Bool := k.line = c.line && c.index - k.index ≤ 1024

/-- Forgets a place that is too far back. It must not be one that has to be a key. -/
def forgetOld (c : Cursor) : Option KeyStart → Loaded (Option KeyStart)
  | none => .ok none
  | some k =>
    if isRecent c k then .ok (some k)
    else if k.required then .error .malformed
    else .ok none

/-- Forgets all places that are too far back. -/
def forgetAllOld (t : TokenState) : Tokenized := do
  let keyStart? ← forgetOld t.cursor t.keyStart?
  let outerKeyStarts ← t.outerKeyStarts.mapM (forgetOld t.cursor)
  return { t with keyStart?, outerKeyStarts }

/-- Forgets where a key of the innermost collection may have started. -/
def forgetKey (t : TokenState) : Tokenized :=
  match t.keyStart? with
  | some k => if k.required then .error .malformed else .ok { t with keyStart? := none }
  | none => .ok t

/-- Remembers that a key may start here. -/
def rememberKey (t : TokenState) : Tokenized :=
  if t.mayStart then do
    let required := !t.inFlow && t.indent = t.cursor.column
    let t ← t.forgetKey
    let c := t.cursor
    return { t with keyStart? := some ⟨t.tokens.length, required, c.index, c.line, c.column⟩ }
  else .ok t

/-! ## Block collections -/

/-- Ends block collections, given the columns of those around the innermost one. -/
def unwindFrom (column : Int) : List Int → TokenState → TokenState
  | [], t => t
  | around :: outer, t =>
    if column < t.indent then
      unwindFrom column outer { t.push .blockEnd with indent := around, outer }
    else t

/-- Ends the block collections that stand further right than a column. -/
def unwind (column : Int) (t : TokenState) : TokenState :=
  if t.inFlow then t else unwindFrom column t.outer t

/-- Starts a block collection with a token after some number of tokens, if its column is further
right than that of the one around it. -/
def startBlock (t : TokenState) (column n : Nat) (x : Token) : TokenState :=
  if t.indent < column then
    { t.insertAfter n x with indent := column, outer := t.indent :: t.outer }
  else t

/-! ## Tokens -/

/-- Adds a token of some characters. -/
def sign (t : TokenState) (x : Token) (width : Nat) : TokenState :=
  (t.push x).at_ (t.cursor.skip width)

/-- Ends all block collections. No key is open. -/
def leaveBlocks (t : TokenState) : Tokenized := do
  let t ← (t.unwind (-1)).forgetKey
  return t.allowing false

/-- A directive. -/
def readDirective (t : TokenState) : Tokenized := do
  let t ← t.leaveBlocks
  let (x, c) ← directive t.cursor
  return (t.push x).at_ c

/-- The mark of the start or the end of a document. -/
def readMarker (t : TokenState) (x : Token) : Tokenized := do
  let t ← t.leaveBlocks
  return t.sign x 3

/-- The start of a flow collection. -/
def openFlow (t : TokenState) (x : Token) : Tokenized := do
  let t ← t.rememberKey
  let t := { t with keyStart? := none, outerKeyStarts := t.keyStart? :: t.outerKeyStarts }
  return (t.sign x 1).allowing true

/-- The end of a flow collection. -/
def closeFlow (t : TokenState) (x : Token) : Tokenized := do
  let t ← t.forgetKey
  match t.outerKeyStarts with
  | [] => .error .malformed
  | keyStart? :: outerKeyStarts =>
    return (({ t with keyStart?, outerKeyStarts } : TokenState).sign x 1).allowing false

/-- A comma between entries. -/
def readFlowEntry (t : TokenState) : Tokenized := do
  let t ← t.forgetKey
  return (t.sign .flowEntry 1).allowing true

/-- The dash of an entry. -/
def readBlockEntry (t : TokenState) : Tokenized := do
  let t ←
    if t.inFlow then pure t
    else if t.mayStart then pure (t.startBlock t.cursor.column t.tokens.length .blockSequenceStart)
    else .error .malformed
  let t ← t.forgetKey
  return (t.sign .blockEntry 1).allowing true

/-- The question mark of a key. -/
def readKey (t : TokenState) : Tokenized := do
  let t ←
    if t.inFlow then pure t
    else if t.mayStart then pure (t.startBlock t.cursor.column t.tokens.length .blockMappingStart)
    else .error .malformed
  let t ← t.forgetKey
  return (t.sign .key 1).allowing !t.inFlow

/-- The colon of a value. What was remembered as the start of a key is one. -/
def readValue (t : TokenState) : Tokenized := do
  match t.keyStart? with
  | some k =>
    let t := { t.insertAfter k.tokens .key with keyStart? := none }
    let t := if t.inFlow then t else t.startBlock k.column k.tokens .blockMappingStart
    return (t.sign .value 1).allowing false
  | none =>
    let t ←
      if t.inFlow then pure t
      else if t.mayStart then
        pure (t.startBlock t.cursor.column t.tokens.length .blockMappingStart)
      else .error .malformed
    return (t.sign .value 1).allowing !t.inFlow

/-- The name of an anchor or an alias. -/
def readName (t : TokenState) (make : List Char → Token) : Tokenized := do
  let t ← t.rememberKey
  let (name, c) ← orMalformed (anchorName? t.cursor.next)
  return ((t.push (make name)).at_ c).allowing false

/-- A tag. -/
def readTag (t : TokenState) : Tokenized := do
  let t ← t.rememberKey
  let (x, c) ← orMalformed (tag? t.cursor)
  return ((t.push x).at_ c).allowing false

/-- A scalar that is a block. -/
def readBlock (t : TokenState) (fold : Bool) : Tokenized := do
  let t ← t.forgetKey
  let (text, c) ← orMalformed (block? fold t.indent t.cursor)
  return ((t.push (.scalar text false)).at_ c).allowing true

/-- A scalar in quotes. -/
def readQuoted (t : TokenState) : Tokenized := do
  let t ← t.rememberKey
  let (text, c) ← quoted? t.cursor
  return ((t.push (.scalar text false)).at_ c).allowing false

/-- A plain scalar. -/
def readPlain (t : TokenState) : Tokenized := do
  let t ← t.rememberKey
  let (text, c, crossed) := plain t.inFlow (t.indent + 1) t.cursor
  return ((t.push (.scalar text true)).at_ c).allowing crossed

/-- Whether a plain scalar starts here. -/
def atPlain (t : TokenState) : Bool :=
  let c := t.cursor.peek
  let signs := "-?:,[]\x7b\x7d#&*!|>'\"%@`".toList
  if isSeparator c then false
  else if signs.contains c then
    !isSeparator (t.cursor.peekAt 1) && (c = '-' || (!t.inFlow && (c = '?' || c = ':')))
  else true

/-- Skips blanks, comments and line breaks. A key may start on a new line. -/
def skipGap : Nat → TokenState → TokenState
  | 0, t => t
  | rounds + 1, t =>
    let c := t.cursor.skipBlanks.skipComment
    if isBreak c.peek then
      skipGap rounds ((t.at_ c.lineBreak.2).allowing (t.mayStart || !t.inFlow))
    else t.at_ c

/-- The state at the next token, with all that ends before it. -/
def approach (t : TokenState) : Tokenized := do
  let c := if t.cursor.index = 0 ∧ t.cursor.peek = '\uFEFF' then t.cursor.next else t.cursor
  let t ← (skipGap (c.rest.length + 1) (t.at_ c)).forgetAllOld
  return t.unwind t.cursor.column

/-- The next token. -/
def read (t : TokenState) : Tokenized :=
  let c := t.cursor
  let alone := isSeparator (c.peekAt 1)
  if c.column = 0 ∧ c.peek = '%' then t.readDirective
  else if c.column = 0 ∧ c.peek = '-' ∧ c.atMarker then t.readMarker .documentStart
  else if c.column = 0 ∧ c.peek = '.' ∧ c.atMarker then t.readMarker .documentEnd
  else match c.peek with
    | '[' => t.openFlow .flowSequenceStart
    | '\x7b' => t.openFlow .flowMappingStart
    | ']' => t.closeFlow .flowSequenceEnd
    | '\x7d' => t.closeFlow .flowMappingEnd
    | ',' => t.readFlowEntry
    | '*' => t.readName .alias
    | '&' => t.readName .anchor
    | '!' => t.readTag
    | '\'' => t.readQuoted
    | '"' => t.readQuoted
    | x =>
      if x = '-' ∧ alone then t.readBlockEntry
      else if x = '?' ∧ (t.inFlow ∨ alone) then t.readKey
      else if x = ':' ∧ (t.inFlow ∨ alone) then t.readValue
      else if x = '|' ∧ !t.inFlow then t.readBlock false
      else if x = '>' ∧ !t.inFlow then t.readBlock true
      else if t.atPlain then t.readPlain
      else .error .malformed

/-- Ends all block collections at the end of a text. -/
def finish (t : TokenState) : Tokenized := (t.unwind (-1)).forgetKey

/-- The places where a key may still have started. -/
def openKeys (t : TokenState) : List KeyStart :=
  ((t.keyStart? :: t.outerKeyStarts).filterMap id).filter (isRecent t.cursor)

/-- How many tokens are certain, whatever follows: those before the first that may start a key. -/
def certain (t : TokenState) : Nat := t.openKeys.foldl (fun n k => min n k.tokens) t.tokens.length

/-- The tokens of a text that goes wrong behind a state. -/
def brokenAt (t : TokenState) (f : LoadFault) : TokenStream :=
  ⟨t.tokens.take t.certain, some f⟩

/-- The tokens of a state and of the rest of its text. -/
def readAll : Nat → TokenState → TokenStream
  | 0, t => t.brokenAt .malformed
  | rounds + 1, t =>
    match t.approach with
    | .error f => t.brokenAt f
    | .ok here =>
      if here.cursor.rest = [] then
        match here.finish with
        | .error f => t.brokenAt f
        | .ok t => ⟨t.tokens, none⟩
      else
        match here.read with
        | .error f => t.brokenAt f
        | .ok t => readAll rounds t

end TokenState

/-- Whether a text may have a character. -/
def isAllowed (c : Char) : Bool :=
  let n := c.toNat
  n = 0x09 || n = 0x0A || n = 0x0D || (0x20 ≤ n && n ≤ 0x7E) || n = 0x85 || (0xA0 ≤ n && n ≤ 0xD7FF)
    || (0xE000 ≤ n && n ≤ 0xFFFD) || (0x10000 ≤ n && n ≤ 0x10FFFF)

/-- The tokens of a text. -/
def tokens (s : List Char) : TokenStream :=
  if s.all isAllowed then TokenState.readAll (s.length + 1) (.start s) else ⟨[], some .malformed⟩

end Stencil.Yaml
