import Stencil.Text.Decoding
import Stencil.Yaml.ScalarText

/-!
# YAML tokens

The signs of a YAML text, with the anchors, tags and scalars between them. The start and the end of
a block collection, which have no signs of their own, are tokens too.

- `anchorName?`, `tag?`, `directive`: what stands at a cursor after an anchor's sign, at a tag or
  at a directive, and the cursor behind it.
-/

namespace Stencil.Yaml

/-- A line before a document that tells how to read it. -/
inductive Directive where
  /-- The version of the language. -/
  | version (major minor : Nat)
  /-- What the handle of a tag stands for. -/
  | handle (handle stands : List Char)
  /-- Anything else. -/
  | other
  deriving DecidableEq, Repr, Inhabited

/-- A token. -/
inductive Token where
  | directive (d : Directive)
  | documentStart | documentEnd
  | blockSequenceStart | blockMappingStart | blockEnd
  | flowSequenceStart | flowSequenceEnd | flowMappingStart | flowMappingEnd
  | blockEntry | flowEntry | key | value
  | alias (name : List Char)
  | anchor (name : List Char)
  /-- A tag: its handle, if it has one, and what follows the handle. -/
  | tag (handle? : Option (List Char)) (suffix : List Char)
  /-- A scalar, and whether it is written plainly. -/
  | scalar (text : List Char) (isPlain : Bool)
  deriving DecidableEq, Repr, Inhabited

/-- Whether a character can be in a name. -/
def isNameChar (c : Char) : Bool := c.isAlphanum || c = '-' || c = '_'

/-- The name of an anchor or an alias. -/
def anchorName? (c : Cursor) : Option (List Char × Cursor) :=
  let name := c.span isNameChar
  let c := c.skip name.length
  if name = [] then none
  else if isSeparator c.peek || "?:,]\x7d%@`".toList.contains c.peek then some (name, c)
  else none

/-! ## Tags -/

/-- Whether a character can be in a tag as it is. -/
def isTagChar (c : Char) : Bool := c.isAlphanum || "-;/?:@&=+$,_.!~*'()[]".toList.contains c

/-- The bytes that stand at a cursor as percent signs with two digits each. -/
def percentBytes? : Nat → Cursor → Option (List UInt8 × Cursor)
  | 0, _ => none
  | rounds + 1, c =>
    if c.peek = '%' then do
      let n ← hexNumber? 2 c.next
      let (bytes, c) ← percentBytes? rounds (c.skip 3)
      return (UInt8.ofNat n :: bytes, c)
    else some ([], c)

/-- What stands in a tag at a cursor, be it nothing. -/
def tagTextFrom? : Nat → Cursor → Option (List Char × Cursor)
  | 0, _ => none
  | rounds + 1, c =>
    let plain := c.span isTagChar
    let c := c.skip plain.length
    if c.peek = '%' then do
      let (bytes, c) ← percentBytes? (c.rest.length + 1) c
      let text ← (Text.decodeUtf8 bytes).toOption
      let (more, c) ← tagTextFrom? rounds c
      return (plain ++ text ++ more, c)
    else some (plain, c)

/-- What stands in a tag at a cursor. -/
def tagText? (c : Cursor) : Option (List Char × Cursor) :=
  if isTagChar c.peek || c.peek = '%' then tagTextFrom? (c.rest.length + 1) c else none

/-- The handle of a tag: an exclamation mark before a blank, or a name between two of them. -/
def tagHandle? (c : Cursor) : Option (List Char × Cursor) :=
  if c.peek ≠ '!' then none
  else
    let name := c.next.span isNameChar
    let after := c.next.skip name.length
    if after.peek = '!' then some ('!' :: name ++ ['!'], after.next)
    else if name = [] ∧ after.peek = ' ' then some (['!'], after)
    else none

/-- Whether a tag has a handle that ends before the tag does. -/
def hasHandle (c : Cursor) : Bool := (c.span fun x => !endsWord x).contains '!'

/-- A tag. -/
def tag? (c : Cursor) : Option (Token × Cursor) := do
  let (token, c) ←
    if c.peekAt 1 = '<' then do
      let (text, c) ← tagText? (c.skip 2)
      if c.peek = '>' then some (Token.tag none text, c.next) else none
    else if isSeparator (c.peekAt 1) then some (Token.tag none ['!'], c.next)
    else if hasHandle c.next then do
      let (handle, c) ← tagHandle? c
      let (text, c) ← tagText? c
      some (Token.tag (some handle) text, c)
    else do
      let (text, c) ← tagText? c.next
      some (Token.tag (some ['!']) text, c)
  if endsWord c.peek then some (token, c) else none

/-! ## Directives -/

/-- The most digits of an integer to the base of ten. -/
def digitLimit : Nat := 4300

/-- A number of a version. -/
def versionNumber (c : Cursor) : Loaded (Nat × Cursor) :=
  let digits := c.span Char.isDigit
  if digits = [] then .error .malformed
  else if digitLimit < digits.length then .error (.longInt digits.length)
  else
    .ok (digits.foldl (fun n d => n * 10 + (d.toNat - '0'.toNat)) 0, c.skip digits.length)

/-- What stands in a directive behind its name. -/
def directiveValue (name : List Char) (c : Cursor) : Loaded (Directive × Cursor) :=
  if name = "YAML".toList then do
    let (major, c) ← versionNumber c.skipBlanks
    if c.peek ≠ '.' then .error .malformed
    else
      let (minor, c) ← versionNumber c.next
      if endsWord c.peek then .ok (.version major minor, c) else .error .malformed
  else if name = "TAG".toList then do
    let (handle, c) ← orMalformed (tagHandle? c.skipBlanks)
    if c.peek ≠ ' ' then .error .malformed
    else
      let (stands, c) ← orMalformed (tagText? c.skipBlanks)
      if endsWord c.peek then .ok (.handle handle stands, c) else .error .malformed
  else .ok (.other, c.skipLine)

/-- A directive; the cursor is at its percent sign. -/
def directive (c : Cursor) : Loaded (Token × Cursor) := do
  let name := c.next.span isNameChar
  let c := c.next.skip name.length
  if name = [] ∨ !endsWord c.peek then .error .malformed
  else
    let (d, c) ← directiveValue name c
    return (.directive d, ← orMalformed c.endLine?)

end Stencil.Yaml
