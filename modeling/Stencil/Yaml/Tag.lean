import Stencil.Text.Pattern

/-!
# Tags

What a part of a document is: nothing, a truth value, a number, a text, a collection of some kind.
It is said by a tag, or else it shows in how the part is written: a scalar that is written plainly
is what its text looks like. Numbers can have underscores in them and be written to the base of two,
eight, ten, sixteen or sixty.

A line feed at the end of a text does not count for what the text looks like.

- `Tag.ofName`: the tag of a full name.
- `Tag.ofPlain`: what a text looks like.
-/

namespace Stencil.Yaml

open Text

/-- What a part of a document is. -/
inductive Tag where
  | null | bool | int | float | binary | timestamp | text
  | sequence | mapping
  /-- A mapping whose keys are all that counts. -/
  | set
  /-- A list of entries. -/
  | entries
  /-- A key under which a mapping takes over the entries of others. -/
  | merge
  /-- A key under which a mapping has a text that stands for it. -/
  | value
  /-- Something that is not known here. -/
  | unknown
  deriving DecidableEq, Repr, Inhabited

/-- What the tags of the language start with. -/
def tagSpace : List Char := "tag:yaml.org,2002:".toList

/-- The tags of the language. -/
def knownTags : List (String × Tag) := [
  ("null", .null), ("bool", .bool), ("int", .int), ("float", .float), ("binary", .binary),
  ("timestamp", .timestamp), ("str", .text), ("seq", .sequence), ("map", .mapping), ("set", .set),
  ("omap", .entries), ("pairs", .entries), ("merge", .merge), ("value", .value)]

/-- The tag of a full name. -/
def Tag.ofName (name : List Char) : Tag :=
  if tagSpace.isPrefixOf name then
    (knownTags.lookup (String.ofList (name.drop tagSpace.length))).getD .unknown
  else .unknown

/-! ## What a text looks like -/

/-- A digit. -/
def digit : Pattern := .char Char.isDigit

/-- A digit that is not zero. -/
def positiveDigit : Pattern := .char fun c => c.isDigit && c ≠ '0'

/-- Any number of digits and underscores. -/
def digits_ : Pattern := .many (.char fun c => c.isDigit || c = '_')

/-- A sign or nothing. -/
def sign : Pattern := .optional (.oneOf "+-")

/-- Further digits to the base of sixty. -/
def sixties : Pattern := .some (.all [.one ':', .optional (.oneOf "012345"), digit])

/-- An exponent or nothing. An exponent has a sign. -/
def exponent : Pattern := .optional (.all [.oneOf "eE", .oneOf "+-", .some digit])

/-- Texts that look like integers. -/
def intPattern : Pattern :=
  .seq sign (.either (.seq (.literal "0b") (.some (.oneOf "01_")))
    (.either (.seq (.one '0') (.some (.oneOf "01234567_")))
    (.either (.one '0')
    (.either (.seq positiveDigit digits_)
    (.either (.seq (.literal "0x") (.some (.oneOf "0123456789abcdefABCDEF_")))
    (.all [positiveDigit, digits_, sixties]))))))

/-- Texts that look like floats. -/
def floatPattern : Pattern :=
  .either (.all [sign, digit, digits_, .one '.', digits_, exponent])
    (.either (.all [.one '.', digit, digits_, exponent])
    (.either (.all [sign, digit, digits_, sixties, .one '.', digits_])
    (.either (.all [sign, .one '.', .anyOf ["inf", "Inf", "INF"]])
    (.seq (.one '.') (.anyOf ["nan", "NaN", "NAN"])))))

/-- One or two digits. -/
def shortNumber : Pattern := .seq digit (.optional digit)

/-- A year. -/
def yearPattern : Pattern := .all [digit, digit, digit, digit]

/-- Blanks and tabs. -/
def gap : Pattern := .many (.oneOf " \t")

/-- An offset from universal time or nothing. -/
def zonePattern : Pattern :=
  .optional (.seq gap (.either (.one 'Z')
    (.all [.oneOf "+-", shortNumber, .optional (.all [.one ':', digit, digit])])))

/-- A time of the day, behind the sign that parts it from the date. -/
def clockPattern : Pattern :=
  .all [.either (.oneOf "Tt") (.some (.oneOf " \t")), shortNumber, .one ':', digit, digit, .one ':',
    digit, digit, .optional (.seq (.one '.') (.many digit)), zonePattern]

/-- Texts that look like a date, all digits of which are written, or like a point in time. -/
def timestampPattern : Pattern :=
  .either (.all [yearPattern, .one '-', digit, digit, .one '-', digit, digit])
    (.all [yearPattern, .one '-', shortNumber, .one '-', shortNumber, clockPattern])

/-- Texts that are a date or a point in time. -/
def momentPattern : Pattern :=
  .all [yearPattern, .one '-', shortNumber, .one '-', shortNumber, .optional clockPattern]

/-- Words for true. -/
def trueWords : List String := ["yes", "Yes", "YES", "true", "True", "TRUE", "on", "On", "ON"]

/-- Words for false. -/
def falseWords : List String := ["no", "No", "NO", "false", "False", "FALSE", "off", "Off", "OFF"]

/-- Words for nothing, apart from the empty text. -/
def nullWords : List String := ["~", "null", "Null", "NULL"]

/-- The key under which a mapping takes over the entries of others. -/
def mergeWord : String := "<<"

/-- The key under which a mapping has a text that stands for it. -/
def valueWord : String := "="

/-- Signs that have no meaning as a text of their own. -/
def bareSigns : List String := ["!", "&", "*"]

/-- A text without a line feed at its end. -/
def dropFinalBreak (s : List Char) : List Char :=
  if s.getLast? = some '\n' then s.dropLast else s

/-- What a text looks like. -/
def Tag.ofPlain (s : List Char) : Tag :=
  let line := dropFinalBreak s
  let word := String.ofList line
  if trueWords.contains word || falseWords.contains word then .bool
  else if floatPattern.accepts line then .float
  else if intPattern.accepts line then .int
  else if word = mergeWord then .merge
  else if s = [] || nullWords.contains word then .null
  else if timestampPattern.accepts line then .timestamp
  else if word = valueWord then .value
  else if bareSigns.contains word then .unknown
  else .text

end Stencil.Yaml
