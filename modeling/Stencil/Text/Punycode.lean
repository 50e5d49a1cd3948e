import Stencil.Text.Decoding

/-!
# Punycode

Text in bytes of ASCII. In front of the last hyphen stand the characters of ASCII, in order; behind
it stand numbers, each of which inserts another character. A number tells how many insertions to
pass over, where all places for a character come before those for the next greater one. It is
written in digits of 36 values, least first, and ends with a digit below a threshold that follows
the numbers before.

Names of hosts are written in labels, of which those with a mark in front are in Punycode. They are
taken to be in the form in which names are compared.

- `decodePunycode`, `decodeHostName`: the text of some bytes.
-/

namespace Stencil.Text

namespace Punycode

/-- How far the insertions have come. -/
structure Insertions where
  /-- The text so far. -/
  text : List Char
  /-- The number of the character inserted last. -/
  code : Nat
  /-- The next place for it. -/
  place : Nat
  /-- What the thresholds follow. -/
  bias : Nat
  /-- Whether nothing has been inserted yet. -/
  isFirst : Bool
  /-- The digits that have been read of a number. -/
  digits : Nat
  /-- What the next digit of it counts. -/
  weight : Nat
  /-- The number so far. -/
  number : Nat

/-- The insertions into a text, before the first. -/
def Insertions.into (text : List Char) : Insertions := ⟨text, 128, 0, 72, true, 0, 1, 0⟩

/-- The value of a digit. Capitals are meant. -/
def digit? (c : Char) : Option Nat :=
  if 'A' ≤ c ∧ c ≤ 'Z' then some (c.toNat - 'A'.toNat)
  else if '0' ≤ c ∧ c ≤ '9' then some (26 + (c.toNat - '0'.toNat))
  else none

/-- The threshold of a digit. -/
def threshold (digits bias : Nat) : Nat := min 26 (max 1 (36 * (digits + 1) - bias))

/-- How often a number is to be divided by 35 until it is at most 455, with what is left. -/
def scale (n : Nat) : Nat × Nat :=
  if 455 < n then ((scale (n / 35)).1 + 1, (scale (n / 35)).2) else (0, n)
termination_by n
decreasing_by all_goals omega

/-- What the thresholds of the next number follow, given this one and the length of the text. -/
def nextBias (number length : Nat) (isFirst : Bool) : Nat :=
  let n := if isFirst then number / 700 else number / 2
  let (times, rest) := scale (n + n / length)
  36 * times + 36 * rest / (rest + 38)

/-- The insertion of the character of a number. -/
def Insertions.insert (i : Insertions) (number : Nat) : Except Refusal Insertions :=
  let places := i.text.length + 1
  let code := i.code + (i.place + number) / places
  let place := (i.place + number) % places
  if 0x10FFFF < code then
    .error (.reason ("Invalid character U+" ++ String.ofList (Nat.toDigits 16 code)))
  else
    .ok ⟨i.text.take place ++ Char.ofNat code :: i.text.drop place, code, place + 1,
      nextBias number places i.isFirst, false, 0, 1, 0⟩

/-- The text after all insertions that digits tell. -/
def Insertions.read (i : Insertions) : List Char → Except Refusal (List Char)
  | [] => if i.digits = 0 then .ok i.text else .error (.reason "incomplete punicode string")
  | c :: rest =>
    match digit? c with
    | none => .error (.reason ("Invalid extended code point '" ++ String.singleton c ++ "'"))
    | some d =>
      let t := threshold i.digits i.bias
      let number := i.number + d * i.weight
      if d < t then
        match i.insert number with
        | .error e => .error e
        | .ok next => next.read rest
      else
        Insertions.read
          { i with digits := i.digits + 1, weight := i.weight * (36 - t), number } rest

end Punycode

/-- The text of bytes in Punycode. -/
def decodePunycode (bytes : List UInt8) : Except Refusal (List Char) := do
  let behind := (bytes.reverse.takeWhile (· ≠ 0x2D)).reverse
  let front := bytes.take (bytes.length - behind.length - 1)
  let text ← (decodeAscii front).orRefusal
  let digits ← (decodeAscii behind).orRefusal
  (Punycode.Insertions.into text).read (digits.map Char.toUpper)

/-- The parts of some bytes between points. -/
def labels : List UInt8 → List (List UInt8)
  | [] => [[]]
  | b :: rest =>
    match labels rest with
    | [] => [[b]]
    | l :: ls => if b = 0x2E then [] :: l :: ls else (b :: l) :: ls

/-- The mark in front of a label in Punycode. -/
def labelMark : List UInt8 := [0x78, 0x6E, 0x2D, 0x2D]

/-- The text of a label. A mark needs something behind it. -/
def decodeLabel (label : List UInt8) : Except Refusal (List Char) :=
  if label = labelMark then .error (.reason "label empty or too long")
  else if labelMark.isPrefixOf label then
    match decodePunycode (label.drop labelMark.length) with
    | .error (.reason r) =>
      .error (.reason ("decoding with 'punycode' codec failed (UnicodeError: " ++ r ++ ")"))
    | d => d
  else (decodeAscii label).orRefusal

/-- The text of bytes that are the name of a host. -/
def decodeHostName (bytes : List UInt8) : Except Refusal (List Char) :=
  ((labels bytes).mapM decodeLabel).map fun texts => (texts.intersperse ['.']).flatten

end Stencil.Text
