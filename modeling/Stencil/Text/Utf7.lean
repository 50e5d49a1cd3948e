import Stencil.Text.Decoding

/-!
# UTF-7

Text in bytes below 128. A plus sign starts a shifted run, in which every byte is a digit of six
bits of the text in UTF-16; any other byte ends the run, and a minus sign that does so is dropped. A
plus sign with a minus sign right behind it is a plus sign.

- `decodeUtf7`: the text of some bytes.
-/

namespace Stencil.Text

/-- A shifted run of which some bytes have been read. -/
structure ShiftedRun where
  /-- Where its plus sign stands. -/
  first : Nat
  /-- The bytes, last first. -/
  read : List UInt8
  /-- How many bits wait for more. -/
  bits : Nat
  /-- The number that these bits make. -/
  waiting : Nat
  /-- The first half of a character that waits for the second half, or zero. -/
  half : Nat

/-- The value of a byte as a digit of six bits. -/
def sextet? (b : UInt8) : Option Nat :=
  if 0x41 ≤ b ∧ b ≤ 0x5A then some (b.toNat - 0x41)
  else if 0x61 ≤ b ∧ b ≤ 0x7A then some (b.toNat - 0x61 + 26)
  else if 0x30 ≤ b ∧ b ≤ 0x39 then some (b.toNat - 0x30 + 52)
  else if b = 0x2B then some 62
  else if b = 0x2F then some 63
  else none

/-- A fault in a run that goes up to a byte, or to the end. -/
def ShiftedRun.fault (r : ShiftedRun) (last? : Option UInt8) (reason : String) : DecodeFault :=
  ⟨"utf7", r.first, r.read.reverse ++ last?.toList, reason⟩

/-- What a unit of sixteen bits adds to the text, and the half that then waits. A half without the
other one is replaced. -/
def addUnit (half unit : Nat) : List Char × Nat :=
  let lone := if half = 0 then [] else ['\ufffd']
  if half ≠ 0 ∧ 0xDC00 ≤ unit ∧ unit < 0xE000 then
    ([Char.ofNat (0x10000 + (half - 0xD800) * 0x400 + (unit - 0xDC00))], 0)
  else if 0xD800 ≤ unit ∧ unit < 0xDC00 then (lone, unit)
  else if 0xDC00 ≤ unit ∧ unit < 0xE000 then (lone ++ ['\ufffd'], 0)
  else (lone ++ [Char.ofNat unit], 0)

/-- What is read after one more digit of a run, and the run then. -/
def ShiftedRun.next (r : ShiftedRun) (b : UInt8) (digit : Nat) : List Char × ShiftedRun :=
  let bits := r.bits + 6
  let waiting := r.waiting * 64 + digit
  let r := { r with read := b :: r.read }
  if bits < 16 then ([], { r with bits, waiting })
  else
    let rest := bits - 16
    let (text, half) := addUnit r.half (waiting / Nat.pow 2 rest)
    (text, { r with bits := rest, waiting := waiting % Nat.pow 2 rest, half })

/-- What is wrong with the end of a run at a byte, if anything is. -/
def ShiftedRun.ending? (r : ShiftedRun) : Option String :=
  if 6 ≤ r.bits then some "partial character in shift sequence"
  else if r.waiting ≠ 0 then some "non-zero padding bits in shift sequence"
  else none

/-- The text of bytes from some place on, in a shifted run or outside of runs. -/
def utf7From : Nat → Option ShiftedRun → List UInt8 → Decoded
  | _, none, [] => .ok []
  | _, some r, [] =>
    if r.half ≠ 0 || r.ending?.isSome then .error (r.fault none "unterminated shift sequence")
    else .ok []
  | at_, none, 0x2B :: 0x2D :: rest => .cons '+' (utf7From (at_ + 2) none rest)
  | at_, none, b :: rest =>
    if b = 0x2B then
      match rest.head?.filter fun c => (sextet? c).isNone with
      | some c => .error ⟨"utf7", at_, [b, c], "ill-formed sequence"⟩
      | none => utf7From (at_ + 1) (some ⟨at_, [b], 0, 0, 0⟩) rest
    else if b < 0x80 then .cons (Char.ofNat b.toNat) (utf7From (at_ + 1) none rest)
    else .error ⟨"utf7", at_, [b], "unexpected special character"⟩
  | at_, some r, b :: rest =>
    match sextet? b, r.ending? with
    | some digit, _ =>
      let (text, r) := r.next b digit
      (utf7From (at_ + 1) (some r) rest).map (text ++ ·)
    | none, some reason => .error (r.fault (some b) reason)
    | none, none =>
      if b = 0x2D then utf7From (at_ + 1) none rest
      else if b < 0x80 then .cons (Char.ofNat b.toNat) (utf7From (at_ + 1) none rest)
      else .error ⟨"utf7", at_, [b], "unexpected special character"⟩

/-- The text of bytes in UTF-7. -/
def decodeUtf7 (bytes : List UInt8) : Decoded := utf7From 0 none bytes

end Stencil.Text
