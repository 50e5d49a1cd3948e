import Stencil.Proofs.Script.Lexing

/-!
# Literals

A text is written between single quotes on one line, and can be read back. The only characters that
could end the literal early are a quote and a backslash at the wrong place, and the writer puts a
backslash in front of both. So every escape is whole where the next character begins, and a quote
within the literal is always behind a backslash that counts.

* `escapesNext`, `BareQuoteAt`: which quotes of a literal are escaped.
* `readLiteral?`: a reader that knows no more than the escapes of literals.
* `escapeLiteral_roundTrip`: a literal is on one line, its only bare quotes are those around it, and
  both this reader and the language read it back.
-/

namespace Stencil.Script

open Text Program

/-! ## Escaped quotes -/

/-- Whether the character after a text is escaped: it stands behind a backslash that is not escaped
itself. -/
def escapesNext (s : List Char) : Bool := s.foldl (fun escaped c => !escaped && c = '\\') false

/-- A text has a single quote at a place, and the quote is not escaped. -/
def BareQuoteAt (s : List Char) (k : Nat) : Prop :=
  s[k]? = some '\'' ∧ escapesNext (s.take k) = false

/-- A text after which nothing is escaped does not matter for what comes behind it. -/
theorem escapesNext_append {s : List Char} (h : escapesNext s = false) (t : List Char) :
    escapesNext (s ++ t) = escapesNext t := by
  unfold escapesNext at h ⊢
  rw [List.foldl_append, h]

theorem escapesNext_escapeChar (c : Char) : escapesNext (escapeChar c) = false := by
  cases c using escapeChar_cases with
  | slash | quote | lineFeed | carriageReturn | null => decide
  | other c hSlash _ _ _ _ hEq => simp [hEq, escapesNext, hSlash]

theorem escapesNext_flatMap (text : List Char) :
    escapesNext (text.flatMap escapeChar) = false := by
  induction text with
  | nil => rfl
  | cons c text ih => rw [List.flatMap_cons, escapesNext_append (escapesNext_escapeChar c), ih]

/-- A quote in an escaped character is behind a backslash. -/
theorem escapesNext_take_escapeChar {c : Char} {k : Nat} (h : (escapeChar c)[k]? = some '\'') :
    escapesNext ((escapeChar c).take k) = true := by
  cases c using escapeChar_cases with
  | quote =>
    -- The quote is the second of the two characters.
    match k, h with
    | 0, h => exact absurd h (by decide)
    | 1, _ => rfl
  | slash | lineFeed | carriageReturn | null =>
    exact absurd (List.mem_of_getElem? h) (by decide)
  | other c _ hQuote _ _ _ hEq =>
    rw [hEq] at h
    exact absurd (List.mem_singleton.mp (List.mem_of_getElem? h)).symm hQuote

/-- A quote in an escaped text is behind a backslash that is not escaped itself. -/
theorem escapesNext_take_flatMap {text : List Char} {k : Nat}
    (h : (text.flatMap escapeChar)[k]? = some '\'') :
    escapesNext ((text.flatMap escapeChar).take k) = true := by
  induction text generalizing k with
  | nil => cases h
  | cons c text ih =>
    rw [List.flatMap_cons] at h ⊢
    by_cases hk : k < (escapeChar c).length
    · rw [List.getElem?_append_left hk] at h
      rw [List.take_append_of_le_length (Nat.le_of_lt hk)]
      exact escapesNext_take_escapeChar h
    · have hk := Nat.le_of_not_lt hk
      rw [List.getElem?_append_right hk] at h
      rw [List.take_append, List.take_of_length_le hk,
        escapesNext_append (escapesNext_escapeChar c)]
      exact ih h

/-- The bare quotes of a literal are the two around it. -/
theorem bareQuoteAt_escapeLiteral (text : List Char) (k : Nat) :
    BareQuoteAt (escapeLiteral text) k ↔ k = 0 ∨ k + 1 = (escapeLiteral text).length := by
  have hLength : (escapeLiteral text).length = (text.flatMap escapeChar).length + 2 := by
    simp [escapeLiteral]
  -- The opening quote escapes nothing.
  have hOpen : ∀ s : List Char, escapesNext ('\'' :: s) = escapesNext s := fun _ => rfl
  rw [hLength]
  unfold BareQuoteAt escapeLiteral
  cases k with
  | zero => simp [escapesNext]
  | succ k =>
    rw [List.cons_append, List.getElem?_cons_succ, List.take_succ_cons, hOpen]
    rcases Nat.lt_trichotomy k (text.flatMap escapeChar).length with hk | hk | hk
    · rw [List.getElem?_append_left hk, List.take_append_of_le_length (Nat.le_of_lt hk)]
      constructor
      · rintro ⟨hQuote, hBare⟩
        rw [escapesNext_take_flatMap hQuote] at hBare
        cases hBare
      · omega
    · rw [hk, List.getElem?_concat_length, List.take_left, escapesNext_flatMap]
      simp
    · have hOut : (text.flatMap escapeChar ++ ['\''])[k]? = none :=
        List.getElem?_eq_none (by rw [List.length_append, List.length_singleton]; omega)
      rw [hOut]
      constructor
      · rintro ⟨hQuote, -⟩
        cases hQuote
      · omega

/-! ## Reading back -/

/-- Reads a text up to the quote that ends it, and gives it with what comes after the quote. The
escapes are those of the backslash, the single quote and the two line break characters, and the one
of two hexadecimal digits. No line may end within the text. -/
def readText? : List Char → Option (List Char × List Char)
  | '\'' :: s => some ([], s)
  | '\\' :: '\\' :: s => (readText? s).map fun (text, rest) => ('\\' :: text, rest)
  | '\\' :: '\'' :: s => (readText? s).map fun (text, rest) => ('\'' :: text, rest)
  | '\\' :: 'n' :: s => (readText? s).map fun (text, rest) => ('\n' :: text, rest)
  | '\\' :: 'r' :: s => (readText? s).map fun (text, rest) => ('\r' :: text, rest)
  | '\\' :: 'x' :: high :: low :: s => do
    let high ← digitValue? high
    let low ← digitValue? low
    (readText? s).map fun (text, rest) => (Char.ofNat (high * 16 + low) :: text, rest)
  | '\\' :: _ => none
  | '\n' :: _ => none
  | '\r' :: _ => none
  | '\x00' :: _ => none
  | c :: s => (readText? s).map fun (text, rest) => (c :: text, rest)
  | [] => none

/-- Reads a text between single quotes, and gives it with what comes after it. -/
def readLiteral? : List Char → Option (List Char × List Char)
  | '\'' :: s => readText? s
  | _ => none

/-- An escaped character is read as the character, whatever comes after it. -/
theorem readText?_escapeChar (c : Char) (s : List Char) :
    readText? (escapeChar c ++ s) = (readText? s).map fun (text, rest) => (c :: text, rest) := by
  cases c using escapeChar_cases with
  | slash => rfl
  | quote => rfl
  | lineFeed => rfl
  | carriageReturn => rfl
  | null => rfl
  | other c hSlash hQuote hFeed hReturn hNull hEq =>
    rw [hEq, List.singleton_append, readText?]
    all_goals simp_all

theorem readText?_flatMap (text s : List Char) :
    readText? (text.flatMap escapeChar ++ '\'' :: s) = some (text, s) := by
  induction text with
  | nil => rfl
  | cons c text ih =>
    rw [List.flatMap_cons, List.append_assoc, readText?_escapeChar, ih, Option.map_some]

theorem readLiteral?_escapeLiteral (text : List Char) :
    readLiteral? (escapeLiteral text) = some (text, []) :=
  readText?_flatMap text []

/-- **A literal is on one line, its only bare quotes are those around it, and it is read back.** It
has no line feed, no carriage return and no null character. The reader of these escapes consumes it
and gives its text, and so does the language, wherever a token can start. -/
theorem escapeLiteral_roundTrip (text : List Char) :
    ('\n' ∉ escapeLiteral text ∧ '\r' ∉ escapeLiteral text ∧ '\x00' ∉ escapeLiteral text) ∧
      (∀ k, BareQuoteAt (escapeLiteral text) k ↔ k = 0 ∨ k + 1 = (escapeLiteral text).length) ∧
      readLiteral? (escapeLiteral text) = some (text, []) ∧
      ∀ r : Reading, ({ r with mode := .between } : Reading).run (escapeLiteral text) =
        { r with
          lexemes := ⟨.text text, r.row⟩ :: r.lexemes, tokenRow := r.row, mode := .between } :=
  ⟨⟨escapeLiteral_unbroken text, clean_escapeLiteral text⟩, bareQuoteAt_escapeLiteral text,
    readLiteral?_escapeLiteral text, fun _ => Reading.run_escapeLiteral rfl text⟩

end Stencil.Script
