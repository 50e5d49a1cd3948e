/-!
# Patterns of texts

Regular expressions over characters. A pattern is matched against a text by its derivatives: what is
left of the pattern after the first character has to match the rest of the text.

- `Pattern.accepts_iff`: the test by derivatives accepts the texts of a pattern and no others.
-/

namespace Stencil.Text

/-- A regular expression. -/
inductive Pattern where
  /-- No text. -/
  | nothing
  /-- The empty text. -/
  | empty
  /-- A single character of some kind. -/
  | char (kind : Char → Bool)
  /-- A text of the first and then one of the second. -/
  | seq (p q : Pattern)
  /-- A text of the first or one of the second. -/
  | either (p q : Pattern)
  /-- Any number of texts, one after the other. -/
  | many (p : Pattern)

namespace Pattern

/-- The texts of a pattern. -/
inductive Matches : Pattern → List Char → Prop where
  | empty : Matches .empty []
  | char {kind : Char → Bool} {c : Char} (h : kind c = true) : Matches (.char kind) [c]
  | seq {p q : Pattern} {s t : List Char} (hs : Matches p s) (ht : Matches q t) :
    Matches (.seq p q) (s ++ t)
  | left {p q : Pattern} {s : List Char} (h : Matches p s) : Matches (.either p q) s
  | right {p q : Pattern} {s : List Char} (h : Matches q s) : Matches (.either p q) s
  | done {p : Pattern} : Matches (.many p) []
  | more {p : Pattern} {s t : List Char} (hs : Matches p s) (ht : Matches (.many p) t) :
    Matches (.many p) (s ++ t)

/-- Whether a pattern has the empty text. -/
def nullable : Pattern → Bool
  | nothing => false
  | empty => true
  | char _ => false
  | seq p q => p.nullable && q.nullable
  | either p q => p.nullable || q.nullable
  | many _ => true

/-- One pattern after another, written as briefly as possible. -/
def followed : Pattern → Pattern → Pattern
  | nothing, _ => nothing
  | empty, q => q
  | p, q => seq p q

/-- One pattern or another, written as briefly as possible. -/
def orElse : Pattern → Pattern → Pattern
  | nothing, q => q
  | p, nothing => p
  | p, q => either p q

/-- What is left of a pattern after a character. -/
def derive (c : Char) : Pattern → Pattern
  | nothing => nothing
  | empty => nothing
  | char kind => if kind c then empty else nothing
  | seq p q =>
    if p.nullable then orElse (followed (p.derive c) q) (q.derive c)
    else followed (p.derive c) q
  | either p q => orElse (p.derive c) (q.derive c)
  | many p => followed (p.derive c) (many p)

/-- Whether a text is one of a pattern. -/
def accepts : Pattern → List Char → Bool
  | p, [] => p.nullable
  | p, c :: s => (p.derive c).accepts s

/-! ## What is built from patterns -/

/-- A single given character. -/
def one (c : Char) : Pattern := char (· = c)

/-- One of some characters. -/
def oneOf (s : String) : Pattern := char fun c => s.toList.contains c

/-- A given text. -/
def literal (s : String) : Pattern := s.toList.foldr (fun c p => followed (one c) p) empty

/-- One of some texts. -/
def anyOf (texts : List String) : Pattern := texts.foldr (fun s p => orElse (literal s) p) nothing

/-- A pattern or nothing. -/
def optional (p : Pattern) : Pattern := either empty p

/-- A pattern at least once. -/
def some (p : Pattern) : Pattern := seq p (many p)

/-- Patterns one after the other. -/
def all (ps : List Pattern) : Pattern := ps.foldr seq empty

/-! ## Correctness -/

theorem nullable_iff (p : Pattern) : p.nullable = true ↔ Matches p [] := by
  constructor
  · intro h
    induction p with
    | nothing => cases h
    | empty => exact .empty
    | char kind => cases h
    | seq p q ihp ihq =>
      simp only [nullable, Bool.and_eq_true] at h
      exact (Matches.seq (ihp h.1) (ihq h.2) : Matches (.seq p q) ([] ++ []))
    | either p q ihp ihq =>
      simp only [nullable, Bool.or_eq_true] at h
      exact h.elim (fun h => .left (ihp h)) (fun h => .right (ihq h))
    | many p _ => exact .done
  · intro h
    generalize hs : ([] : List Char) = s at h
    induction h with
    | empty => rfl
    | char _ => cases hs
    | seq _ _ ihs iht =>
      obtain ⟨h1, h2⟩ := List.append_eq_nil_iff.1 hs.symm
      simp [nullable, ihs h1.symm, iht h2.symm]
    | left _ ih => simp [nullable, ih hs]
    | right _ ih => simp [nullable, ih hs]
    | done => rfl
    | more _ _ _ _ => rfl

theorem not_matches_nothing (s : List Char) : ¬ Matches .nothing s := fun h => nomatch h

theorem matches_seq_iff {p q : Pattern} {s : List Char} :
    Matches (.seq p q) s ↔ ∃ a b, s = a ++ b ∧ Matches p a ∧ Matches q b :=
  ⟨fun h => by cases h with | seq hs ht => exact ⟨_, _, rfl, hs, ht⟩,
    fun ⟨_, _, h, ha, hb⟩ => h ▸ .seq ha hb⟩

theorem matches_either_iff {p q : Pattern} {s : List Char} :
    Matches (.either p q) s ↔ Matches p s ∨ Matches q s :=
  ⟨fun h => by
    cases h with
    | left h => exact .inl h
    | right h => exact .inr h, fun h => h.elim .left .right⟩

theorem matches_empty_iff {s : List Char} : Matches .empty s ↔ s = [] :=
  ⟨fun h => by cases h; rfl, fun h => h ▸ .empty⟩

theorem matches_followed_iff {p q : Pattern} {s : List Char} :
    Matches (followed p q) s ↔ Matches (.seq p q) s := by
  unfold followed
  split
  · exact ⟨fun h => (not_matches_nothing s h).elim, fun h => by
      obtain ⟨a, _, _, ha, _⟩ := matches_seq_iff.1 h
      exact (not_matches_nothing a ha).elim⟩
  · rw [matches_seq_iff]
    constructor
    · exact fun h => ⟨[], s, rfl, .empty, h⟩
    · rintro ⟨a, b, rfl, ha, hb⟩
      rw [matches_empty_iff.1 ha]
      exact hb
  · exact Iff.rfl

theorem matches_orElse_iff {p q : Pattern} {s : List Char} :
    Matches (orElse p q) s ↔ Matches p s ∨ Matches q s := by
  unfold orElse
  split
  · exact ⟨.inr, fun h => h.resolve_left (not_matches_nothing s)⟩
  · exact ⟨.inl, fun h => h.resolve_right (not_matches_nothing s)⟩
  · exact matches_either_iff

/-- A text that is matched by a pattern any number of times and has a first character begins with a
match that has it. -/
theorem matches_many_cons {p : Pattern} {c : Char} {s : List Char}
    (h : Matches (.many p) (c :: s)) :
    ∃ a b, s = a ++ b ∧ Matches p (c :: a) ∧ Matches (.many p) b := by
  generalize hp : Pattern.many p = m at h
  generalize ht : c :: s = t at h
  induction h with
  | @more _ u t hs hrest _ ih =>
    cases hp
    cases u with
    | nil => exact ih rfl ht
    | cons d a =>
      obtain ⟨rfl, rfl⟩ := List.cons.inj ht
      exact ⟨a, t, rfl, hs, hrest⟩
  | done => cases ht
  | empty => cases hp
  | char _ => cases hp
  | seq _ _ _ _ => cases hp
  | left _ _ => cases hp
  | right _ _ => cases hp

theorem matches_seq_cons_iff {p q : Pattern} {c : Char} {s : List Char} :
    Matches (.seq p q) (c :: s) ↔
      (∃ a b, s = a ++ b ∧ Matches p (c :: a) ∧ Matches q b) ∨
        Matches p [] ∧ Matches q (c :: s) := by
  rw [matches_seq_iff]
  constructor
  · rintro ⟨a, b, h, ha, hb⟩
    cases a with
    | nil => exact .inr ⟨ha, by rw [h]; exact hb⟩
    | cons d a =>
      obtain ⟨rfl, rfl⟩ := List.cons.inj h
      exact .inl ⟨a, b, rfl, ha, hb⟩
  · rintro (⟨a, b, rfl, ha, hb⟩ | ⟨ha, hb⟩)
    · exact ⟨c :: a, b, rfl, ha, hb⟩
    · exact ⟨[], c :: s, rfl, ha, hb⟩

theorem matches_derive_iff (p : Pattern) (c : Char) (s : List Char) :
    Matches (p.derive c) s ↔ Matches p (c :: s) := by
  induction p generalizing s with
  | nothing =>
    exact ⟨fun h => (not_matches_nothing _ h).elim, fun h => (not_matches_nothing _ h).elim⟩
  | empty => exact ⟨fun h => (not_matches_nothing _ h).elim, fun h => nomatch h⟩
  | char kind =>
    by_cases hc : kind c = true
    · simp only [derive, hc, if_true, matches_empty_iff]
      exact ⟨fun h => h ▸ .char hc, fun h => by cases h; rfl⟩
    · simp only [derive, hc]
      exact ⟨fun h => (not_matches_nothing _ h).elim, fun h => by
        cases h with | char h => exact absurd h hc⟩
  | seq p q ihp ihq =>
    have hfirst : Matches (followed (p.derive c) q) s ↔
        ∃ a b, s = a ++ b ∧ Matches p (c :: a) ∧ Matches q b := by
      simp only [matches_followed_iff, matches_seq_iff, ihp]
    rw [matches_seq_cons_iff, ← nullable_iff, ← hfirst]
    by_cases hn : p.nullable = true
    · simp only [derive, hn, if_true, matches_orElse_iff, ihq, true_and]
    · simp only [derive, hn]
      simp
  | either p q ihp ihq =>
    simp only [derive, matches_orElse_iff, matches_either_iff, ihp, ihq]
  | many p ih =>
    simp only [derive, matches_followed_iff, matches_seq_iff, ih]
    constructor
    · rintro ⟨a, b, rfl, ha, hb⟩
      exact (Matches.more ha hb : Matches (.many p) ((c :: a) ++ b))
    · intro h
      obtain ⟨a, b, h, ha, hb⟩ := matches_many_cons h
      exact ⟨a, b, h, ha, hb⟩

/-- The test accepts the texts of a pattern and no others. -/
theorem accepts_iff (p : Pattern) (s : List Char) : p.accepts s = true ↔ Matches p s := by
  induction s generalizing p with
  | nil => exact nullable_iff p
  | cons c s ih => rw [accepts, ih, matches_derive_iff]

end Pattern

end Stencil.Text
