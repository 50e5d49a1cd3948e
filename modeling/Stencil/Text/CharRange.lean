/-!
# Sets of characters given by ranges

A character class of a standard is a table: an increasing list of closed intervals of code
points. This module has the one operation on such a table, membership.

- `contains_iff`: membership in a table is membership in one of its intervals.
-/

namespace Stencil.Text

/-- A set of code points as closed intervals `(first, last)`, in increasing order. -/
abbrev CharRanges := List (Nat × Nat)

namespace CharRanges

/-- Whether one of the intervals holds the code point. The search stops at the first interval
that starts beyond it. -/
def holds (n : Nat) : CharRanges → Bool
  | [] => false
  | (lo, hi) :: rest => if n < lo then false else n ≤ hi || holds n rest

/-- Whether the character belongs to the set. -/
def contains (ranges : CharRanges) (c : Char) : Bool := holds c.toNat ranges

/-- A table whose intervals are in order, each beginning after the one before it ends. -/
def Increasing (ranges : CharRanges) : Prop :=
  ranges.Pairwise fun a b => a.1 ≤ b.1

theorem contains_iff {ranges : CharRanges} (h : ranges.Increasing) (c : Char) :
    ranges.contains c = true ↔ ∃ r ∈ ranges, r.1 ≤ c.toNat ∧ c.toNat ≤ r.2 := by
  unfold contains
  generalize c.toNat = n
  induction ranges with
  | nil => simp [holds]
  | cons r rest ih =>
    obtain ⟨lo, hi⟩ := r
    have hRest : ∀ b ∈ rest, lo ≤ b.1 := (List.pairwise_cons.mp h).1
    simp only [holds]
    split
    · rename_i hLow
      constructor
      · intro hFalse
        cases hFalse
      · rintro ⟨r, hMem, hBounds⟩
        rcases List.mem_cons.mp hMem with rfl | hMem
        · simp only at hBounds
          omega
        · have := hRest r hMem
          omega
    · rename_i hLow
      simp only [Bool.or_eq_true, decide_eq_true_eq, ih (List.pairwise_cons.mp h).2,
        List.mem_cons]
      constructor
      · rintro (hHi | ⟨r, hMem, hBounds⟩)
        · exact ⟨(lo, hi), Or.inl rfl, by simp only; omega, hHi⟩
        · exact ⟨r, Or.inr hMem, hBounds⟩
      · rintro ⟨r, rfl | hMem, hBounds⟩
        · exact Or.inl hBounds.2
        · exact Or.inr ⟨r, hMem, hBounds⟩

end CharRanges

end Stencil.Text
