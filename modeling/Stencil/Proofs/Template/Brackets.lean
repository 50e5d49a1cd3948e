import Stencil.Template.Segment

/-!
# Texts without double brackets

The reading of a template refuses double brackets in its literal texts and inside its tags. This
module says what the searches for brackets decide: they find nothing exactly in the texts that have
no double bracket as a part.

* `strayBrackets?_eq_none_iff`, `swallowedBrackets?_eq_none_iff`: nothing is found in a text, or
  inside a tag, exactly if it is `Plain`.
* `ahead_text_spec`, `ahead_tagged_spec`: what a reading has ahead of it is made of plain texts.
-/

namespace Stencil.Template

open Text

/-! ## The search for a part -/

theorem findText?_eq_none_iff {part s : List Char} :
    findText? part s = none ↔ ¬ part <:+: s := by
  induction s with
  | nil =>
    simp only [findText?, List.infix_nil]
    split
    · rename_i h
      simp [h]
    · rename_i h
      simp [h]
  | cons c s ih =>
    simp only [findText?, List.infix_cons_iff, ← List.isPrefixOf_iff_prefix]
    split
    · rename_i h
      simp [h]
    · rename_i h
      simp [h, ih]

/-- A text that has neither opening nor closing double brackets. -/
structure Plain (s : List Char) : Prop where
  noOpen : ¬ openBrackets <:+: s
  noClose : ¬ closeBrackets <:+: s

theorem plain_iff {s : List Char} :
    Plain s ↔ findText? openBrackets s = none ∧ findText? closeBrackets s = none := by
  rw [findText?_eq_none_iff, findText?_eq_none_iff]
  exact ⟨fun h => ⟨h.noOpen, h.noClose⟩, fun h => ⟨h.1, h.2⟩⟩

instance (s : List Char) : Decidable (Plain s) := decidable_of_iff' _ plain_iff

/-- Each part of a plain text is plain. -/
theorem Plain.of_infix {s t : List Char} (h : Plain t) (hs : s <:+: t) : Plain s :=
  ⟨fun hOpen => h.noOpen (hOpen.trans hs), fun hClose => h.noClose (hClose.trans hs)⟩

theorem strayBrackets?_eq_none_iff {text : List Char} :
    strayBrackets? text = none ↔ Plain text := by
  unfold strayBrackets?
  constructor
  · intro h
    split at h
    · cases h
    · rename_i hOpen
      rw [Option.map_eq_none_iff] at h
      exact ⟨findText?_eq_none_iff.mp hOpen, findText?_eq_none_iff.mp h⟩
  · intro h
    rw [findText?_eq_none_iff.mpr h.noOpen]
    simp only [findText?_eq_none_iff.mpr h.noClose, Option.map_none]

theorem swallowedBrackets?_eq_none_iff {tag : Tag} {rest : List Char} :
    swallowedBrackets? tag rest = none ↔ Plain tag.inner := by
  unfold swallowedBrackets?
  constructor
  · intro h
    split at h
    · cases h
    · rename_i hClose
      rw [Option.map_eq_none_iff] at h
      exact ⟨findText?_eq_none_iff.mp h, findText?_eq_none_iff.mp hClose⟩
  · intro h
    rw [findText?_eq_none_iff.mpr h.noClose]
    simp only [findText?_eq_none_iff.mpr h.noOpen, Option.map_none]

/-! ## What lies ahead -/

theorem ahead_eq_of_plain {s text : List Char} (hs : s ≠ []) (hCut : cut s = .plain text)
    (hText : Plain text) : ahead s = .text text := by
  cases s with
  | nil => exact absurd rfl hs
  | cons c s => simp [ahead, hCut, strayBrackets?_eq_none_iff.mpr hText]

theorem ahead_eq_of_tagged {s text rest : List Char} {tag : Tag}
    (hCut : cut s = .tagged text tag rest) (hText : Plain text) (hInner : Plain tag.inner) :
    ahead s = .tagged text tag rest := by
  cases s with
  | nil => cases hCut
  | cons c s =>
    simp [ahead, hCut, strayBrackets?_eq_none_iff.mpr hText,
      swallowedBrackets?_eq_none_iff.mpr hInner]

/-- Text that reaches the end of the template is all that was left, and is plain. -/
theorem ahead_text_spec {s text : List Char} (h : ahead s = .text text) :
    text = s ∧ s ≠ [] ∧ Plain text := by
  unfold ahead at h
  split at h
  · cases h
  · rename_i c s
    have hCut := cut_append (c :: s)
    split at h
    · rename_i text' hEq
      rw [hEq] at hCut
      split at h
      · cases h
      · rename_i hStray
        cases h
        exact ⟨hCut, List.cons_ne_nil c s, strayBrackets?_eq_none_iff.mp hStray⟩
    · split at h
      · cases h
      · split at h <;> cases h

/-- Text and tag ahead are plain, inside and out, and nothing is lost. -/
theorem ahead_tagged_spec {s text rest : List Char} {tag : Tag}
    (h : ahead s = .tagged text tag rest) :
    text ++ tag.written ++ rest = s ∧ Plain text ∧ Plain tag.inner := by
  refine ⟨ahead_tagged h, ?_⟩
  unfold ahead at h
  split at h
  · cases h
  · split at h
    · split at h <;> cases h
    · split at h
      · cases h
      · rename_i hStray
        split at h
        · cases h
        · rename_i hSwallowed
          cases h
          exact ⟨strayBrackets?_eq_none_iff.mp hStray,
            swallowedBrackets?_eq_none_iff.mp hSwallowed⟩

theorem ahead_nothing_spec {s : List Char} (h : ahead s = .nothing) : s = [] := by
  unfold ahead at h
  split at h
  · rfl
  · split at h
    · split at h <;> cases h
    · split at h
      · cases h
      · split at h <;> cases h

end Stencil.Template
