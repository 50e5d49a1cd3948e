import Stencil.Proofs.Template.Brackets

/-!
# What stripping takes away

Stripping removes a part of a text that is made of blank-line characters, and puts what was on
either side of it together. After the part that is taken from the end of a text there is nothing
left, or one line feed, so the pieces that are put together cannot make up brackets.

After a tag the groups are taken one by one from the front. They end at the first character that is
not in a group, so what is taken from a text before a tag is not changed by the tag.

* `stripTrailing_spec`: what is kept and what is removed, put back, give the text.
* `PutBack.plain`: what is kept of a plain text is plain.
* `stripLeading_append_stop`: stripping does not look past a character outside of blank lines.
-/

namespace Stencil.Template

open Text

/-- A character of a blank-line group. -/
def Strippable (c : Char) : Prop := c = ' ' ∨ c = '\t' ∨ c = '\r' ∨ c = '\n'

theorem strippable_of_isPad {c : Char} (h : isPad c = true) : Strippable c := by
  simp only [isPad, Bool.or_eq_true, decide_eq_true_eq] at h
  rcases h with h | h
  · exact Or.inl h
  · exact Or.inr (Or.inl h)

theorem strippable_of_mem_takeWhile {c : Char} {s : List Char} (h : c ∈ s.takeWhile isPad) :
    Strippable c :=
  strippable_of_isPad (List.all_eq_true.mp List.all_takeWhile c h)

theorem strippable_lineFeed : Strippable '\n' := Or.inr (Or.inr (Or.inr rfl))

theorem strippable_return : Strippable '\r' := Or.inr (Or.inr (Or.inl rfl))

/-! ## Before a tag -/

theorem breakAndPad?_spec {s group rest : List Char} (h : breakAndPad? s = some (group, rest)) :
    group ++ rest = s ∧ ∀ c ∈ group, Strippable c := by
  unfold breakAndPad? at h
  split at h
  · rename_i s
    cases h
    refine ⟨by simp [List.takeWhile_append_dropWhile], ?_⟩
    intro c hc
    rcases List.mem_cons.mp hc with rfl | hc
    · exact strippable_lineFeed
    · exact strippable_of_mem_takeWhile hc
  · rename_i s
    cases h
    refine ⟨by simp [List.takeWhile_append_dropWhile], ?_⟩
    intro c hc
    rcases List.mem_cons.mp hc with rfl | hc
    · exact strippable_return
    · rcases List.mem_cons.mp hc with rfl | hc
      · exact strippable_lineFeed
      · exact strippable_of_mem_takeWhile hc
  · cases h

theorem atEnd_iff {s : List Char} : atEnd s = true ↔ s = [] ∨ s = ['\n'] := by
  simp [atEnd]

theorem stop_spec {s run left : List Char}
    (h : (if atEnd s then some (([] : List Char), s) else none) = some (run, left)) :
    run ++ left = s ∧ (left = [] ∨ left = ['\n']) ∧ ∀ c ∈ run, Strippable c := by
  split at h
  · rename_i hEnd
    cases h
    exact ⟨rfl, atEnd_iff.mp hEnd, by simp⟩
  · cases h

/-- A run of groups to the end is made of blank-line characters, and at most one line feed is left
after it. -/
theorem groupsToEnd?_spec {n : Nat} {s run left : List Char}
    (h : groupsToEnd? n s = some (run, left)) :
    run ++ left = s ∧ (left = [] ∨ left = ['\n']) ∧ ∀ c ∈ run, Strippable c := by
  induction n generalizing s run left with
  | zero => exact stop_spec h
  | succ n ih =>
    unfold groupsToEnd? at h
    split at h
    · exact stop_spec h
    · rename_i group rest hGroup
      obtain ⟨hSplit, hPads⟩ := breakAndPad?_spec hGroup
      split at h
      · rename_i run' left' hRun
        cases h
        obtain ⟨hRest, hLeft, hRunPads⟩ := ih hRun
        refine ⟨by rw [List.append_assoc, hRest, hSplit], hLeft, ?_⟩
        intro c hc
        rcases List.mem_append.mp hc with hc | hc
        · exact hPads c hc
        · exact hRunPads c hc
      · exact stop_spec h

/-- What was removed stood at the end of what is kept, or just before its final line feed, and is
made of blank-line characters. -/
structure PutBack (kept removed text : List Char) : Prop where
  place : text = kept ++ removed ∨ ∃ s, kept = s ++ ['\n'] ∧ text = s ++ removed ++ ['\n']
  strippable : ∀ c ∈ removed, Strippable c

theorem putBack_nothing (text : List Char) : PutBack text [] text :=
  ⟨Or.inl (List.append_nil text).symm, by simp⟩

theorem PutBack.cons {kept removed text : List Char} (c : Char) (h : PutBack kept removed text) :
    PutBack (c :: kept) removed (c :: text) := by
  refine ⟨?_, h.strippable⟩
  rcases h.place with rfl | ⟨s, rfl, rfl⟩
  · exact Or.inl rfl
  · exact Or.inr ⟨c :: s, rfl, rfl⟩

theorem cutToEnd_spec (n : Nat) (text : List Char) :
    PutBack (cutToEnd n text).1 (cutToEnd n text).2 text := by
  induction text with
  | nil => exact putBack_nothing []
  | cons c s ih =>
    unfold cutToEnd
    split
    · rename_i run left h
      obtain ⟨hSplit, hLeft, hRun⟩ := groupsToEnd?_spec h
      refine ⟨?_, hRun⟩
      rcases hLeft with rfl | rfl
      · exact Or.inl (by simpa using hSplit.symm)
      · exact Or.inr ⟨[], rfl, by simpa using hSplit.symm⟩
    · exact ih.cons c

/-- What is kept and what is removed, put back, give the text. -/
theorem stripTrailing_spec (m : Marker) (text : List Char) :
    PutBack (stripTrailing m text).1 (stripTrailing m text).2 text := by
  unfold stripTrailing
  split
  · exact putBack_nothing text
  · exact cutToEnd_spec _ text

/-- A line feed at the end cannot make up brackets. -/
theorem plain_snoc {s : List Char} (h : Plain s) : Plain (s ++ ['\n']) := by
  have hNo : ∀ b : Char, b ≠ '\n' → ¬ [b, b] <:+: s → ¬ [b, b] <:+: s ++ ['\n'] := by
    rintro b hb hs ⟨u, v, huv⟩
    rcases List.eq_nil_or_concat v with rfl | ⟨v, c, rfl⟩
    · have hLast := congrArg List.getLast? huv
      simp at hLast
      exact hb hLast
    · rw [List.concat_eq_append, ← List.append_assoc] at huv
      exact hs ⟨u, v, List.append_inj_left' huv rfl⟩
  exact ⟨hNo '[' (by decide) h.noOpen, hNo ']' (by decide) h.noClose⟩

theorem PutBack.plain {kept removed text : List Char} (h : PutBack kept removed text)
    (hText : Plain text) : Plain kept := by
  rcases h.place with rfl | ⟨s, rfl, rfl⟩
  · exact hText.of_infix (List.prefix_append kept removed).isInfix
  · apply plain_snoc
    apply hText.of_infix
    rw [List.append_assoc]
    exact (List.prefix_append s _).isInfix

theorem PutBack.newlines_eq {kept removed text : List Char} (h : PutBack kept removed text) :
    newlines text = newlines kept + newlines removed := by
  rcases h.place with rfl | ⟨s, rfl, rfl⟩
  · rw [newlines_append]
  · simp only [newlines_append]
    omega

/-! ## After a tag -/

theorem padAndBreak?_strippable {s group rest : List Char}
    (h : padAndBreak? s = some (group, rest)) : ∀ c ∈ group, Strippable c := by
  unfold padAndBreak? at h
  split at h
  · cases h
    intro c hc
    rcases List.mem_append.mp hc with hc | hc
    · exact strippable_of_mem_takeWhile hc
    · rw [List.mem_singleton.mp hc]
      exact strippable_lineFeed
  · cases h
    intro c hc
    rcases List.mem_append.mp hc with hc | hc
    · exact strippable_of_mem_takeWhile hc
    · rcases List.mem_cons.mp hc with rfl | hc
      · exact strippable_return
      · rw [List.mem_singleton.mp hc]
        exact strippable_lineFeed
  · cases h

theorem takeGroups_strippable (n : Nat) (s : List Char) :
    ∀ c ∈ (takeGroups n s).1, Strippable c := by
  induction n generalizing s with
  | zero => simp [takeGroups]
  | succ n ih =>
    unfold takeGroups
    split
    · simp
    · rename_i group rest h
      intro c hc
      rcases List.mem_append.mp hc with hc | hc
      · exact padAndBreak?_strippable h c hc
      · exact ih rest c hc

theorem padAndBreak?_length_lt {s group rest : List Char}
    (h : padAndBreak? s = some (group, rest)) : rest.length < s.length := by
  have hSplit := congrArg List.length (padAndBreak?_append h)
  have hGroup : group ≠ [] := by
    unfold padAndBreak? at h
    split at h
    · cases h
      simp
    · cases h
      simp
    · cases h
  have hPos := List.length_pos_iff.mpr hGroup
  simp only [List.length_append] at hSplit
  omega

theorem takeGroups_nil (n : Nat) : takeGroups n [] = ([], []) := by
  cases n with
  | zero => rfl
  | succ n => rfl

/-- Each group takes a character or more, so all bounds from the length of the text on have the same
effect. -/
theorem takeGroups_of_length_le {n m : Nat} {s : List Char} (hn : s.length ≤ n)
    (hm : s.length ≤ m) : takeGroups n s = takeGroups m s := by
  induction n generalizing s m with
  | zero =>
    rw [List.length_eq_zero_iff.mp (Nat.le_zero.mp hn), takeGroups_nil, takeGroups_nil]
  | succ n ih =>
    cases m with
    | zero =>
      rw [List.length_eq_zero_iff.mp (Nat.le_zero.mp hm), takeGroups_nil, takeGroups_nil]
    | succ m =>
      simp only [takeGroups]
      split
      · rfl
      · rename_i group rest h
        have hLength := padAndBreak?_length_lt h
        rw [ih (s := rest) (m := m) (by omega) (by omega)]

theorem stripLeading_strippable (m : Marker) (s : List Char) :
    ∀ c ∈ (stripLeading m s).1, Strippable c :=
  takeGroups_strippable _ s

/-! ### Up to a character that is not stripped -/

section Stop

variable {c : Char} (hc : ¬ Strippable c)

include hc

theorem isPad_eq_false_of_stop : isPad c = false := by
  cases h : isPad c with
  | false => rfl
  | true => exact absurd (strippable_of_isPad h) hc

theorem padAndBreak?_append_stop (s rest : List Char) :
    padAndBreak? (s ++ c :: rest) =
      (padAndBreak? s).map fun r => (r.1, r.2 ++ c :: rest) := by
  have hPad := isPad_eq_false_of_stop hc
  have hDrop : (s ++ c :: rest).dropWhile isPad = s.dropWhile isPad ++ c :: rest := by
    rw [List.dropWhile_append]
    split
    · rename_i hEmpty
      rw [List.isEmpty_iff.mp hEmpty, List.dropWhile_cons_of_neg (by simp [hPad])]
      rfl
    · rfl
  have hTake : (s ++ c :: rest).takeWhile isPad = s.takeWhile isPad := by
    rw [List.takeWhile_append]
    split
    · rename_i hAll
      have hEq : s.takeWhile isPad = s :=
        (List.takeWhile_prefix isPad).eq_of_length hAll
      rw [List.takeWhile_cons_of_neg (by simp [hPad]), List.append_nil, hEq]
    · rfl
  have hFeed : c ≠ '\n' := fun h => hc (h ▸ strippable_lineFeed)
  have hReturn : c ≠ '\r' := fun h => hc (h ▸ strippable_return)
  unfold padAndBreak?
  rw [hDrop, hTake]
  rcases s.dropWhile isPad with _ | ⟨d, _ | ⟨e, u⟩⟩
  · simp [hFeed, hReturn]
  · by_cases hd : d = '\n'
    · simp [hd]
    · simp [hd, hFeed]
  · by_cases hd : d = '\n'
    · simp [hd]
    · by_cases hReturned : d = '\r'
      · by_cases he : e = '\n'
        · simp [hReturned, he]
        · simp [hReturned, he]
      · simp [hd, hReturned]

theorem takeGroups_append_stop (n : Nat) (s rest : List Char) :
    takeGroups n (s ++ c :: rest) = ((takeGroups n s).1, (takeGroups n s).2 ++ c :: rest) := by
  induction n generalizing s with
  | zero => rfl
  | succ n ih =>
    simp only [takeGroups, padAndBreak?_append_stop hc]
    cases padAndBreak? s with
    | none => rfl
    | some r => simp only [Option.map_some, ih]

/-- Stripping does not look past a character outside of blank lines. -/
theorem stripLeading_append_stop (m : Marker) (s rest : List Char) :
    stripLeading m (s ++ c :: rest) =
      ((stripLeading m s).1, (stripLeading m s).2 ++ c :: rest) := by
  unfold stripLeading
  rw [takeGroups_append_stop hc]
  cases m with
  | hyphens n => rfl
  | plus =>
    rw [takeGroups_of_length_le (n := Marker.plus.limit (s ++ c :: rest).length)
      (m := Marker.plus.limit s.length) (by simp [Marker.limit]) (by simp [Marker.limit])]

end Stop

end Stencil.Template
