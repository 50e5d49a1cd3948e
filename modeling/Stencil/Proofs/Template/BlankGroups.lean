import Stencil.Proofs.Template.Stripping

/-!
# The groups that are stripped before a tag

Stripping before a tag looks for the first place in the text from which a limited number of
blank-line groups leads to the end. What it finds can be said without a search: the groups at the
end of the text are counted, and the marker removes the last of them, as many as it has hyphens.
There is one exception. If it does not take all groups and the last one is a line feed by itself,
this line feed stays and the groups in front of it are removed.

* `EndingGroups`: the groups at the end of a text, as many as there are.
* `groupsToEnd?_eq_some`, `groupsToEnd?_eq_none`: which groups lead to the end.
* `cutToEnd_flatten`: what is cut off some groups.
* `stripTrailing_removes_groups`: what is removed from any text.
-/

namespace Stencil.Template

open Text

/-! ## Groups -/

/-- A blank-line group: a line feed, with or without a carriage return in front of it, and the
spaces and tabs after it. -/
def IsGroup (g : List Char) : Prop :=
  ∃ pads, (∀ c ∈ pads, isPad c = true) ∧ (g = '\n' :: pads ∨ g = '\r' :: '\n' :: pads)

/-- A sequence of groups. -/
def AreGroups (gs : List (List Char)) : Prop := ∀ g ∈ gs, IsGroup g

theorem areGroups_nil : AreGroups [] := fun _ h => nomatch h

theorem areGroups_cons {g : List Char} {gs : List (List Char)} :
    AreGroups (g :: gs) ↔ IsGroup g ∧ AreGroups gs :=
  List.forall_mem_cons

theorem areGroups_append {gs hs : List (List Char)} :
    AreGroups (gs ++ hs) ↔ AreGroups gs ∧ AreGroups hs :=
  List.forall_mem_append

theorem isGroup_lineFeed : IsGroup ['\n'] := ⟨[], fun _ h => (nomatch h), .inl rfl⟩

theorem areGroups_lineFeed : AreGroups [['\n']] :=
  areGroups_cons.mpr ⟨isGroup_lineFeed, areGroups_nil⟩

theorem newlines_pads {pads : List Char} (h : ∀ c ∈ pads, isPad c = true) : newlines pads = 0 := by
  rw [newlines, List.count_eq_zero]
  intro hMem
  exact absurd (h _ hMem) (by decide)

theorem IsGroup.newlines_eq {g : List Char} (h : IsGroup g) : newlines g = 1 := by
  obtain ⟨pads, hPads, rfl | rfl⟩ := h
  · rw [newlines_cons, newlines_pads hPads, if_pos rfl]
  · rw [newlines_cons, newlines_cons, newlines_pads hPads, if_pos rfl, if_neg (by decide)]

/-- There are as many groups as line feeds. -/
theorem AreGroups.newlines_flatten {gs : List (List Char)} (h : AreGroups gs) :
    newlines gs.flatten = gs.length := by
  induction gs with
  | nil => rfl
  | cons g gs ih =>
    obtain ⟨hg, hgs⟩ := areGroups_cons.mp h
    rw [List.flatten_cons, newlines_append, hg.newlines_eq, ih hgs, List.length_cons, Nat.add_comm]

theorem AreGroups.length_le {gs : List (List Char)} (h : AreGroups gs) :
    gs.length ≤ gs.flatten.length := by
  rw [← h.newlines_flatten]
  exact List.count_le_length

/-- A text that starts with a space or a tab is no sequence of groups. -/
theorem AreGroups.dropWhile_flatten {gs : List (List Char)} (h : AreGroups gs) :
    gs.flatten.takeWhile isPad = [] ∧ gs.flatten.dropWhile isPad = gs.flatten := by
  cases gs with
  | nil => exact ⟨rfl, rfl⟩
  | cons g gs =>
    obtain ⟨pads, -, rfl | rfl⟩ := (areGroups_cons.mp h).1
    · exact ⟨rfl, rfl⟩
    · exact ⟨rfl, rfl⟩

theorem breakAndPad?_flatten {g : List Char} {gs : List (List Char)} (hg : IsGroup g)
    (hgs : AreGroups gs) : breakAndPad? (g ++ gs.flatten) = some (g, gs.flatten) := by
  obtain ⟨hTake, hDrop⟩ := hgs.dropWhile_flatten
  obtain ⟨pads, hPads, hEq⟩ := hg
  have hPadTake : (pads ++ gs.flatten).takeWhile isPad = pads := by
    rw [List.takeWhile_append_of_pos hPads, hTake, List.append_nil]
  have hPadDrop : (pads ++ gs.flatten).dropWhile isPad = gs.flatten := by
    rw [List.dropWhile_append_of_pos hPads, hDrop]
  rcases hEq with rfl | rfl
  · simp only [List.cons_append, breakAndPad?, hPadTake, hPadDrop]
  · simp only [List.cons_append, breakAndPad?, hPadTake, hPadDrop]

theorem isGroup_of_breakAndPad? {s g rest : List Char} (h : breakAndPad? s = some (g, rest)) :
    IsGroup g := by
  have hPads : ∀ s : List Char, ∀ c ∈ s.takeWhile isPad, isPad c = true :=
    fun s c hc => List.all_eq_true.mp List.all_takeWhile c hc
  unfold breakAndPad? at h
  split at h
  · cases h
    exact ⟨_, hPads _, .inl rfl⟩
  · cases h
    exact ⟨_, hPads _, .inr rfl⟩
  · cases h

/-- A text can be read as groups in one way only. -/
theorem AreGroups.eq_of_flatten_eq {gs hs : List (List Char)} (hgs : AreGroups gs)
    (hhs : AreGroups hs) (h : gs.flatten = hs.flatten) : gs = hs := by
  induction gs generalizing hs with
  | nil =>
    have hLength := hhs.length_le
    rw [← h] at hLength
    exact (List.length_eq_zero_iff.mp (Nat.le_zero.mp hLength)).symm
  | cons g gs ih =>
    obtain ⟨hg, hRest⟩ := areGroups_cons.mp hgs
    have hRead := breakAndPad?_flatten hg hRest
    rw [← List.flatten_cons, h] at hRead
    cases hs with
    | nil => cases hRead
    | cons k ks =>
      obtain ⟨hk, hks⟩ := areGroups_cons.mp hhs
      rw [List.flatten_cons, breakAndPad?_flatten hk hks] at hRead
      obtain ⟨rfl, hEq⟩ := Prod.mk.inj (Option.some.inj hRead)
      rw [ih hRest hks hEq.symm]

/-! ## Groups that lead to the end -/

/-- At most `n` groups lead to the end, or to a line feed that is the last group. -/
def Reaches (n : Nat) (gs : List (List Char)) : Prop :=
  gs.length ≤ n ∨ gs.length = n + 1 ∧ gs.getLast? = some ['\n']

theorem groupsToEnd?_zero {s run left : List Char}
    (h : (if atEnd s then some (([] : List Char), s) else none) = some (run, left)) :
    run = [] ∧ (s = [] ∧ left = [] ∨ s = ['\n'] ∧ left = ['\n']) := by
  split at h
  · rename_i hEnd
    cases h
    rcases atEnd_iff.mp hEnd with rfl | rfl
    · exact ⟨rfl, .inl ⟨rfl, rfl⟩⟩
    · exact ⟨rfl, .inr ⟨rfl, rfl⟩⟩
  · cases h

/-- What leads to the end is a sequence of groups, followed by nothing, or by a line feed if no
further group may be taken. -/
theorem groupsToEnd?_eq_some {n : Nat} {s run left : List Char}
    (h : groupsToEnd? n s = some (run, left)) :
    ∃ taken, AreGroups taken ∧ run = taken.flatten ∧ s = run ++ left ∧
      (left = [] ∧ taken.length ≤ n ∨ left = ['\n'] ∧ taken.length = n) := by
  induction n generalizing s run left with
  | zero =>
    obtain ⟨rfl, ⟨rfl, rfl⟩ | ⟨rfl, rfl⟩⟩ := groupsToEnd?_zero h
    · exact ⟨[], areGroups_nil, rfl, rfl, .inl ⟨rfl, Nat.le_refl 0⟩⟩
    · exact ⟨[], areGroups_nil, rfl, rfl, .inr ⟨rfl, rfl⟩⟩
  | succ n ih =>
    have hStop : breakAndPad? s = none → (if atEnd s then some (([] : List Char), s) else none) =
        some (run, left) → s = [] ∧ run = [] ∧ left = [] := by
      intro hNone hIf
      obtain ⟨rfl, ⟨rfl, rfl⟩ | ⟨rfl, rfl⟩⟩ := groupsToEnd?_zero hIf
      · exact ⟨rfl, rfl, rfl⟩
      · cases hNone
    unfold groupsToEnd? at h
    cases hRead : breakAndPad? s with
    | none =>
      rw [hRead] at h
      obtain ⟨rfl, rfl, rfl⟩ := hStop hRead h
      exact ⟨[], areGroups_nil, rfl, rfl, .inl ⟨rfl, Nat.zero_le _⟩⟩
    | some r =>
      obtain ⟨group, rest⟩ := r
      obtain ⟨hSplit, -⟩ := breakAndPad?_spec hRead
      have hGroup := isGroup_of_breakAndPad? hRead
      rw [hRead] at h
      cases hRun : groupsToEnd? n rest with
      | none =>
        simp only [hRun] at h
        obtain ⟨-, ⟨rfl, -⟩ | ⟨rfl, -⟩⟩ := groupsToEnd?_zero h
        · cases hRead
        · -- After a line feed by itself nothing is left, so the run would go on to the end.
          cases hRead
          cases n <;> cases hRun
      | some r =>
        obtain ⟨run', left'⟩ := r
        simp only [hRun] at h
        cases h
        obtain ⟨taken, hTaken, rfl, rfl, hEnd⟩ := ih hRun
        refine ⟨group :: taken, areGroups_cons.mpr ⟨hGroup, hTaken⟩, rfl, ?_, ?_⟩
        · rw [← hSplit, List.append_assoc]
        · simp only [List.length_cons, Nat.add_le_add_iff_right, Nat.add_right_cancel_iff]
          exact hEnd

theorem groupsToEnd?_flatten_of_le {n : Nat} {gs : List (List Char)} (h : AreGroups gs)
    (hLength : gs.length ≤ n) : groupsToEnd? n gs.flatten = some (gs.flatten, []) := by
  induction gs generalizing n with
  | nil => cases n <;> rfl
  | cons g gs ih =>
    obtain ⟨hg, hgs⟩ := areGroups_cons.mp h
    cases n with
    | zero => exact absurd hLength (by simp)
    | succ n =>
      rw [List.flatten_cons, groupsToEnd?, breakAndPad?_flatten hg hgs]
      simp only [ih hgs (Nat.le_of_succ_le_succ hLength)]

theorem groupsToEnd?_flatten_lineFeed {gs : List (List Char)} (h : AreGroups gs) :
    groupsToEnd? gs.length (gs.flatten ++ ['\n']) = some (gs.flatten, ['\n']) := by
  induction gs with
  | nil => rfl
  | cons g gs ih =>
    obtain ⟨hg, hgs⟩ := areGroups_cons.mp h
    have hRead : breakAndPad? (g ++ (gs.flatten ++ ['\n'])) = some (g, gs.flatten ++ ['\n']) := by
      have hAll := breakAndPad?_flatten hg (areGroups_append.mpr ⟨hgs, areGroups_lineFeed⟩)
      rw [List.flatten_append] at hAll
      exact hAll
    rw [List.length_cons, List.flatten_cons, List.append_assoc, groupsToEnd?, hRead]
    simp only [ih hgs]

theorem areGroups_of_groupsToEnd? {n : Nat} {s run left : List Char}
    (h : groupsToEnd? n s = some (run, left)) : ∃ gs, AreGroups gs ∧ gs.flatten = s := by
  obtain ⟨taken, hTaken, rfl, rfl, ⟨rfl, -⟩ | ⟨rfl, -⟩⟩ := groupsToEnd?_eq_some h
  · exact ⟨taken, hTaken, (List.append_nil _).symm⟩
  · refine ⟨taken ++ [['\n']], areGroups_append.mpr ⟨hTaken, areGroups_lineFeed⟩, ?_⟩
    rw [List.flatten_append, List.flatten_singleton]

theorem groupsToEnd?_eq_none {n : Nat} {gs : List (List Char)} (h : AreGroups gs)
    (hFar : ¬ Reaches n gs) : groupsToEnd? n gs.flatten = none := by
  cases hRun : groupsToEnd? n gs.flatten with
  | none => rfl
  | some r =>
    obtain ⟨taken, hTaken, hFlat, hSplit, ⟨hLeft, hLength⟩ | ⟨hLeft, hLength⟩⟩ :=
      groupsToEnd?_eq_some hRun
    · rw [hLeft, hFlat, List.append_nil] at hSplit
      obtain rfl := h.eq_of_flatten_eq hTaken hSplit
      exact absurd (.inl hLength) hFar
    · rw [hLeft, hFlat, ← List.flatten_singleton (l := ['\n']), ← List.flatten_append] at hSplit
      have hAll := areGroups_append.mpr ⟨hTaken, areGroups_lineFeed⟩
      obtain rfl := h.eq_of_flatten_eq hAll hSplit
      refine absurd (.inr ⟨?_, List.getLast?_concat⟩) hFar
      rw [List.length_append, hLength, List.length_singleton]

/-! ## What is cut off -/

/-- What stays behind the groups that are removed, if `n` of some groups are: their last one, if it
is a line feed by itself and not all are removed. -/
def leftOver (n : Nat) (gs : List (List Char)) : List (List Char) :=
  if n < gs.length ∧ gs.getLast? = some ['\n'] then [['\n']] else []

theorem leftOver_length (gs : List (List Char)) : leftOver gs.length gs = [] :=
  if_neg fun h => Nat.lt_irrefl _ h.1

/-- Of the groups at the end of a text `n` are removed, in one piece. -/
def Removes (n : Nat) (before : List Char) (gs : List (List Char))
    (result : List Char × List Char) : Prop :=
  ∃ first taken, gs = first ++ taken ++ leftOver n gs ∧ taken.length = n ∧
    result = (before ++ (first ++ leftOver n gs).flatten, taken.flatten)

/-- A cut passes over a text from no place of which groups lead to the end. -/
theorem cutToEnd_append {n : Nat} {u v : List Char}
    (h : ∀ t, t ≠ [] → t <:+ u → groupsToEnd? n (t ++ v) = none) :
    cutToEnd n (u ++ v) = (u ++ (cutToEnd n v).1, (cutToEnd n v).2) := by
  induction u with
  | nil => rfl
  | cons c u ih =>
    have hHere := h (c :: u) (List.cons_ne_nil c u) (List.suffix_refl _)
    rw [List.cons_append] at hHere
    rw [List.cons_append, cutToEnd, hHere]
    simp only [ih fun t ht hSuffix => h t ht (hSuffix.trans (List.suffix_cons c u)),
      List.cons_append]

theorem cutToEnd_of_some {n : Nat} {s run left : List Char} (hs : s ≠ [])
    (h : groupsToEnd? n s = some (run, left)) : cutToEnd n s = (left, run) := by
  cases s with
  | nil => exact absurd rfl hs
  | cons c s => rw [cutToEnd, h]

/-- From each place of a group on there is a group, or a space or a tab. -/
theorem IsGroup.suffix {g t : List Char} (h : IsGroup g) (ht : t ≠ []) (hSuffix : t <:+ g) :
    IsGroup t ∨ ∃ c s, t = c :: s ∧ isPad c = true := by
  have hPad : ∀ {pads : List Char}, (∀ c ∈ pads, isPad c = true) → t <:+ pads →
      ∃ c s, t = c :: s ∧ isPad c = true := by
    intro pads hPads hIn
    cases t with
    | nil => exact absurd rfl ht
    | cons c s => exact ⟨c, s, rfl, hPads c (hIn.subset List.mem_cons_self)⟩
  have hFeed : ∀ {pads : List Char}, (∀ c ∈ pads, isPad c = true) → t <:+ '\n' :: pads →
      IsGroup t ∨ ∃ c s, t = c :: s ∧ isPad c = true := by
    intro pads hPads hIn
    rcases List.suffix_cons_iff.mp hIn with rfl | hIn
    · exact .inl ⟨pads, hPads, .inl rfl⟩
    · exact .inr (hPad hPads hIn)
  obtain ⟨pads, hPads, rfl | rfl⟩ := h
  · exact hFeed hPads hSuffix
  · rcases List.suffix_cons_iff.mp hSuffix with rfl | hSuffix
    · exact .inl ⟨pads, hPads, .inr rfl⟩
    · exact hFeed hPads hSuffix

theorem groupsToEnd?_pad {c : Char} (hc : isPad c = true) (n : Nat) (s : List Char) :
    groupsToEnd? n (c :: s) = none := by
  simp only [isPad, Bool.or_eq_true, decide_eq_true_eq] at hc
  rcases hc with rfl | rfl
  · cases n <;> simp [groupsToEnd?, breakAndPad?, atEnd]
  · cases n <;> simp [groupsToEnd?, breakAndPad?, atEnd]

theorem reaches_cons_iff {n : Nat} (hn : 0 < n) (g t : List Char) (gs : List (List Char)) :
    Reaches n (g :: gs) ↔ Reaches n (t :: gs) := by
  cases gs with
  | nil =>
    have hOne : ∀ u : List Char, [u].length ≤ n := fun _ => hn
    exact ⟨fun _ => .inl (hOne t), fun _ => .inl (hOne g)⟩
  | cons k ks => exact Iff.rfl

theorem leftOver_cons {n : Nat} (hn : 0 < n) {g : List Char} {gs : List (List Char)}
    (hFar : ¬ Reaches n (g :: gs)) : leftOver n (g :: gs) = leftOver n gs := by
  cases gs with
  | nil => exact absurd (.inl hn) hFar
  | cons k ks =>
    have hLast : (g :: k :: ks).getLast? = (k :: ks).getLast? := List.getLast?_cons_cons
    have hMore : n < (g :: k :: ks).length := Nat.lt_of_not_le fun hLe => hFar (.inl hLe)
    unfold leftOver
    rw [hLast]
    by_cases hFeed : (k :: ks).getLast? = some ['\n']
    · have hLength : (g :: k :: ks).length ≠ n + 1 := fun hEq => hFar (.inr ⟨hEq, hFeed⟩)
      simp only [List.length_cons] at hMore hLength
      rw [if_pos ⟨hMore, hFeed⟩, if_pos ⟨by simp only [List.length_cons]; omega, hFeed⟩]
    · rw [if_neg fun h => hFeed h.2, if_neg fun h => hFeed h.2]

/-- What is cut off some groups. The induction is on the groups: as long as there are too many, the
first one stays. -/
theorem cutToEnd_flatten {n : Nat} (hn : 0 < n) {gs : List (List Char)} (h : AreGroups gs) :
    Removes (min n gs.length) [] gs (cutToEnd n gs.flatten) := by
  induction gs with
  | nil => exact ⟨[], [], rfl, (Nat.min_zero n).symm, rfl⟩
  | cons g gs ih =>
    obtain ⟨hg, hgs⟩ := areGroups_cons.mp h
    have hNonempty : (g :: gs).flatten ≠ [] := by
      have hLength := h.length_le
      intro hNil
      rw [hNil] at hLength
      exact absurd hLength (by simp)
    by_cases hReach : Reaches n (g :: gs)
    · rcases hReach with hLength | ⟨hLength, hLast⟩
      · rw [cutToEnd_of_some hNonempty (groupsToEnd?_flatten_of_le h hLength),
          Nat.min_eq_right hLength]
        refine ⟨[], g :: gs, ?_, rfl, ?_⟩
        · rw [leftOver_length, List.append_nil, List.nil_append]
        · rw [leftOver_length]
          rfl
      · obtain ⟨taken, hSplit⟩ := List.getLast?_eq_some_iff.mp hLast
        rw [hSplit] at h hLength hLast hNonempty ⊢
        have hTaken : taken.length = n := by simpa using hLength
        have hMin : min n (taken ++ [['\n']]).length = n := by omega
        have hLeft : leftOver n (taken ++ [['\n']]) = [['\n']] := if_pos ⟨by omega, hLast⟩
        have hRun := groupsToEnd?_flatten_lineFeed (areGroups_append.mp h).1
        rw [← List.flatten_singleton (l := ['\n']), ← List.flatten_append, hTaken] at hRun
        rw [cutToEnd_of_some hNonempty hRun, hMin]
        refine ⟨[], taken, ?_, hTaken, ?_⟩
        · rw [hLeft, List.nil_append]
        · rw [hLeft]
          rfl
    · have hSkip : cutToEnd n (g ++ gs.flatten) =
          (g ++ (cutToEnd n gs.flatten).1, (cutToEnd n gs.flatten).2) := by
        refine cutToEnd_append fun t ht hSuffix => ?_
        rcases hg.suffix ht hSuffix with hGroup | ⟨c, s, rfl, hc⟩
        · have hFar : ¬ Reaches n (t :: gs) := mt (reaches_cons_iff hn g t gs).mpr hReach
          exact groupsToEnd?_eq_none (areGroups_cons.mpr ⟨hGroup, hgs⟩) hFar
        · exact groupsToEnd?_pad hc n _
      obtain ⟨first, taken, hSplit, hTaken, hResult⟩ := ih hgs
      have hMore : n < (g :: gs).length := Nat.lt_of_not_le fun hLe => hReach (.inl hLe)
      have hMin : min n (g :: gs).length = n := Nat.min_eq_left (Nat.le_of_lt hMore)
      have hMin' : min n gs.length = n := Nat.min_eq_left (Nat.le_of_lt_succ hMore)
      have hLeft := leftOver_cons hn hReach
      rw [hMin'] at hSplit hTaken hResult
      rw [hMin, List.flatten_cons, hSkip]
      refine ⟨g :: first, taken, ?_, hTaken, ?_⟩
      · rw [hLeft, List.cons_append, List.cons_append, ← hSplit]
      · rw [hLeft, hResult]
        simp

/-! ## Whole texts -/

/-- A text ends with some groups, and no longer part at its end is a sequence of groups. -/
structure EndingGroups (before : List Char) (gs : List (List Char)) (text : List Char) : Prop where
  split : text = before ++ gs.flatten
  groups : AreGroups gs
  longest : ∀ hs, AreGroups hs → hs.flatten <:+ text → hs.flatten.length ≤ gs.flatten.length

theorem exists_endingGroups (text : List Char) : ∃ before gs, EndingGroups before gs text := by
  induction text with
  | nil =>
    refine ⟨[], [], rfl, areGroups_nil, fun hs _ hSuffix => ?_⟩
    rw [List.suffix_nil.mp hSuffix]
    exact Nat.le_refl 0
  | cons c s ih =>
    by_cases hAll : ∃ gs, AreGroups gs ∧ gs.flatten = c :: s
    · obtain ⟨gs, hgs, hEq⟩ := hAll
      refine ⟨[], gs, hEq.symm, hgs, fun hs _ hSuffix => ?_⟩
      rw [hEq]
      exact hSuffix.length_le
    · obtain ⟨before, gs, h⟩ := ih
      refine ⟨c :: before, gs, congrArg (c :: ·) h.split, h.groups, fun hs hhs hSuffix => ?_⟩
      rcases List.suffix_cons_iff.mp hSuffix with hEq | hSuffix
      · exact absurd ⟨hs, hhs, hEq⟩ hAll
      · exact h.longest hs hhs hSuffix

namespace EndingGroups

variable {before text : List Char} {gs : List (List Char)}

/-- No place in front of the groups leads to the end. -/
theorem groupsToEnd?_before (h : EndingGroups before gs text) {t : List Char} (ht : t ≠ [])
    (hSuffix : t <:+ before) (n : Nat) : groupsToEnd? n (t ++ gs.flatten) = none := by
  have hTail : t ++ gs.flatten <:+ text := by
    obtain ⟨u, rfl⟩ := hSuffix
    exact ⟨u, by rw [h.split, List.append_assoc]⟩
  cases hRun : groupsToEnd? n (t ++ gs.flatten) with
  | none => rfl
  | some r =>
    obtain ⟨hs, hhs, hEq⟩ := areGroups_of_groupsToEnd? hRun
    have hLength := h.longest hs hhs (hEq ▸ hTail)
    have hPos := List.length_pos_iff.mpr ht
    rw [hEq, List.length_append] at hLength
    omega

theorem cutToEnd_eq (h : EndingGroups before gs text) (n : Nat) :
    cutToEnd n text = (before ++ (cutToEnd n gs.flatten).1, (cutToEnd n gs.flatten).2) := by
  rw [h.split]
  exact cutToEnd_append fun t ht hSuffix => h.groupsToEnd?_before ht hSuffix n

theorem removes_cutToEnd (h : EndingGroups before gs text) {n : Nat} (hn : 0 < n) :
    Removes (min n gs.length) before gs (cutToEnd n text) := by
  obtain ⟨first, taken, hSplit, hTaken, hResult⟩ := cutToEnd_flatten hn h.groups
  refine ⟨first, taken, hSplit, hTaken, ?_⟩
  rw [h.cutToEnd_eq, hResult, List.nil_append]

end EndingGroups

/-! ## Markers -/

/-- How many of some groups a marker removes. -/
def Marker.share (count : Nat) : Marker → Nat
  | hyphens n => min n count
  | plus => count

section

variable {n : Nat} {before text : List Char} {gs : List (List Char)}
  {result other : List Char × List Char}

/-- The number of groups says which characters are removed. -/
theorem Removes.unique (h : Removes n before gs result) (h' : Removes n before gs other) :
    result = other := by
  obtain ⟨first, taken, hSplit, hTaken, rfl⟩ := h
  obtain ⟨first', taken', hSplit', hTaken', rfl⟩ := h'
  have hBoth := List.append_cancel_right (hSplit.symm.trans hSplit')
  obtain ⟨rfl, rfl⟩ := List.append_inj' hBoth (hTaken.trans hTaken'.symm)
  rfl

theorem Removes.newlines_eq (h : Removes n before gs result) (hgs : AreGroups gs) :
    newlines result.2 = n := by
  obtain ⟨first, taken, hSplit, rfl, rfl⟩ := h
  rw [hSplit] at hgs
  exact (areGroups_append.mp (areGroups_append.mp hgs).1).2.newlines_flatten

theorem Removes.all (h : Removes gs.length before gs result) : result.1 = before := by
  obtain ⟨first, taken, hSplit, hTaken, rfl⟩ := h
  have hLength := congrArg List.length hSplit
  rw [leftOver_length] at hSplit hLength ⊢
  simp only [List.append_nil, List.length_append] at hLength
  obtain rfl : first = [] := List.length_eq_zero_iff.mp (by omega)
  exact List.append_nil before

namespace EndingGroups

theorem removes_none (h : EndingGroups before gs text) : Removes 0 before gs (text, []) := by
  have hFirst : ∃ first, gs = first ++ leftOver 0 gs := by
    by_cases hLast : gs.getLast? = some ['\n']
    · obtain ⟨first, rfl⟩ := List.getLast?_eq_some_iff.mp hLast
      refine ⟨first, ?_⟩
      rw [leftOver, if_pos ⟨by simp, hLast⟩]
    · refine ⟨gs, ?_⟩
      rw [leftOver, if_neg fun hBoth => hLast hBoth.2, List.append_nil]
  obtain ⟨first, hSplit⟩ := hFirst
  refine ⟨first, [], ?_, rfl, ?_⟩
  · rw [List.append_nil]
    exact hSplit
  · rw [← hSplit, ← h.split]
    rfl

theorem removes_stripTrailing (h : EndingGroups before gs text) (m : Marker) :
    Removes (m.share gs.length) before gs (stripTrailing m text) := by
  cases m with
  | hyphens n =>
    cases n with
    | zero =>
      have hNone := h.removes_none
      rw [← Nat.zero_min gs.length] at hNone
      exact hNone
    | succ n => exact h.removes_cutToEnd n.succ_pos
  | plus =>
    have hLength : gs.length ≤ text.length := by
      have hSplit := congrArg List.length h.split
      have hGroups := h.groups.length_le
      rw [List.length_append] at hSplit
      omega
    cases hText : text with
    | nil =>
      rw [hText] at hLength
      obtain rfl := List.length_eq_zero_iff.mp (Nat.le_zero.mp hLength)
      have hNone := h.removes_none
      rw [hText] at hNone
      exact hNone
    | cons c s =>
      rw [← hText]
      have hCut := h.removes_cutToEnd (n := text.length) (by rw [hText]; exact Nat.succ_pos _)
      rw [Nat.min_eq_right hLength] at hCut
      exact hCut

/-- The groups at the end of a text are also the most that there are. -/
theorem length_le (h : EndingGroups before gs text) {hs : List (List Char)} (hhs : AreGroups hs)
    (hSuffix : hs.flatten <:+ text) : hs.length ≤ gs.length := by
  have hIn : hs.flatten <:+ gs.flatten :=
    List.suffix_of_suffix_length_le hSuffix ⟨before, h.split.symm⟩ (h.longest hs hhs hSuffix)
  rw [← hhs.newlines_flatten, ← h.groups.newlines_flatten]
  exact hIn.sublist.count_le _

/-- What is in front of the groups does not end in a blank line. -/
theorem before_ne (h : EndingGroups before gs text) {line pads : List Char}
    (hPads : ∀ c ∈ pads, isPad c = true) : before ≠ line ++ '\n' :: pads := by
  intro hBefore
  have hGroups : AreGroups (('\n' :: pads) :: gs) :=
    areGroups_cons.mpr ⟨⟨pads, hPads, .inl rfl⟩, h.groups⟩
  have hMore := h.length_le hGroups
    ⟨line, by rw [h.split, hBefore, List.flatten_cons, List.append_assoc]⟩
  exact absurd hMore (Nat.not_succ_le_self gs.length)

end EndingGroups

end

/-- **Stripping before a tag removes groups.** Every text ends in a number of groups, and a marker
removes as many of them as it has hyphens, or all, in one piece: the last ones, or those in front of
a line feed by itself, which then stays. So more hyphens never remove fewer line feeds, enough
hyphens remove what a plus sign removes, and no blank line is left after that. -/
theorem stripTrailing_removes_groups (text : List Char) :
    ∃ before gs, EndingGroups before gs text ∧
      (∀ hs, AreGroups hs → hs.flatten <:+ text → hs.length ≤ gs.length) ∧
      (∀ m, Removes (m.share gs.length) before gs (stripTrailing m text)) ∧
      stripTrailing (.hyphens 0) text = (text, []) ∧
      (∀ j k, j ≤ k → newlines (stripTrailing (.hyphens j) text).2 ≤
        newlines (stripTrailing (.hyphens k) text).2) ∧
      (∀ k, gs.length ≤ k → stripTrailing (.hyphens k) text = stripTrailing .plus text) ∧
      ∀ line pads, (∀ c ∈ pads, isPad c = true) →
        (stripTrailing .plus text).1 ≠ line ++ '\n' :: pads := by
  obtain ⟨before, gs, h⟩ := exists_endingGroups text
  refine ⟨before, gs, h, fun hs => h.length_le, h.removes_stripTrailing, rfl, fun j k hjk => ?_,
    fun k hk => ?_, fun line pads hPads => ?_⟩
  · rw [(h.removes_stripTrailing (.hyphens j)).newlines_eq h.groups,
      (h.removes_stripTrailing (.hyphens k)).newlines_eq h.groups]
    simp only [Marker.share]
    omega
  · have hAll := h.removes_stripTrailing (.hyphens k)
    rw [Marker.share, Nat.min_eq_right hk] at hAll
    exact hAll.unique (h.removes_stripTrailing .plus)
  · rw [(h.removes_stripTrailing .plus).all]
    exact h.before_ne hPads

/-- One of three groups is removed. The last is a line feed by itself and stays. -/
example : stripTrailing (.hyphens 1) "a\r\n\n \n".toList = ("a\r\n\n".toList, "\n ".toList) := by
  decide +kernel

end Stencil.Template
