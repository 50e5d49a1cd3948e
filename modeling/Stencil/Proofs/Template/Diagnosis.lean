import Stencil.Proofs.Template.Comments

/-!
# Why a template is refused

An error of the tag grammar is found on a part of the template only: on the text up to the next tag,
or on the inside of that tag. What it says holds of the whole template all the same. A tag is looked
for from left to right, and its body is cut as short as it can be; so a head in the text before a
tag would have been taken for a tag itself, closed by the brackets of the other one, and closing
brackets inside a tag would have ended it, had there been a blank and a marker in front of them.

* `First`: the first place at which a text has some part.
* `readHead?_eq_some_iff`, `readTail?_eq_none_iff`, `readTail?_shortest`: what a reader of tags
  finds.
* `cut_plain_spec`, `cut_tagged_spec`: no tag starts before the one at which a text is cut.
* `Blames`: what may be wrong with a text that has no tag in front of the brackets to blame.
* `readWith_diagnosed`: what an error says is so, and its line is that of the brackets to blame.
-/

namespace Stencil.Template

open Text

/-! ## The first place of a part -/

/-- The first place at which a text has some part is after `before`. -/
structure First (part before after text : List Char) : Prop where
  split : text = before ++ (part ++ after)
  first : ∀ k < before.length, ¬ part <+: text.drop k

theorem First.start (part after : List Char) : First part [] after (part ++ after) :=
  ⟨rfl, fun k hk => absurd hk (Nat.not_lt_zero k)⟩

theorem First.cons {part before after text : List Char} {c : Char}
    (h : First part before after text) (hc : ¬ part <+: c :: text) :
    First part (c :: before) after (c :: text) := by
  refine ⟨by rw [h.split, List.cons_append], ?_⟩
  intro k hk
  cases k with
  | zero => exact hc
  | succ k => exact h.first k (Nat.lt_of_succ_lt_succ hk)

theorem First.isInfix {part before after text : List Char} (h : First part before after text) :
    part <:+: text :=
  ⟨before, after, by rw [h.split, List.append_assoc]⟩

/-- What comes later in the text makes no difference. -/
theorem First.append {part before after text : List Char} (h : First part before after text)
    (more : List Char) : First part before (after ++ more) (text ++ more) := by
  refine ⟨by rw [h.split]; simp only [List.append_assoc], ?_⟩
  intro k hk hPart
  have hLength := congrArg List.length h.split
  simp only [List.length_append] at hLength
  have hDrop : (text ++ more).drop k = text.drop k ++ more := by
    rw [List.drop_append_of_le_length (by omega)]
  have hRoom : part.length ≤ (text.drop k).length := by
    rw [List.length_drop]
    omega
  rw [hDrop] at hPart
  exact h.first k hk
    (List.prefix_of_prefix_length_le hPart (List.prefix_append _ more) hRoom)

theorem findText?_eq_some {part text : List Char} {n : Nat} (h : findText? part text = some n) :
    ∃ before after, First part before after text ∧ before.length = n := by
  induction text generalizing n with
  | nil =>
    simp only [findText?] at h
    split at h
    · rename_i hEmpty
      subst hEmpty
      cases h
      exact ⟨[], [], First.start [] [], rfl⟩
    · cases h
  | cons c text ih =>
    simp only [findText?] at h
    split at h
    · rename_i hPrefix
      cases h
      obtain ⟨after, hAfter⟩ := List.isPrefixOf_iff_prefix.mp hPrefix
      exact ⟨[], after, hAfter ▸ First.start part after, rfl⟩
    · rename_i hPrefix
      obtain ⟨m, hm, rfl⟩ := Option.map_eq_some_iff.mp h
      obtain ⟨before, after, hFirst, rfl⟩ := ih hm
      exact ⟨c :: before, after,
        hFirst.cons fun hc => hPrefix (List.isPrefixOf_iff_prefix.mpr hc), rfl⟩

theorem exists_first_of_infix {part text : List Char} (h : part <:+: text) :
    ∃ before after, First part before after text := by
  cases hFind : findText? part text with
  | none => exact absurd h (findText?_eq_none_iff.mp hFind)
  | some n =>
    obtain ⟨before, after, hFirst, -⟩ := findText?_eq_some hFind
    exact ⟨before, after, hFirst⟩

/-! ## Closing brackets -/

theorem eq_of_closing {c : Char} {s : List Char} (h : closeBrackets <+: c :: s) : c = ']' := by
  obtain ⟨t, ht⟩ := h
  exact (List.cons.inj ht).1.symm

/-- A part does not start in a text that lacks its first character. -/
theorem infix_of_append {c : Char} {part x s : List Char} (hx : c ∉ x)
    (h : c :: part <:+: x ++ s) : c :: part <:+: s := by
  induction x with
  | nil => exact h
  | cons d x ih =>
    rw [List.mem_cons, not_or] at hx
    rcases List.infix_cons_iff.mp h with hPrefix | hInfix
    · obtain ⟨t, ht⟩ := hPrefix
      exact absurd (List.cons.inj ht).1 hx.1
    · exact ih hx.2 hInfix

theorem First.append_left {x before after text : List Char} (hx : ']' ∉ x)
    (h : First closeBrackets before after text) :
    First closeBrackets (x ++ before) after (x ++ text) := by
  induction x with
  | nil => exact h
  | cons c x ih =>
    rw [List.mem_cons, not_or] at hx
    exact (ih hx.2).cons fun hc => hx.1 (eq_of_closing hc).symm

/-- Closing brackets do not start in a text that has none and ends in something else. -/
theorem First.append_body {body before after text : List Char} {trail : Char} (hTrail : trail ≠ ']')
    (hBody : ¬ closeBrackets <:+: body ++ [trail]) (h : First closeBrackets before after text) :
    First closeBrackets (body ++ trail :: before) after (body ++ trail :: text) := by
  induction body with
  | nil => exact h.cons fun hc => hTrail (eq_of_closing hc)
  | cons c body ih =>
    refine (ih fun hInfix => hBody (List.infix_cons hInfix)).cons fun hc => hBody ?_
    have hTwo : closeBrackets.length ≤ (c :: (body ++ [trail])).length := by
      simp [closeBrackets]
    have hAll : c :: (body ++ trail :: text) = c :: (body ++ [trail]) ++ text := by simp
    rw [hAll] at hc
    exact (List.prefix_of_prefix_length_le hc (List.prefix_append _ text) hTwo).isInfix

theorem Marker.bracket_not_mem (m : Marker) : ']' ∉ m.written ∧ '[' ∉ m.written := by
  cases m with
  | hyphens n => simp [Marker.written, List.mem_replicate]
  | plus => simp [Marker.written]

/-! ## Heads and tails of tags -/

/-- A head as it stands in a template, with the blank that opens the body. -/
def TagHead.written (h : TagHead) : List Char :=
  openBrackets ++ (h.pre.written ++ (if h.isComment then ['#'] else []) ++ [h.lead])

/-- A head is well formed if the character that opens the body is blank. -/
def TagHead.Sound (h : TagHead) : Prop := isBlank h.lead = true

instance (h : TagHead) : Decidable h.Sound := inferInstanceAs (Decidable (_ = _))

/-- The head of a tag. -/
def Tag.opening (t : Tag) : TagHead := ⟨t.pre, t.isComment, t.lead⟩

theorem readHead?_eq_some_iff {s rest : List Char} {h : TagHead} :
    readHead? s = some (h, rest) ↔ h.Sound ∧ s = h.written ++ rest := by
  constructor
  · intro hs
    refine ⟨isBlank_of_readHead? hs, ?_⟩
    rw [← readHead?_append hs]
    simp [TagHead.written]
  · rintro ⟨hSound, rfl⟩
    let t : Tag := ⟨h.pre, h.isComment, h.lead, [], ' ', .hyphens 0⟩
    have hWritten : h.written ++ rest = t.head ++ t.lead :: rest := by
      simp [TagHead.written, Tag.head, Tag.sign, t]
    rw [hWritten, readHead?_written t hSound]

/-- After its opening brackets a head has no bracket. -/
theorem TagHead.bracket_not_mem {h : TagHead} (hSound : h.Sound) {c : Char}
    (hc : c = '[' ∨ c = ']') :
    c ∉ h.pre.written ++ (if h.isComment then ['#'] else []) ++ [h.lead] := by
  have hPre : c ∉ h.pre.written := by
    rcases hc with rfl | rfl
    · exact h.pre.bracket_not_mem.2
    · exact h.pre.bracket_not_mem.1
  have hSign : c ∉ if h.isComment then ['#'] else [] := by
    rcases hc with rfl | rfl <;> split <;> simp
  have hLead : c ≠ h.lead := by
    refine (ne_of_isBlank hSound ?_).symm
    rcases hc with rfl | rfl <;> decide
  simp only [List.mem_append, List.mem_singleton, not_or]
  exact ⟨⟨hPre, hSign⟩, hLead⟩

theorem TagHead.close_not_mem {h : TagHead} (hSound : h.Sound) : ']' ∉ h.written := by
  rw [TagHead.written, List.mem_append, not_or]
  exact ⟨by decide, TagHead.bracket_not_mem hSound (.inr rfl)⟩

/-- A text that ends the way the inside of a tag does: in a blank and a marker. -/
def Closable (inside : List Char) : Prop :=
  ∃ body trail, ∃ m : Marker, isBlank trail = true ∧ inside = body ++ trail :: m.written

/-- Some closing brackets of a text can end a tag. -/
def CanClose (s : List Char) : Prop :=
  ∃ inside after, s = inside ++ (closeBrackets ++ after) ∧ Closable inside

theorem readTail?_eq_none_iff {s : List Char} : readTail? s = none ↔ ¬ CanClose s := by
  constructor
  · rintro hNone ⟨_, after, rfl, body, trail, m, hTrail, rfl⟩
    induction body with
    | nil =>
      have hClose := readClosing?_written m after
      simp only [List.nil_append, List.cons_append, readTail?, hTrail, if_true] at hNone
      rw [← List.append_assoc, hClose] at hNone
      cases hNone
    | cons c body ih =>
      simp only [List.cons_append, readTail?] at hNone
      split at hNone
      · cases hNone
      · exact ih (Option.map_eq_none_iff.mp hNone)
  · intro hNone
    cases hRead : readTail? s with
    | none => rfl
    | some t =>
      refine absurd ⟨t.body ++ t.trail :: t.post.written, t.rest, ?_, t.body, t.trail, t.post,
        isBlank_of_readTail? hRead, rfl⟩ hNone
      rw [← readTail?_append hRead]
      simp

/-- The end that is found leaves the shortest body. -/
theorem readTail?_shortest {s : List Char} {t : TagTail} (h : readTail? s = some t)
    {body after : List Char} {trail : Char} {m : Marker} (hTrail : isBlank trail = true)
    (hs : s = body ++ trail :: (m.written ++ closeBrackets ++ after)) :
    t.body.length ≤ body.length := by
  induction body generalizing s t with
  | nil =>
    subst hs
    simp only [List.nil_append, readTail?, hTrail, if_true, readClosing?_written] at h
    cases h
    exact Nat.le_refl _
  | cons c body ih =>
    subst hs
    simp only [List.cons_append, readTail?] at h
    split at h
    · cases h
      exact Nat.zero_le _
    · obtain ⟨u, hu, rfl⟩ := Option.map_eq_some_iff.mp h
      exact Nat.succ_le_succ (ih hu rfl)

/-! ## Where the first tag is -/

theorem Tag.ofText?_eq_none_iff {s : List Char} :
    Tag.ofText? s = none ↔
      ∀ head rest, readHead? s = some (head, rest) → readTail? rest = none := by
  unfold Tag.ofText?
  split
  · rename_i hHead
    simp [hHead]
  · rename_i head rest hHead
    split
    · rename_i hTail
      simp [hHead, hTail]
    · rename_i t hTail
      simp [hHead, hTail]

theorem text_of_cut {s text rest : List Char} {t : Tag} (h : cut s = .tagged text t rest) :
    s = text ++ (t.written ++ rest) := by
  have hWritten := cut_append s
  rw [h, Cut.written, List.append_assoc] at hWritten
  exact hWritten.symm

/-- In a text that is not cut, no tag starts. -/
theorem cut_plain_spec {s text : List Char} (h : cut s = .plain text) :
    text = s ∧ ∀ before after, s = before ++ after → Tag.ofText? after = none := by
  have hWritten := cut_append s
  rw [h] at hWritten
  refine ⟨hWritten, ?_⟩
  clear hWritten
  induction s generalizing text with
  | nil =>
    intro before after hSplit
    rw [(List.append_eq_nil_iff.mp hSplit.symm).2]
    rfl
  | cons c s ih =>
    simp only [cut] at h
    split at h
    · cases h
    · rename_i hNone
      cases hCut : cut s with
      | tagged before tag rest =>
        rw [hCut] at h
        cases h
      | plain t =>
        intro before after hSplit
        cases before with
        | nil =>
          rw [List.nil_append] at hSplit
          rw [← hSplit, hNone]
        | cons d before => exact ih hCut before after (List.cons.inj hSplit).2

/-- A text is cut at a tag before which no tag starts. -/
theorem cut_tagged_spec {s text rest : List Char} {t : Tag} (h : cut s = .tagged text t rest) :
    Tag.ofText? (t.written ++ rest) = some (t, rest) ∧
      ∀ before after, text = before ++ after → after ≠ [] →
        Tag.ofText? (after ++ (t.written ++ rest)) = none := by
  induction s generalizing text with
  | nil => cases h
  | cons c s ih =>
    simp only [cut] at h
    split at h
    · rename_i hTag
      cases h
      refine ⟨by rw [Tag.ofText?_append hTag, hTag], ?_⟩
      intro before after hSplit hAfter
      exact absurd (List.append_eq_nil_iff.mp hSplit.symm).2 hAfter
    · rename_i hNone
      cases hCut : cut s with
      | plain text =>
        rw [hCut] at h
        cases h
      | tagged text t' rest' =>
        rw [hCut] at h
        cases h
        obtain ⟨hTag, hBefore⟩ := ih hCut
        refine ⟨hTag, ?_⟩
        intro before after hSplit hAfter
        cases before with
        | nil =>
          rw [List.nil_append] at hSplit
          rw [← hSplit, List.cons_append, ← text_of_cut hCut, hNone]
        | cons d before => exact hBefore before after (List.cons.inj hSplit).2 hAfter

/-! ## What a search finds -/

/-- What may be wrong with a text that has no tag, and what stands before the brackets to blame. -/
inductive Stray (text : List Char) : TagFault → (before : List Char) → Prop
  | noHead {before near : List Char} (hSplit : text = before ++ near)
      (hOpen : openBrackets <+: near) (hHead : readHead? near = none) :
      Stray text .noBlankAfterStart before
  | noBlank {before near rest : List Char} {head : TagHead} (hSplit : text = before ++ near)
      (hHead : readHead? near = some (head, rest)) (hClose : closeBrackets <:+: near) :
      Stray text .noBlankBeforeEnd before
  | noEnd {before near rest : List Char} {head : TagHead} (hSplit : text = before ++ near)
      (hHead : readHead? near = some (head, rest)) (hClose : ¬ closeBrackets <:+: near) :
      Stray text .noEnd before
  | noStart {gap after : List Char} (hSplit : text = gap ++ (closeBrackets ++ after))
      (hOpen : ¬ openBrackets <:+: text) : Stray text .strayEnd gap

theorem stray_of_strayBrackets? {text : List Char} {f : Finding}
    (h : strayBrackets? text = some f) :
    ∃ before, Stray text f.fault before ∧ before.length = f.offset := by
  unfold strayBrackets? at h
  split at h
  · rename_i start hOpen
    cases h
    obtain ⟨before, after, hFirst, rfl⟩ := findText?_eq_some hOpen
    have hNear : text.drop before.length = openBrackets ++ after := by
      rw [hFirst.split, List.drop_left]
    simp only [hNear]
    refine ⟨before, ?_, rfl⟩
    cases hHead : readHead? (openBrackets ++ after) with
    | none => exact .noHead hFirst.split (List.prefix_append _ after) hHead
    | some r =>
      cases hClose : findText? closeBrackets (openBrackets ++ after) with
      | none => exact .noEnd hFirst.split hHead (findText?_eq_none_iff.mp hClose)
      | some n =>
        obtain ⟨_, _, hFound, -⟩ := findText?_eq_some hClose
        exact .noBlank hFirst.split hHead hFound.isInfix
  · rename_i hOpen
    obtain ⟨stop, hClose, rfl⟩ := Option.map_eq_some_iff.mp h
    obtain ⟨gap, after, hFirst, rfl⟩ := findText?_eq_some hClose
    exact ⟨gap, .noStart hFirst.split (findText?_eq_none_iff.mp hOpen), rfl⟩

/-! ## What is wrong with a text -/

/-- What may be wrong with a text, and what stands before the brackets to blame. For closing
brackets that nothing has opened these are the brackets themselves, and so they are for the first
closing brackets of a tag that only later ones can close; else they are the opening ones. -/
inductive Blames (text : List Char) : TagFault → (before : List Char) → Prop
  /-- There is no well-formed head. -/
  | noHead {before after : List Char} (hSplit : text = before ++ (openBrackets ++ after))
      (hHead : ∀ head : TagHead, head.Sound → ¬ head.written <+: openBrackets ++ after) :
      Blames text .noBlankAfterStart before
  /-- After a head there are no closing brackets, or opening ones before them. -/
  | noEnd {before rest : List Char} {head : TagHead} (hHead : head.Sound)
      (hSplit : text = before ++ (head.written ++ rest))
      (hEnd : ¬ closeBrackets <:+: rest ∨
        ∃ inside after, First closeBrackets inside after rest ∧ openBrackets <:+: inside) :
      Blames text .noEnd before
  /-- The next closing brackets cannot close the tag, and neither can any others. -/
  | neverCloses {before rest inside after : List Char} {head : TagHead} (hHead : head.Sound)
      (hSplit : text = before ++ (head.written ++ rest))
      (hNext : First closeBrackets inside after rest) (hInside : ¬ Closable inside)
      (hNever : ¬ CanClose rest) : Blames text .noBlankBeforeEnd before
  /-- The next closing brackets cannot close the tag, but later ones can. -/
  | closesLater {before rest inside after : List Char} {head : TagHead} (hHead : head.Sound)
      (hSplit : text = before ++ (head.written ++ rest))
      (hNext : First closeBrackets inside after rest) (hInside : ¬ Closable inside)
      (hLater : CanClose rest) : Blames text .noBlankBeforeEnd (before ++ (head.written ++ inside))
  /-- There are closing brackets, and no opening ones before them. -/
  | noStart {before after : List Char} (hSplit : text = before ++ (closeBrackets ++ after))
      (hOpen : ¬ openBrackets <:+: before) : Blames text .strayEnd before

section

variable {text before : List Char} {fault : TagFault}

/-- There are brackets at the place to blame. -/
theorem Blames.brackets (h : Blames text fault before) :
    ∃ after, text = before ++ (openBrackets ++ after) ∨
      text = before ++ (closeBrackets ++ after) := by
  cases h with
  | noHead hSplit _ => exact ⟨_, .inl hSplit⟩
  | noEnd hHead hSplit hEnd =>
    rw [TagHead.written, List.append_assoc] at hSplit
    exact ⟨_, .inl hSplit⟩
  | neverCloses hHead hSplit hNext hInside hNever =>
    rw [TagHead.written, List.append_assoc] at hSplit
    exact ⟨_, .inl hSplit⟩
  | @closesLater _ _ _ after _ hHead hSplit hNext hInside hLater =>
    refine ⟨after, .inr ?_⟩
    rw [hSplit, hNext.split]
    simp only [List.append_assoc]
  | noStart hSplit _ => exact ⟨_, .inr hSplit⟩

/-- Text without opening brackets in front makes no difference. -/
theorem Blames.prepend {x : List Char} (hx : '[' ∉ x) (h : Blames text fault before) :
    Blames (x ++ text) fault (x ++ before) := by
  cases h with
  | noHead hSplit hHead => exact .noHead (by rw [hSplit, List.append_assoc]) hHead
  | noEnd hHead hSplit hEnd => exact .noEnd hHead (by rw [hSplit, List.append_assoc]) hEnd
  | neverCloses hHead hSplit hNext hInside hNever =>
    exact .neverCloses hHead (by rw [hSplit, List.append_assoc]) hNext hInside hNever
  | closesLater hHead hSplit hNext hInside hLater =>
    rw [← List.append_assoc x]
    exact .closesLater hHead (by rw [hSplit, List.append_assoc]) hNext hInside hLater
  | noStart hSplit hOpen =>
    exact .noStart (by rw [hSplit, List.append_assoc]) fun hInfix =>
      hOpen (infix_of_append hx hInfix)

/-! ## Brackets in a text without a tag -/

/-- What is wrong with a text in which no tag starts. -/
theorem Stray.blames (hNone : ∀ front back, text = front ++ back → Tag.ofText? back = none)
    (h : Stray text fault before) : Blames text fault before := by
  cases h with
  | noHead hSplit hOpen hHead =>
    obtain ⟨after, rfl⟩ := hOpen
    refine .noHead hSplit ?_
    rintro head hSound ⟨rest, hRest⟩
    rw [readHead?_eq_some_iff.mpr ⟨hSound, hRest.symm⟩] at hHead
    cases hHead
  | noBlank hSplit hHead hClose =>
    have hTail := Tag.ofText?_eq_none_iff.mp (hNone _ _ hSplit) _ _ hHead
    obtain ⟨hSound, rfl⟩ := readHead?_eq_some_iff.mp hHead
    obtain ⟨inside, after, hNext⟩ :=
      exists_first_of_infix (infix_of_append (TagHead.close_not_mem hSound) hClose)
    have hNever := readTail?_eq_none_iff.mp hTail
    exact .neverCloses hSound hSplit hNext
      (fun hInside => hNever ⟨_, _, hNext.split, hInside⟩) hNever
  | noEnd hSplit hHead hClose =>
    obtain ⟨hSound, rfl⟩ := readHead?_eq_some_iff.mp hHead
    refine .noEnd hSound hSplit (.inl fun hInfix => hClose ?_)
    exact hInfix.trans (List.suffix_append _ _).isInfix
  | noStart hSplit hOpen =>
    refine .noStart hSplit fun hInfix => hOpen (hInfix.trans ?_)
    rw [hSplit]
    exact (List.prefix_append _ _).isInfix

end

/-! ## Brackets in the text before a tag -/

/-- No head reaches from a text into the opening brackets of a tag. -/
theorem head_within {near more : List Char} {head : TagHead} (hSound : head.Sound)
    (hOpen : openBrackets <+: near) (h : head.written <+: near ++ '[' :: more) :
    head.written <+: near := by
  rcases Nat.lt_or_ge near.length head.written.length with hLong | hShort
  · exfalso
    obtain ⟨tail, rfl⟩ := hOpen
    have hBracket : openBrackets ++ tail ++ ['['] <+: head.written := by
      refine List.prefix_of_prefix_length_le ⟨more, ?_⟩ h ?_
      · simp only [List.append_assoc, List.singleton_append]
      · rw [List.length_append]
        exact hLong
    rw [TagHead.written, List.append_assoc, List.prefix_append_right_inj] at hBracket
    refine TagHead.bracket_not_mem hSound (.inl rfl) (hBracket.subset ?_)
    exact List.mem_append_right _ List.mem_cons_self
  · exact List.prefix_of_prefix_length_le h (List.prefix_append _ _) hShort

section

variable {s text rest : List Char} {t : Tag} {fault : TagFault}

/-- A head in the text before a tag would be that of a tag: the brackets of the other can close it. -/
theorem no_head_before_tag (hCut : cut s = .tagged text t rest) {front near tail : List Char}
    {head : TagHead} (hSplit : text = front ++ near) : readHead? near ≠ some (head, tail) := by
  intro hHead
  obtain ⟨hSound, rfl⟩ := readHead?_eq_some_iff.mp hHead
  have hNone := (cut_tagged_spec hCut).2 _ _ hSplit (by simp [TagHead.written, openBrackets])
  have hLonger : readHead? (head.written ++ tail ++ (t.written ++ rest)) =
      some (head, tail ++ (t.written ++ rest)) :=
    readHead?_eq_some_iff.mpr ⟨hSound, List.append_assoc ..⟩
  have hTail := Tag.ofText?_eq_none_iff.mp hNone _ _ hLonger
  have hClosable : Closable (tail ++ t.head ++ (t.lead :: t.body) ++ t.trail :: t.post.written) :=
    ⟨_, t.trail, t.post, (isBlank_of_cut hCut).2, rfl⟩
  refine readTail?_eq_none_iff.mp hTail ⟨_, rest, ?_, hClosable⟩
  simp [Tag.written, Tag.inner]

/-- What is wrong with the text before a tag is wrong with the whole. -/
theorem Stray.blames_tagged {before : List Char} (hCut : cut s = .tagged text t rest)
    (h : Stray text fault before) : Blames s fault before := by
  have hs := text_of_cut hCut
  cases h with
  | noHead hSplit hOpen hHead =>
    obtain ⟨after, rfl⟩ := hOpen
    have hWhole : s = before ++ (openBrackets ++ (after ++ (t.written ++ rest))) := by
      rw [hs, hSplit]
      simp only [List.append_assoc]
    refine .noHead hWhole ?_
    intro head hSound hPrefix
    obtain ⟨written, hWritten⟩ := t.written_eq_cons
    rw [hWritten, List.cons_append, ← List.append_assoc] at hPrefix
    obtain ⟨tail, hTail⟩ := head_within hSound (List.prefix_append _ _) hPrefix
    rw [readHead?_eq_some_iff.mpr ⟨hSound, hTail.symm⟩] at hHead
    cases hHead
  | noBlank hSplit hHead _ => exact absurd hHead (no_head_before_tag hCut hSplit)
  | noEnd hSplit hHead _ => exact absurd hHead (no_head_before_tag hCut hSplit)
  | @noStart _ after hSplit hOpen =>
    have hWhole : s = before ++ (closeBrackets ++ (after ++ (t.written ++ rest))) := by
      rw [hs, hSplit]
      simp only [List.append_assoc]
    refine .noStart hWhole fun hInfix => hOpen (hInfix.trans ?_)
    rw [hSplit]
    exact (List.prefix_append _ _).isInfix

/-! ## Brackets inside a tag -/

theorem Tag.written_opening (t : Tag) : t.opening.written = t.head ++ [t.lead] := by
  have hSign : (if t.isComment then ['#'] else []) = t.sign := rfl
  show openBrackets ++ (t.pre.written ++ (if t.isComment then ['#'] else []) ++ [t.lead]) = _
  rw [hSign, Tag.head]
  simp only [List.append_assoc]

/-- What follows the head of a tag, the tag's end included. -/
def Tag.remainder (t : Tag) (rest : List Char) : List Char :=
  t.body ++ t.trail :: (t.post.written ++ (closeBrackets ++ rest))

theorem Tag.remainder_eq (t : Tag) (rest : List Char) :
    t.remainder rest = t.body ++ [t.trail] ++ (t.post.written ++ (closeBrackets ++ rest)) := by
  simp [Tag.remainder]

theorem Tag.written_append (t : Tag) (rest : List Char) :
    t.written ++ rest = t.opening.written ++ t.remainder rest := by
  rw [Tag.written_opening]
  simp [Tag.written, Tag.inner, Tag.remainder]

theorem Tag.readTail?_remainder (h : Tag.ofText? (t.written ++ rest) = some (t, rest)) :
    readTail? (t.remainder rest) = some ⟨t.body, t.trail, t.post, rest⟩ := by
  unfold Tag.ofText? at h
  split at h
  · cases h
  · rename_i head tail hHead
    split at h
    · cases h
    · rename_i u hTail
      obtain ⟨hTag, hRest⟩ := Prod.mk.inj (Option.some.inj h)
      have hOpening : head = t.opening := by
        rw [← hTag]
        rfl
      have hEq := (readHead?_eq_some_iff.mp hHead).2
      rw [hOpening, Tag.written_append] at hEq
      rw [List.append_cancel_left hEq, hTail, ← hRest, ← hTag]

theorem Tag.canClose_remainder (t : Tag) (hTrail : isBlank t.trail = true) (rest : List Char) :
    CanClose (t.remainder rest) :=
  ⟨t.body ++ t.trail :: t.post.written, rest, by simp [Tag.remainder],
    t.body, t.trail, t.post, hTrail, rfl⟩

/-- Closing brackets in the body of a tag have not closed it: the body would have been shorter. -/
theorem Tag.not_closable {inside after : List Char}
    (hTail : readTail? (t.remainder rest) = some ⟨t.body, t.trail, t.post, rest⟩)
    (hInner : t.body ++ [t.trail] = inside ++ (closeBrackets ++ after)) : ¬ Closable inside := by
  rintro ⟨body, trail, m, hBlank, rfl⟩
  have hSplit : t.remainder rest = body ++ trail :: (m.written ++ closeBrackets ++
      (after ++ (t.post.written ++ (closeBrackets ++ rest)))) := by
    rw [Tag.remainder_eq, hInner]
    simp only [List.append_assoc, List.cons_append]
  have hShort := readTail?_shortest hTail hBlank hSplit
  have hLength := congrArg List.length hInner
  simp only [List.length_append, List.length_cons, List.length_nil, closeBrackets] at hLength
  simp only at hShort
  omega

theorem First.tail {before after text : List Char} {c : Char} (hc : c ≠ ']')
    (h : First closeBrackets before after (c :: text)) :
    ∃ inside, before = c :: inside ∧ First closeBrackets inside after text := by
  cases before with
  | nil => exact absurd (eq_of_closing ⟨after, h.split.symm⟩) hc
  | cons d inside =>
    obtain ⟨hd, hSplit⟩ := List.cons.inj h.split
    exact ⟨inside, by rw [hd], hSplit, fun k hk => h.first (k + 1) (Nat.succ_lt_succ hk)⟩

/-- What is wrong with the inside of a tag is wrong with the whole. -/
theorem blames_of_swallowedBrackets? {f : Finding} (hCut : cut s = .tagged text t rest)
    (h : swallowedBrackets? t rest = some f) :
    ∃ before, Blames s f.fault (text ++ before) ∧ before.length = f.offset := by
  have hTail := Tag.readTail?_remainder (cut_tagged_spec hCut).1
  obtain ⟨hLead, hTrail⟩ := isBlank_of_cut hCut
  have hSound : t.opening.Sound := hLead
  have hs : s = text ++ (t.opening.written ++ t.remainder rest) := by
    rw [text_of_cut hCut, Tag.written_append]
  have hLeadClose : t.lead ≠ ']' := ne_of_isBlank hLead (by decide)
  have hTrailClose : t.trail ≠ ']' := ne_of_isBlank hTrail (by decide)
  unfold swallowedBrackets? at h
  split at h
  · rename_i stop hClose
    cases h
    obtain ⟨before, after, hFirst, rfl⟩ := findText?_eq_some hClose
    obtain ⟨inside, rfl, hInner⟩ := hFirst.tail hLeadClose
    have hNext := hInner.append (t.post.written ++ (closeBrackets ++ rest))
    rw [List.append_eq, ← Tag.remainder_eq] at hNext
    refine ⟨t.opening.written ++ inside, ?_, ?_⟩
    · exact .closesLater hSound hs hNext (Tag.not_closable hTail hInner.split)
        (t.canClose_remainder hTrail rest)
    · rw [Tag.written_opening]
      simp only [List.length_append, List.length_cons, List.length_nil]
      omega
  · rename_i hClose
    obtain ⟨_, hOpen, rfl⟩ := Option.map_eq_some_iff.mp h
    obtain ⟨_, _, hFirst, -⟩ := findText?_eq_some hOpen
    refine ⟨[], ?_, rfl⟩
    rw [List.append_nil]
    have hNoClose : ¬ closeBrackets <:+: t.body ++ [t.trail] :=
      fun hInfix => findText?_eq_none_iff.mp hClose (List.infix_cons hInfix)
    have hLeadOpen : '[' ∉ [t.lead] := by
      rw [List.mem_singleton]
      exact (ne_of_isBlank hLead (by decide)).symm
    have hInner : openBrackets <:+: t.body ++ [t.trail] :=
      infix_of_append hLeadOpen hFirst.isInfix
    have hNext := ((First.start closeBrackets rest).append_left
      t.post.bracket_not_mem.1).append_body hTrailClose hNoClose
    rw [List.append_nil] at hNext
    refine .noEnd hSound hs (.inr ⟨_, _, hNext, hInner.trans ⟨[], t.post.written, ?_⟩⟩)
    simp

end

/-! ## Whole templates -/

/-- Brackets that end a reading are wrong with all that is left of the template. -/
theorem blames_of_ahead {s : List Char} {f : Finding} (h : ahead s = .fault f) :
    ∃ before, Blames s f.fault before ∧ before.length = f.offset := by
  unfold ahead at h
  split at h
  · cases h
  · rename_i c s
    split at h
    · rename_i text hCut
      obtain ⟨rfl, hNone⟩ := cut_plain_spec hCut
      split at h
      · rename_i hStray
        cases h
        obtain ⟨before, hBefore, hLength⟩ := stray_of_strayBrackets? hStray
        exact ⟨before, hBefore.blames hNone, hLength⟩
      · cases h
    · rename_i text t rest hCut
      split at h
      · rename_i hStray
        cases h
        obtain ⟨before, hBefore, hLength⟩ := stray_of_strayBrackets? hStray
        exact ⟨before, hBefore.blames_tagged hCut, hLength⟩
      · split at h
        · rename_i hSwallowed
          cases h
          obtain ⟨before, hBlames, hLength⟩ := blames_of_swallowedBrackets? hCut hSwallowed
          exact ⟨text ++ before, hBlames, by rw [List.length_append, hLength]⟩
        · cases h

/-- Where the text after a tag begins: at the end of a tag that a reading finds, or at the start of
the template. -/
inductive EndsTag (s : List Char) : (behind : List Char) → Prop
  | start : EndsTag s []
  | tag {before after : List Char} {t : Tag} (hFinds : Finds s before t after) :
      EndsTag s (before ++ t.written)

theorem bracket_not_mem_stripLeading (m : Marker) (s : List Char) : '[' ∉ (stripLeading m s).1 := by
  intro hMem
  have hStop : ¬ Strippable '[' := by
    unfold Strippable
    decide
  exact hStop (stripLeading_strippable m s _ hMem)

/-- An error that is found from a place on is about what follows a tag, or the place. -/
theorem Place.blames_found {source past : List Char} {p : Place} (hp : p.In source past)
    {segs : List Segment} {e : TagError} (h : p.found source = (segs, some e)) :
    ∃ behind left before, p.rest = behind ++ left ∧ EndsTag p.rest behind ∧
      Blames left e.fault before ∧ e.line = newlines (past ++ behind ++ before) + 1 := by
  generalize hn : p.rest.length = n
  induction n using Nat.strongRecOn generalizing p past segs with
  | ind n ih =>
    cases hAhead : ahead p.rest with
    | nothing =>
      rw [Place.found_nothing hAhead] at h
      cases h
    | text text =>
      rw [Place.found_text hAhead] at h
      cases h
    | fault finding =>
      rw [Place.found_fault hAhead] at h
      cases h
      obtain ⟨before, hBlames, hLength⟩ := blames_of_ahead hAhead
      have hRest : ∃ rest, before ++ rest = p.rest := by
        obtain ⟨after, hSplit | hSplit⟩ := hBlames.brackets
        · exact ⟨_, hSplit.symm⟩
        · exact ⟨_, hSplit.symm⟩
      obtain ⟨rest, hRest⟩ := hRest
      refine ⟨[], p.rest, before, rfl, .start, hBlames, ?_⟩
      simp only [← hLength, List.append_nil]
      exact hp.lineAt_add hRest
    | tagged text tag rest =>
      rw [Place.found_tagged hAhead] at h
      obtain ⟨-, hError⟩ := Prod.mk.inj h
      obtain ⟨behind, left, before, hSplit, hEnds, hBlames, hLine⟩ :=
        ih _ (hn ▸ Place.after_rest_lt hAhead) (hp.after hAhead) (Prod.ext rfl hError) rfl
      have hAll : p.rest = text ++ tag.written ++ ((stripLeading tag.post rest).1 ++
          (p.after text tag rest).rest) := by
        rw [← ahead_tagged hAhead, Place.after, stripLeading_append]
      cases hEnds with
      | start =>
        -- no tag follows, so the error is about what follows this one, stripped lines included
        rw [List.nil_append] at hSplit
        rw [hSplit] at hAll
        refine ⟨text ++ tag.written, _, _, hAll, .tag (.here hAhead),
          hBlames.prepend (bracket_not_mem_stripLeading tag.post rest), ?_⟩
        rw [hLine]
        simp only [List.append_assoc, List.append_nil]
      | @tag front after t hFinds =>
        refine ⟨_, left, before, ?_, .tag (.later hAhead hFinds), hBlames, ?_⟩
        · rw [hAll, hSplit]
          simp only [List.append_assoc]
        · rw [hLine]
          simp only [List.append_assoc]

/-- **An error of the tag grammar says what is wrong with the template.** Behind the last tag before
the brackets to blame, or from the start of the template on, there are brackets with just that
fault, the rest of the template being looked at to its end. They stand on the line of the error. -/
theorem readWith_diagnosed {source : List Char} {segs : List Segment} {e : TagError}
    (h : (readWith source LineCursor.start).1 = (segs, some e)) :
    ∃ behind left before, source = behind ++ left ∧ EndsTag source behind ∧
      Blames left e.fault before ∧ e.line = newlines (behind ++ before) + 1 ∧
      ∃ after, left = before ++ (openBrackets ++ after) ∨
        left = before ++ (closeBrackets ++ after) := by
  rw [(readWith_spec (LineCursor.start_valid source)).1] at h
  obtain ⟨behind, left, before, hSplit, hEnds, hBlames, hLine⟩ :=
    (Place.start source).blames_found (Place.in_start source) h
  exact ⟨behind, left, before, hSplit, hEnds, hBlames, hLine, hBlames.brackets⟩

/-- A template whose second tag has closing brackets, on its second line, that cannot close it. -/
def overlongTemplate : List Char := "[[ a ]]\nx [[-# b\nd]] c ]]".toList

/-- What a reading of it finds before it stops. -/
def overlongSegments : List Segment :=
  [⟨[], 1, some ⟨⟨.hyphens 0, false, ' ', ['a'], ' ', .hyphens 0⟩, 1, [], []⟩⟩]

/-- The error that stops it. -/
def overlongError : TagError := ⟨.noBlankBeforeEnd, 3, "[[-# b\nd]]".toList⟩

theorem readWith_diagnosed_overlong :
    (readWith overlongTemplate LineCursor.start).1 = (overlongSegments, some overlongError) ∧
      ∃ behind left before, overlongTemplate = behind ++ left ∧ EndsTag overlongTemplate behind ∧
        Blames left overlongError.fault before ∧
        overlongError.line = newlines (behind ++ before) + 1 ∧
        ∃ after, left = before ++ (openBrackets ++ after) ∨
          left = before ++ (closeBrackets ++ after) :=
  have h : (readWith overlongTemplate LineCursor.start).1 =
      (overlongSegments, some overlongError) := by decide +kernel
  ⟨h, readWith_diagnosed h⟩

end Stencil.Template
