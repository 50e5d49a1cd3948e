import Mathlib.Data.List.TakeWhile
import Mathlib.Logic.Relation
import Stencil.Proofs.Template.BlankGroups

/-!
# The blank lines that are stripped after a tag

Stripping after a tag takes blank lines from the front of what follows, one with each pass of a
loop. A blank line ends with its line break, so none is the beginning of another one, and the text
alone says which blank lines it begins with. The marker only says how many of them are taken: a
hyphen allows one pass, and a plus sign allows any number of them. With a plus sign the loop comes
to an end because each pass takes a line feed and the next one begins behind it.

* `padAndBreak?_eq_some_iff`: what is read is a blank line.
* `LeadingLines`: the blank lines with which a text begins, as many as there are.
* `LeadingLines.stripLeading_eq`: a marker takes its share of them.
* `Pass`: one pass of the loop, and `wellFounded_pass`: it is not run for ever.
* `stopsAt_iff`: the offset at which the loop comes to an end.
* `stripLeadingFrom_takes_lines`: what is stripped from any offset of a source on.
-/

namespace Stencil.Template

/-! ## Blank lines -/

/-- A blank line: spaces and tabs, and a line feed, with or without a carriage return in front of
it. -/
def IsBlankLine (g : List Char) : Prop :=
  ∃ pads, (∀ c ∈ pads, isPad c = true) ∧ (g = pads ++ ['\n'] ∨ g = pads ++ ['\r', '\n'])

theorem IsBlankLine.length_pos {g : List Char} (h : IsBlankLine g) : 0 < g.length := by
  obtain ⟨pads, -, rfl | rfl⟩ := h
  · simp
  · simp

theorem split_pads {pads : List Char} (h : ∀ c ∈ pads, isPad c = true) {c : Char}
    (hc : isPad c = false) (s : List Char) :
    (pads ++ c :: s).takeWhile isPad = pads ∧ (pads ++ c :: s).dropWhile isPad = c :: s := by
  have hStop : ¬ isPad c = true := by rw [hc]; exact Bool.false_ne_true
  constructor
  · rw [List.takeWhile_append_of_pos h, List.takeWhile_cons_of_neg hStop, List.append_nil]
  · rw [List.dropWhile_append_of_pos h, List.dropWhile_cons_of_neg hStop]

/-- What is read off the front of a text is a blank line, and a blank line at the front is read. -/
theorem padAndBreak?_eq_some_iff {s g rest : List Char} :
    padAndBreak? s = some (g, rest) ↔ IsBlankLine g ∧ s = g ++ rest := by
  constructor
  · intro h
    refine ⟨?_, (padAndBreak?_append h).symm⟩
    have hPads : ∀ c ∈ s.takeWhile isPad, isPad c = true := fun c hc => List.mem_takeWhile_imp hc
    unfold padAndBreak? at h
    split at h
    · cases h
      exact ⟨_, hPads, .inl rfl⟩
    · cases h
      exact ⟨_, hPads, .inr rfl⟩
    · cases h
  · rintro ⟨⟨pads, hPads, rfl | rfl⟩, rfl⟩
    · obtain ⟨hTake, hDrop⟩ := split_pads hPads (c := '\n') rfl rest
      simp only [padAndBreak?, List.append_assoc, List.cons_append, List.nil_append, hTake, hDrop]
    · obtain ⟨hTake, hDrop⟩ := split_pads hPads (c := '\r') rfl ('\n' :: rest)
      simp only [padAndBreak?, List.append_assoc, List.cons_append, List.nil_append, hTake, hDrop]

/-- Nothing is read only if no blank line is there. -/
theorem padAndBreak?_eq_none_iff {s : List Char} :
    padAndBreak? s = none ↔ ∀ g, IsBlankLine g → ¬ g <+: s := by
  constructor
  · rintro h g hg ⟨rest, rfl⟩
    rw [padAndBreak?_eq_some_iff.mpr ⟨hg, rfl⟩] at h
    cases h
  · intro h
    cases hRead : padAndBreak? s with
    | none => rfl
    | some r =>
      obtain ⟨hg, hs⟩ := padAndBreak?_eq_some_iff.mp hRead
      exact absurd ⟨r.2, hs.symm⟩ (h r.1 hg)

/-- A text begins with some blank lines, and no other blank line follows them. -/
structure LeadingLines (gs : List (List Char)) (rest text : List Char) : Prop where
  split : text = gs.flatten ++ rest
  lines : ∀ g ∈ gs, IsBlankLine g
  ends : ∀ g, IsBlankLine g → ¬ g <+: rest

theorem exists_leadingLines (text : List Char) : ∃ gs rest, LeadingLines gs rest text := by
  -- The induction is on the length of the text, as a blank line takes a character or more.
  induction hLength : text.length using Nat.strongRecOn generalizing text with
  | ind n ih =>
    cases hRead : padAndBreak? text with
    | none =>
      exact ⟨[], text, rfl, fun _ hg => (nomatch hg), padAndBreak?_eq_none_iff.mp hRead⟩
    | some r =>
      obtain ⟨g, text'⟩ := r
      obtain ⟨hg, hText⟩ := padAndBreak?_eq_some_iff.mp hRead
      have hLess : text'.length < n := hLength ▸ padAndBreak?_length_lt hRead
      obtain ⟨gs, rest, h⟩ := ih _ hLess text' rfl
      refine ⟨g :: gs, rest, ?_, List.forall_mem_cons.mpr ⟨hg, h.lines⟩, h.ends⟩
      rw [hText, h.split, List.flatten_cons, List.append_assoc]

namespace LeadingLines

variable {g rest text : List Char} {gs : List (List Char)}

theorem padAndBreak?_nil (h : LeadingLines [] rest text) : padAndBreak? text = none := by
  rw [h.split]
  exact padAndBreak?_eq_none_iff.mpr h.ends

theorem padAndBreak?_cons (h : LeadingLines (g :: gs) rest text) :
    padAndBreak? text = some (g, gs.flatten ++ rest) := by
  rw [padAndBreak?_eq_some_iff, h.split, List.flatten_cons, List.append_assoc]
  exact ⟨h.lines g List.mem_cons_self, rfl⟩

theorem tail (h : LeadingLines (g :: gs) rest text) :
    LeadingLines gs rest (gs.flatten ++ rest) :=
  ⟨rfl, fun k hk => h.lines k (List.mem_cons_of_mem g hk), h.ends⟩

/-- A blank line with which the text begins is the first of these. -/
theorem exists_cons (h : LeadingLines gs rest text) (hLine : IsBlankLine g) {after : List Char}
    (hText : text = g ++ after) : ∃ gs', gs = g :: gs' ∧ LeadingLines gs' rest after := by
  have hRead : padAndBreak? text = some (g, after) := padAndBreak?_eq_some_iff.mpr ⟨hLine, hText⟩
  cases gs with
  | nil =>
    rw [h.padAndBreak?_nil] at hRead
    cases hRead
  | cons k gs =>
    rw [h.padAndBreak?_cons, Option.some.injEq, Prod.mk.injEq] at hRead
    obtain ⟨rfl, rfl⟩ := hRead
    exact ⟨gs, rfl, h.tail⟩

/-- Blank lines with which the text begins are the first of these. -/
theorem isPrefix (h : LeadingLines gs rest text) {hs : List (List Char)}
    (hLines : ∀ k ∈ hs, IsBlankLine k) (hHere : hs.flatten <+: text) : hs <+: gs := by
  induction hs generalizing gs text with
  | nil => exact List.nil_prefix
  | cons k hs ih =>
    obtain ⟨hk, hRest⟩ := List.forall_mem_cons.mp hLines
    obtain ⟨after, hText⟩ := hHere
    rw [List.flatten_cons, List.append_assoc] at hText
    obtain ⟨gs', rfl, hTail⟩ := h.exists_cons hk hText.symm
    exact (List.prefix_cons_inj k).mpr (ih hTail hRest (List.prefix_append _ after))

theorem length_le (h : LeadingLines gs rest text) : gs.length ≤ text.length := by
  induction gs generalizing text with
  | nil => exact Nat.zero_le _
  | cons g gs ih =>
    have hTail := ih h.tail
    have hLess := padAndBreak?_length_lt h.padAndBreak?_cons
    rw [List.length_cons]
    omega

/-- The first lines are taken, and all of them if there are fewer than may be taken. -/
theorem takeGroups_eq (h : LeadingLines gs rest text) (n : Nat) :
    takeGroups n text = ((gs.take n).flatten, (gs.drop n).flatten ++ rest) := by
  induction n generalizing gs text with
  | zero =>
    rw [h.split]
    rfl
  | succ n ih =>
    cases gs with
    | nil =>
      rw [takeGroups, h.padAndBreak?_nil, h.split]
      rfl
    | cons g gs =>
      rw [takeGroups, h.padAndBreak?_cons]
      simp only [ih h.tail, List.take_succ_cons, List.drop_succ_cons, List.flatten_cons]

/-- A marker takes its share of the lines. -/
theorem stripLeading_eq (h : LeadingLines gs rest text) (m : Marker) :
    stripLeading m text = ((gs.take (m.share gs.length)).flatten,
      (gs.drop (m.share gs.length)).flatten ++ rest) := by
  unfold stripLeading
  cases m with
  | hyphens n =>
    rw [Marker.limit, Marker.share, h.takeGroups_eq, ← List.take_eq_take_min]
    rcases Nat.le_total n gs.length with hn | hn
    · rw [Nat.min_eq_left hn]
    · rw [Nat.min_eq_right hn, List.drop_length, List.drop_of_length_le hn]
  | plus =>
    rw [Marker.limit, Marker.share, h.takeGroups_eq, List.take_length, List.drop_length,
      List.take_of_length_le h.length_le, List.drop_of_length_le h.length_le]

end LeadingLines

/-! ## The loop -/

/-- A place in the loop: the offset that is reached, and what is left of the marker. -/
structure Stage where
  offset : Nat
  marker : Marker

/-- What a marker leaves of itself when it has taken a blank line, if it may take one. -/
def Marker.less? : Marker → Option Marker
  | hyphens 0 => none
  | hyphens (n + 1) => some (hyphens n)
  | plus => some plus

/-- One pass of the loop: the marker allows another blank line, and one stands at the offset. -/
inductive Pass (source : List Char) : Stage → Stage → Prop
  | take {offset : Nat} {m m' : Marker} {g : List Char} (hMarker : m.less? = some m')
      (hLine : IsBlankLine g) (hHere : g <+: source.drop offset) :
      Pass source ⟨offset, m⟩ ⟨offset + g.length, m'⟩

/-- The loop comes to an end at an offset. -/
def StopsAt (source : List Char) (start : Stage) (offset : Nat) : Prop :=
  ∃ m, Relation.ReflTransGen (Pass source) start ⟨offset, m⟩ ∧
    ∀ next, ¬ Pass source ⟨offset, m⟩ next

/-- A marker that may take a line has as many lines more than what it leaves of itself. -/
theorem Marker.share_succ {m m' : Marker} (h : m.less? = some m') (count : Nat) :
    m.share (count + 1) = m'.share count + 1 := by
  cases m with
  | hyphens n =>
    cases n with
    | zero => cases h
    | succ n =>
      cases h
      exact Nat.succ_min_succ n count
  | plus =>
    cases h
    rfl

theorem Marker.share_of_less?_none {m : Marker} (h : m.less? = none) (count : Nat) :
    m.share count = 0 := by
  cases m with
  | hyphens n =>
    cases n with
    | zero => exact Nat.zero_min count
    | succ n => cases h
  | plus => cases h

/-- What is left of a source where stripping stops. -/
theorem drop_stripLeadingFrom (source : List Char) (offset : Nat) (m : Marker) :
    source.drop (stripLeadingFrom source offset m) = (stripLeading m (source.drop offset)).2 := by
  have hLeft : ((stripLeading m (source.drop offset)).1 ++
      (stripLeading m (source.drop offset)).2).drop (stripLeading m (source.drop offset)).1.length =
      (stripLeading m (source.drop offset)).2 := List.drop_left
  rw [stripLeading_append, List.drop_drop] at hLeft
  exact hLeft

theorem LeadingLines.stripLeadingFrom_eq {source rest : List Char} {offset : Nat}
    {gs : List (List Char)} (h : LeadingLines gs rest (source.drop offset)) (m : Marker) :
    stripLeadingFrom source offset m =
      offset + (gs.take (m.share gs.length)).flatten.length := by
  rw [stripLeadingFrom, h.stripLeading_eq]

section

variable {source : List Char}

/-- Each pass leaves less of the source. -/
theorem Pass.left_lt {a b : Stage} (h : Pass source a b) :
    source.length - b.offset < source.length - a.offset := by
  cases h with
  | @take offset m m' g hMarker hLine hHere =>
    have hPos := hLine.length_pos
    have hFits := hHere.length_le
    rw [List.length_drop] at hFits
    show source.length - (offset + g.length) < source.length - offset
    omega

/-- The loop is not run for ever, whatever the marker. -/
theorem wellFounded_pass (source : List Char) : WellFounded fun b a => Pass source a b :=
  Subrelation.wf Pass.left_lt (measure fun a : Stage => source.length - a.offset).wf

theorem exists_stopsAt (source : List Char) (start : Stage) :
    ∃ offset, StopsAt source start offset := by
  induction start using (wellFounded_pass source).induction with
  | _ start ih =>
    by_cases hMore : ∃ next, Pass source start next
    · obtain ⟨next, hPass⟩ := hMore
      obtain ⟨offset, m, hRun, hEnd⟩ := ih next hPass
      exact ⟨offset, m, .head hPass hRun, hEnd⟩
    · exact ⟨start.offset, start.marker, .refl, fun next hPass => hMore ⟨next, hPass⟩⟩

/-- A pass does not change where stripping stops. -/
theorem Pass.stripLeadingFrom_eq {a b : Stage} (h : Pass source a b) :
    stripLeadingFrom source b.offset b.marker = stripLeadingFrom source a.offset a.marker := by
  cases h with
  | @take offset m m' g hMarker hLine hHere =>
    obtain ⟨after, hHere⟩ := hHere
    obtain ⟨_, rest, hLines⟩ := exists_leadingLines (source.drop offset)
    obtain ⟨gs, rfl, hTail⟩ := hLines.exists_cons hLine hHere.symm
    have hNext : source.drop (offset + g.length) = after := by
      rw [← List.drop_drop, ← hHere, List.drop_left]
    rw [← hNext] at hTail
    rw [hLines.stripLeadingFrom_eq, hTail.stripLeadingFrom_eq, List.length_cons,
      Marker.share_succ hMarker, List.take_succ_cons, List.flatten_cons, List.length_append,
      Nat.add_assoc]

theorem stripLeadingFrom_of_run {a b : Stage} (h : Relation.ReflTransGen (Pass source) a b) :
    stripLeadingFrom source b.offset b.marker = stripLeadingFrom source a.offset a.marker := by
  induction h with
  | refl => rfl
  | tail _ hPass ih => rw [hPass.stripLeadingFrom_eq, ih]

/-- Where there is no further pass, nothing is stripped. -/
theorem stripLeadingFrom_of_end {a : Stage} (h : ∀ next, ¬ Pass source a next) :
    stripLeadingFrom source a.offset a.marker = a.offset := by
  obtain ⟨offset, m⟩ := a
  obtain ⟨gs, rest, hLines⟩ := exists_leadingLines (source.drop offset)
  rw [hLines.stripLeadingFrom_eq]
  cases hMarker : m.less? with
  | none =>
    rw [Marker.share_of_less?_none hMarker]
    rfl
  | some m' =>
    cases gs with
    | nil =>
      rw [List.take_nil]
      rfl
    | cons g gs =>
      have hHere : g <+: source.drop offset := ⟨gs.flatten ++ rest, by
        rw [hLines.split, List.flatten_cons, List.append_assoc]⟩
      exact absurd (.take hMarker (hLines.lines g List.mem_cons_self) hHere) (h _)

/-- The loop comes to an end at one offset, which is where stripping stops. -/
theorem stopsAt_iff {offset stop : Nat} {m : Marker} :
    StopsAt source ⟨offset, m⟩ stop ↔ stop = stripLeadingFrom source offset m := by
  have hOnly : ∀ stop, StopsAt source ⟨offset, m⟩ stop →
      stop = stripLeadingFrom source offset m := by
    rintro stop ⟨m', hRun, hEnd⟩
    rw [← stripLeadingFrom_of_run hRun]
    exact (stripLeadingFrom_of_end hEnd).symm
  refine ⟨hOnly stop, fun h => ?_⟩
  obtain ⟨last, hLast⟩ := exists_stopsAt source ⟨offset, m⟩
  rw [h, ← hOnly last hLast]
  exact hLast

end

/-! ## Whole sources -/

/-- **Stripping after a tag takes blank lines.** At every offset a source goes on with a number of
blank lines, which may be none. Hyphens take as many of them as there are hyphens, if there are so
many, and a plus sign takes all, so that what follows does not begin with a blank line. Stripping
never goes back, and from the end of the source on it stays where it is. The loop behind it comes to
an end for every marker, and where it does so is what is answered. -/
theorem stripLeadingFrom_takes_lines (source : List Char) (offset : Nat) :
    ∃ gs rest, LeadingLines gs rest (source.drop offset) ∧
      (∀ hs : List (List Char), (∀ g ∈ hs, IsBlankLine g) →
        hs.flatten <+: source.drop offset → hs.length ≤ gs.length) ∧
      (∀ n, stripLeadingFrom source offset (.hyphens n) =
        offset + (gs.take (min n gs.length)).flatten.length) ∧
      stripLeadingFrom source offset .plus = offset + gs.flatten.length ∧
      (∀ g, IsBlankLine g → ¬ g <+: source.drop (stripLeadingFrom source offset .plus)) ∧
      (∀ m, offset ≤ stripLeadingFrom source offset m) ∧
      (∀ m, source.length ≤ offset → stripLeadingFrom source offset m = offset) ∧
      (WellFounded fun b a => Pass source a b) ∧
      ∀ m stop, StopsAt source ⟨offset, m⟩ stop ↔ stop = stripLeadingFrom source offset m := by
  obtain ⟨gs, rest, h⟩ := exists_leadingLines (source.drop offset)
  have hPlus : stripLeadingFrom source offset .plus = offset + gs.flatten.length := by
    rw [h.stripLeadingFrom_eq, Marker.share, List.take_length]
  have hRest : source.drop (stripLeadingFrom source offset .plus) = rest := by
    rw [drop_stripLeadingFrom, h.stripLeading_eq, Marker.share, List.drop_length]
    rfl
  refine ⟨gs, rest, h, fun hs hLines hHere => (h.isPrefix hLines hHere).length_le,
    fun n => h.stripLeadingFrom_eq (.hyphens n), hPlus, ?_, fun m => Nat.le_add_right _ _,
    fun m hPast => ?_, wellFounded_pass source, fun m stop => stopsAt_iff⟩
  · rw [hRest]
    exact h.ends
  · have hNone : source.drop offset = [] := List.drop_of_length_le hPast
    rw [stripLeadingFrom, hNone, stripLeading, takeGroups_nil]
    rfl

/-- One blank line is taken, with its carriage return. The next one stays, and so do the blanks that
no line feed follows. -/
example : stripLeadingFrom "]] \t\r\n\n  b".toList 2 (.hyphens 1) = 6 := by decide

end Stencil.Template
