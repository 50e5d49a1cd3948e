import Stencil.Program.Frame
import Stencil.Proofs.Template.Unmarked

/-!
# Comments

A comment has no part in a program but for its line feeds. A reading finds the tags of a template
one after the other, and what it finds after a tag depends on what is left of the template and on
the line it has reached, not on what the tag says. So a comment may say anything else on as many
lines.

* `Finds`: a tag that a reading finds, with what stands before it and after it.
* `exists_finds`: every tag of a template is found.
* `Place.found_congr`: what is found from a place on.
* `Finds.chunksFound_eq`: a comment that says something else leaves the chunks as they are.
* `comments_inert`: and so does it leave the program.
-/

namespace Stencil.Template

open Text

/-! ## Tags that have been read can be written -/

theorem isBlank_of_readHead? {s rest : List Char} {h : TagHead}
    (hs : readHead? s = some (h, rest)) : isBlank h.lead = true := by
  unfold readHead? at hs
  split at hs
  · split at hs
    · split at hs
      · cases hs
        assumption
      · cases hs
    · split at hs
      · cases hs
        assumption
      · cases hs
    · cases hs
  · cases hs

theorem isBlank_of_readTail? {s : List Char} {t : TagTail} (h : readTail? s = some t) :
    isBlank t.trail = true := by
  induction s generalizing t with
  | nil => cases h
  | cons c s ih =>
    simp only [readTail?] at h
    split at h
    · rename_i hClose
      cases h
      split at hClose
      · assumption
      · cases hClose
    · obtain ⟨u, hTail, rfl⟩ := Option.map_eq_some_iff.mp h
      exact ih (t := u) hTail

theorem Tag.isBlank_of_ofText? {s rest : List Char} {t : Tag}
    (h : Tag.ofText? s = some (t, rest)) : isBlank t.lead = true ∧ isBlank t.trail = true := by
  unfold Tag.ofText? at h
  split at h
  · cases h
  · rename_i head _ hHead
    split at h
    · cases h
    · rename_i tail hTail
      cases h
      exact ⟨isBlank_of_readHead? hHead, isBlank_of_readTail? hTail⟩

theorem isBlank_of_cut {s text rest : List Char} {t : Tag} (h : cut s = .tagged text t rest) :
    isBlank t.lead = true ∧ isBlank t.trail = true := by
  induction s generalizing text with
  | nil => cases h
  | cons c s ih =>
    simp only [cut] at h
    split at h
    · rename_i hTag
      cases h
      exact Tag.isBlank_of_ofText? hTag
    · cases hCut : cut s with
      | plain _ =>
        rw [hCut] at h
        cases h
      | tagged _ _ _ =>
        rw [hCut] at h
        cases h
        exact ih hCut

/-- A tag that lies ahead can be written, and the text before it is plain. -/
theorem sound_of_ahead {s text rest : List Char} {t : Tag} (h : ahead s = .tagged text t rest) :
    Plain text ∧ t.Sound := by
  obtain ⟨-, hText, hInner⟩ := ahead_tagged_spec h
  obtain ⟨hLead, hTrail⟩ := isBlank_of_cut (cut_of_ahead_tagged h)
  exact ⟨hText, hLead, hTrail, hInner⟩

theorem ahead_written {text : List Char} {t : Tag} (hText : Plain text) (ht : t.Sound)
    (rest : List Char) : ahead (text ++ (t.written ++ rest)) = .tagged text t rest :=
  ahead_eq_of_tagged (cut_written hText.noOpen ht rest) hText ht.inner

/-! ## Tags that a reading finds -/

/-- A tag that the reading of a text finds, between what stands before it and what stands after it.
After a tag the reading goes on behind the blank lines that the tag strips. -/
inductive Finds : List Char → (before : List Char) → Tag → (after : List Char) → Prop
  | here {s text rest : List Char} {t : Tag} (hAhead : ahead s = .tagged text t rest) :
      Finds s text t rest
  | later {s text rest before after : List Char} {u t : Tag}
      (hAhead : ahead s = .tagged text u rest)
      (hRest : Finds (stripLeading u.post rest).2 before t after) :
      Finds s (text ++ u.written ++ (stripLeading u.post rest).1 ++ before) t after

/-- Nothing is lost between the tag and what stands around it. -/
theorem Finds.written_eq {s before after : List Char} {t : Tag} (h : Finds s before t after) :
    before ++ (t.written ++ after) = s := by
  induction h with
  | here hAhead =>
    rw [← List.append_assoc]
    exact ahead_tagged hAhead
  | later hAhead _ ih =>
    rw [List.append_assoc, ih, List.append_assoc, stripLeading_append]
    exact ahead_tagged hAhead

/-- Every tag of a segment is found, on the line that the segment says. -/
theorem Place.exists_finds {source past : List Char} {p : Place} (hp : p.In source past)
    {s : Segment} {t : PlacedTag} (hs : s ∈ (p.found source).1) (ht : s.tag? = some t) :
    ∃ before after, Finds p.rest before t.tag after ∧ t.line = newlines (past ++ before) + 1 := by
  generalize hn : p.rest.length = n
  induction n using Nat.strongRecOn generalizing p past with
  | ind n ih =>
    cases hAhead : ahead p.rest with
    | nothing =>
      rw [Place.found_nothing hAhead] at hs
      cases hs
    | text text =>
      rw [Place.found_text hAhead] at hs
      rw [List.mem_singleton.mp hs] at ht
      cases ht
    | fault finding =>
      rw [Place.found_fault hAhead] at hs
      cases hs
    | tagged text tag rest =>
      rw [Place.found_tagged hAhead] at hs
      rcases List.mem_cons.mp hs with rfl | hs
      · have hText : text ++ (tag.written ++ rest) = p.rest := by
          rw [← List.append_assoc, ahead_tagged hAhead]
        cases ht
        exact ⟨text, rest, .here hAhead, hp.lineAt_add hText⟩
      · obtain ⟨before, after, hFinds, hLine⟩ :=
          ih _ (hn ▸ Place.after_rest_lt hAhead) (hp.after hAhead) hs rfl
        refine ⟨_, after, .later hAhead hFinds, ?_⟩
        rw [hLine]
        simp only [List.append_assoc]

/-- Every tag of a template is found. -/
theorem exists_finds {source : List Char} {segs : List Segment} (h : segments source = .ok segs)
    {s : Segment} {t : PlacedTag} (hs : s ∈ segs) (ht : s.tag? = some t) :
    ∃ before after, Finds source before t.tag after ∧ t.line = newlines before + 1 := by
  have hFound : (Place.start source).found source = (segs, none) := segments_eq_ok_iff.mp h
  have hMem : s ∈ ((Place.start source).found source).1 := by
    rw [hFound]
    exact hs
  exact (Place.start source).exists_finds (Place.in_start source) hMem ht

/-! ## What comes after a tag -/

/-- The line of an offset from a place. -/
theorem Place.In.lineAt_offset {p : Place} {source past : List Char} (h : p.In source past)
    (k : Nat) : lineAt source (p.offset + k) = newlines past + newlines (p.rest.take k) + 1 := by
  rw [lineAt, h.split, h.offset, List.take_length_add_append, newlines_append]

/-- Two places on the same line have the same text ahead of them: it ends on the same line. -/
theorem Place.In.lineAt_congr {p p' : Place} {source source' past past' : List Char}
    (h : p.In source past) (h' : p'.In source' past') (hLines : newlines past = newlines past')
    {text rest rest' : List Char} (hRest : text ++ rest = p.rest)
    (hRest' : text ++ rest' = p'.rest) :
    lineAt source (p.offset + text.length) = lineAt source' (p'.offset + text.length) := by
  rw [h.lineAt_add hRest, h'.lineAt_add hRest', newlines_append, newlines_append, hLines]

/-- What is found from a place on depends on what is left there and on the line of the place. -/
theorem Place.found_congr {source source' past past' : List Char} {p p' : Place}
    (hp : p.In source past) (hp' : p'.In source' past') (hRest : p.rest = p'.rest)
    (hLines : newlines past = newlines past') : p.found source = p'.found source' := by
  generalize hn : p.rest.length = n
  induction n using Nat.strongRecOn generalizing p p' past past' with
  | ind n ih =>
    have hOffset : ∀ k, lineAt source (p.offset + k) = lineAt source' (p'.offset + k) := by
      intro k
      rw [hp.lineAt_offset, hp'.lineAt_offset, hRest, hLines]
    have hLine : lineAt source p.offset = lineAt source' p'.offset := hOffset 0
    cases hAhead : ahead p.rest with
    | nothing => rw [found_nothing hAhead, found_nothing (hRest ▸ hAhead)]
    | text text => rw [found_text hAhead, found_text (hRest ▸ hAhead), hLine]
    | fault finding => rw [found_fault hAhead, found_fault (hRest ▸ hAhead), hOffset]
    | tagged text tag rest =>
      have hAhead' : ahead p'.rest = .tagged text tag rest := hRest ▸ hAhead
      have hOthers := ih _ (hn ▸ Place.after_rest_lt hAhead) (hp.after hAhead) (hp'.after hAhead')
        rfl (by simp only [newlines_append, hLines]) rfl
      rw [found_tagged hAhead, found_tagged hAhead', hLine, hOffset, hOthers]

/-! ## A comment that says something else -/

/-- A text that can stand between the number sign of a comment and its closing marker. -/
structure CommentText (s : List Char) : Prop where
  length : 2 ≤ s.length
  first : ∀ c ∈ s.head?, isBlank c = true
  last : ∀ c ∈ s.getLast?, isBlank c = true
  plain : Plain s

/-- A tag with another text between its markers, its number sign apart. -/
def Tag.rewritten (t : Tag) (inside : List Char) : List Char :=
  t.head ++ inside ++ t.post.written ++ closeBrackets

/-- Two tags that a reading treats alike: comments with the same markers and as many line feeds. -/
structure Tag.SameComment (t t' : Tag) : Prop where
  comment : t.isComment = true
  comment' : t'.isComment = true
  pre : t.pre = t'.pre
  post : t.post = t'.post
  feeds : newlines t.inner = newlines t'.inner

/-- A comment with another text is a comment that can be written. -/
theorem CommentText.exists_tag {inside : List Char} (h : CommentText inside) {t : Tag}
    (ht : t.isComment = true) (hFeeds : newlines inside = newlines t.inner) :
    ∃ t' : Tag, t.rewritten inside = t'.written ∧ t'.Sound ∧ t.SameComment t' := by
  obtain ⟨lead, others, rfl⟩ : ∃ lead others, inside = lead :: others := by
    cases inside with
    | nil => exact absurd h.length (by decide)
    | cons lead others => exact ⟨lead, others, rfl⟩
  have hOthers : others ≠ [] := by
    rintro rfl
    exact Nat.not_succ_le_self 1 h.length
  obtain ⟨body, trail, rfl⟩ : ∃ body trail, others = body ++ [trail] :=
    ⟨_, _, (List.dropLast_concat_getLast hOthers).symm⟩
  have hTrail : (lead :: (body ++ [trail])).getLast? = some trail :=
    List.getLast?_concat (l := lead :: body)
  refine ⟨{ t with lead := lead, body := body, trail := trail }, rfl, ⟨?_, ?_, h.plain⟩, ?_⟩
  · exact h.first lead rfl
  · exact h.last trail hTrail
  · exact ⟨ht, ht, rfl, rfl, hFeeds.symm⟩

/-- What a reading has found, in chunks. -/
def chunksFound (found : List Segment × Option TagError) : List Chunk × Option TagError :=
  (found.1.flatMap Segment.chunks, found.2)

theorem chunks_eq_chunksFound (source : List Char) :
    chunks source =
      match chunksFound ((Place.start source).found source) with
      | (cs, none) => .ok cs
      | (_, some e) => .error e := by
  have hFound : (Place.start source).found source = readSegments source := rfl
  unfold chunks segments chunksFound
  rw [hFound]
  cases readSegments source with
  | mk segs error? => cases error? <;> rfl

theorem fillers_congr {s s' : List Char} (h : newlines s = newlines s') (line : Int) :
    Chunk.fillers s line = Chunk.fillers s' line := by
  unfold Chunk.fillers Chunk.filler
  rw [h]

/-- Segments that end with comments which a reading treats alike have the same chunks, if they are
the same otherwise. -/
theorem Tag.SameComment.chunks_eq {t t' : Tag} (h : t.SameComment t') (text : List Char)
    (line tagLine : Nat) (pre post : List Char) :
    Segment.chunks ⟨text, line, some ⟨t, tagLine, pre, post⟩⟩ =
      Segment.chunks ⟨text, line, some ⟨t', tagLine, pre, post⟩⟩ := by
  rw [Segment.chunks_of_some rfl, Segment.chunks_of_some rfl]
  unfold PlacedTag.chunks
  simp only [h.comment, h.comment', if_true]
  rw [fillers_congr h.feeds]
  rfl

/-- Blank lines are stripped in front of one tag as in front of another. -/
theorem stripLeading_exchange {m : Marker} {stripped before after after' : List Char} {t t' : Tag}
    (h : stripLeading m (stripped ++ before ++ (t.written ++ after)) =
      (stripped, before ++ (t.written ++ after))) :
    stripLeading m (stripped ++ before ++ (t'.written ++ after')) =
      (stripped, before ++ (t'.written ++ after')) := by
  rw [stripLeading_append_written] at h ⊢
  obtain ⟨hStripped, hLeft⟩ := Prod.mk.inj h
  rw [hStripped, List.append_cancel_right hLeft]

/-- A comment that says something else leaves the chunks that are found as they are. The induction
follows the reading up to the comment; behind it both readings have the same text ahead of them, on
the same line. -/
theorem Finds.chunksFound_eq {s before after : List Char} {t t' : Tag} (h : Finds s before t after)
    (ht' : t'.Sound) (hSame : t.SameComment t') {source source' past past' : List Char}
    {p p' : Place} (hp : p.In source past) (hp' : p'.In source' past') (hRest : p.rest = s)
    (hRest' : p'.rest = before ++ (t'.written ++ after)) (hLines : newlines past = newlines past') :
    chunksFound (p.found source) = chunksFound (p'.found source') := by
  induction h generalizing past past' p p' with
  | @here s text rest t hAhead =>
    subst hRest
    have hAhead' : ahead p'.rest = .tagged text t' rest := by
      rw [hRest']
      exact ahead_written (sound_of_ahead hAhead).1 ht' rest
    have hLine : lineAt source p.offset = lineAt source' p'.offset :=
      hp.lineAt_congr hp' hLines (List.nil_append _) (List.nil_append _)
    have hTagLine := hp.lineAt_congr hp' hLines (Finds.here hAhead).written_eq hRest'.symm
    have hOthers : (p.after text t rest).found source = (p'.after text t' rest).found source' := by
      refine Place.found_congr (hp.after hAhead) (hp'.after hAhead') ?_ ?_
      · simp only [Place.after, hSame.post]
      · simp only [newlines_append, Tag.newlines_written, hLines, hSame.feeds, hSame.post]
    rw [Place.found_tagged hAhead, Place.found_tagged hAhead', hOthers, hLine, hTagLine, hSame.pre,
      hSame.post]
    simp only [chunksFound, List.flatMap_cons, hSame.chunks_eq]
  | @later s text rest before after u t hAhead hFinds ih =>
    subst hRest
    obtain ⟨hText, hu⟩ := sound_of_ahead hAhead
    have hLeft : (stripLeading u.post rest).2 = before ++ (t.written ++ after) :=
      hFinds.written_eq.symm
    have hOld : stripLeading u.post
          ((stripLeading u.post rest).1 ++ before ++ (t.written ++ after)) =
        ((stripLeading u.post rest).1, before ++ (t.written ++ after)) := by
      rw [List.append_assoc, ← hLeft, stripLeading_append]
    have hStrip : stripLeading u.post
          ((stripLeading u.post rest).1 ++ before ++ (t'.written ++ after)) =
        ((stripLeading u.post rest).1, before ++ (t'.written ++ after)) :=
      stripLeading_exchange hOld
    have hAhead' : ahead p'.rest = .tagged text u
        ((stripLeading u.post rest).1 ++ before ++ (t'.written ++ after)) := by
      rw [hRest', ← ahead_written hText hu]
      simp only [List.append_assoc]
    have hLine : lineAt source p.offset = lineAt source' p'.offset :=
      hp.lineAt_congr hp' hLines (List.nil_append _) (List.nil_append _)
    have hTagLine := hp.lineAt_congr hp' hLines (Finds.here hAhead).written_eq
      (Finds.here hAhead').written_eq
    have hNext := hp'.after hAhead'
    rw [hStrip] at hNext
    have hOthers := ih hSame (hp.after hAhead) hNext rfl (congrArg Prod.snd hStrip)
      (by simp only [newlines_append, hLines])
    obtain ⟨hChunks, hError⟩ := Prod.mk.inj hOthers
    rw [Place.found_tagged hAhead, Place.found_tagged hAhead', hLine, hTagLine, hStrip]
    simp only [chunksFound, List.flatMap_cons, hChunks, hError]

/-- A comment that says something else leaves the chunks of a template as they are. -/
theorem Finds.chunks_eq {source before after : List Char} {t t' : Tag}
    (h : Finds source before t after) (ht' : t'.Sound) (hSame : t.SameComment t') :
    chunks (before ++ (t'.written ++ after)) = chunks source := by
  rw [chunks_eq_chunksFound, chunks_eq_chunksFound,
    h.chunksFound_eq ht' hSame (Place.in_start source) (Place.in_start _) rfl rfl rfl]

/-- **Comments are inert.** Every tag of a template that is accepted is found between what stands
before it and what stands after it. If it is a comment, what stands between its number sign and its
closing marker can be replaced by any other text that can stand there and has as many line feeds:
the program stays the same, character for character. -/
theorem comments_inert {source : List Char} {segs : List Segment}
    (h : segments source = .ok segs) :
    (∀ s ∈ segs, ∀ t ∈ s.tag?, ∃ before after,
        Finds source before t.tag after ∧ t.line = newlines before + 1) ∧
      ∀ (before : List Char) (t : Tag) (after inside : List Char), Finds source before t after →
        t.isComment = true → CommentText inside → newlines inside = newlines t.inner →
          Program.preprocess (before ++ t.rewritten inside ++ after) =
            Program.preprocess source := by
  refine ⟨fun s hs t ht => exists_finds h hs ht, ?_⟩
  intro before t after inside hFinds hComment hInside hFeeds
  obtain ⟨t', hWritten, ht', hSame⟩ := hInside.exists_tag hComment hFeeds
  have hChunks := hFinds.chunks_eq ht' hSame
  rw [← List.append_assoc] at hChunks
  unfold Program.preprocess Program.body
  rw [hWritten, hChunks]

/-- A comment over two lines, behind a tag that strips a blank line. -/
def oldComment : Tag := ⟨.hyphens 0, true, ' ', "old\n".toList, ' ', .plus⟩

/-- A template with this comment. -/
def commentedTemplate : List Char := "[[ x -]]\n\n[[# old\n +]]\n\nb".toList

/-- Its segments. -/
def commentedSegments : List Segment :=
  [⟨[], 1, some ⟨⟨.hyphens 0, false, ' ', ['x'], ' ', .hyphens 1⟩, 1, [], ['\n']⟩⟩,
    ⟨['\n'], 2, some ⟨oldComment, 3, [], ['\n', '\n']⟩⟩, ⟨['b'], 6, none⟩]

theorem finds_oldComment :
    Finds commentedTemplate "[[ x -]]\n\n".toList oldComment "\n\nb".toList :=
  have hTag : ahead commentedTemplate = .tagged []
      ⟨.hyphens 0, false, ' ', ['x'], ' ', .hyphens 1⟩ "\n\n[[# old\n +]]\n\nb".toList := rfl
  have hComment : ahead "\n[[# old\n +]]\n\nb".toList =
      .tagged ['\n'] oldComment "\n\nb".toList := rfl
  .later hTag (.here hComment)

/-- Another text for the comment, with half of a closing bracket, a quote and a carriage return. -/
def newComment : List Char := "\r]'\n".toList

theorem comments_inert_rewritten :
    segments commentedTemplate = .ok commentedSegments ∧
      Finds commentedTemplate "[[ x -]]\n\n".toList oldComment "\n\nb".toList ∧
      oldComment.isComment = true ∧ CommentText newComment ∧
      newlines newComment = newlines oldComment.inner ∧
      "[[ x -]]\n\n".toList ++ oldComment.rewritten newComment ++ "\n\nb".toList =
        "[[ x -]]\n\n[[#\r]'\n+]]\n\nb".toList ∧
      Program.preprocess ("[[ x -]]\n\n".toList ++ oldComment.rewritten newComment ++
          "\n\nb".toList) =
        Program.preprocess commentedTemplate :=
  have h : segments commentedTemplate = .ok commentedSegments :=
    segments_eq_ok_iff.mpr (by decide +kernel)
  have hFirst : newComment.head? = some '\r' := rfl
  have hLast : newComment.getLast? = some '\n' := rfl
  have hNew : CommentText newComment := by
    refine ⟨by decide, fun c hc => ?_, fun c hc => ?_, by decide⟩
    · rw [hFirst] at hc
      cases hc
      decide
    · rw [hLast] at hc
      cases hc
      decide
  ⟨h, finds_oldComment, rfl, hNew, rfl, rfl,
    (comments_inert h).2 _ _ _ _ finds_oldComment rfl hNew rfl⟩

end Stencil.Template
