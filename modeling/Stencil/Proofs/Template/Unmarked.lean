import Stencil.Proofs.Template.Numbering
import Stencil.Proofs.Template.RoundTrip

/-!
# Templates that differ in their markers

Two templates may be the same but for the markers of their tags. Cut at all of their tags, they have
the same texts and, the markers apart, the same tags. What is stripped from the texts is different,
and so are the texts that are emitted, but a marker has no line feed and no code. So the code of
both templates is the same, and it stands on the same lines.

* `pieces`: a template cut at all of its tags. `writePieces_pieces`: nothing is lost.
* `Remarked`: templates that differ in their markers only. `remarked_writePieces`: how to write
  them.
* `filter_code_chunks`: the code of a template, as its pieces have it.
* `Remarked.filter_code_eq`, `Remarked.newlines_eq`: what such templates have in common.
-/

namespace Stencil.Template

open Text

/-! ## Pieces of a template -/

theorem length_lt_of_cut {s text rest : List Char} {tag : Tag} (h : cut s = .tagged text tag rest) :
    rest.length < s.length := by
  have hLength := congrArg List.length (cut_append s)
  have hTag := tag.length_written_pos
  rw [h] at hLength
  simp only [Cut.written, List.length_append] at hLength
  omega

/-- A template cut at all of its tags, and the text after the last one. -/
def pieces (s : List Char) : List Piece × List Char :=
  match _h : cut s with
  | .plain text => ([], text)
  | .tagged text tag rest => (⟨text, tag⟩ :: (pieces rest).1, (pieces rest).2)
termination_by s.length
decreasing_by all_goals exact length_lt_of_cut _h

theorem pieces_plain {s text : List Char} (h : cut s = .plain text) : pieces s = ([], text) := by
  rw [pieces]
  split
  · rename_i h'
    rw [h] at h'
    cases h'
    rfl
  · rename_i h'
    rw [h] at h'
    cases h'

theorem pieces_tagged {s text rest : List Char} {tag : Tag} (h : cut s = .tagged text tag rest) :
    pieces s = (⟨text, tag⟩ :: (pieces rest).1, (pieces rest).2) := by
  rw [pieces]
  split
  · rename_i h'
    rw [h] at h'
    cases h'
  · rename_i h'
    rw [h] at h'
    cases h'
    rfl

/-- Pieces that can be written are found again. -/
theorem pieces_writePieces {ps : List Piece} {last : List Char} (hPieces : ∀ p ∈ ps, p.Sound)
    (hLast : Plain last) : pieces (writePieces ps last) = (ps, last) := by
  induction ps with
  | nil => exact pieces_plain (cut_plain hLast.noOpen)
  | cons p ps ih =>
    have hp := hPieces p List.mem_cons_self
    rw [writePieces_cons, pieces_tagged (cut_written hp.text.noOpen hp.tag _),
      ih fun q hq => hPieces q (List.mem_cons_of_mem p hq)]

/-- The pieces of a template and the text after them are the template. -/
theorem writePieces_pieces (s : List Char) : writePieces (pieces s).1 (pieces s).2 = s := by
  induction s using pieces.induct with
  | case1 s text h =>
    rw [pieces_plain h, ← cut_append s, h]
    rfl
  | case2 s text tag rest h ih =>
    rw [pieces_tagged h, writePieces_cons, ih, ← List.append_assoc, ← cut_append s, h]
    rfl

/-! ## Without markers -/

/-- A tag without its markers. -/
def Tag.unmarked (t : Tag) : Tag := { t with pre := .hyphens 0, post := .hyphens 0 }

/-- A piece whose tag has no markers. -/
def Piece.unmarked (p : Piece) : Piece := ⟨p.text, p.tag.unmarked⟩

/-- Templates that differ in the markers of their tags only. -/
structure Remarked (source source' : List Char) : Prop where
  tagged : (pieces source).1.map Piece.unmarked = (pieces source').1.map Piece.unmarked
  last : (pieces source).2 = (pieces source').2

theorem remarked_writePieces {ps qs : List Piece} {last : List Char} (hps : ∀ p ∈ ps, p.Sound)
    (hqs : ∀ q ∈ qs, q.Sound) (hLast : Plain last)
    (h : ps.map Piece.unmarked = qs.map Piece.unmarked) :
    Remarked (writePieces ps last) (writePieces qs last) := by
  constructor
  · rw [pieces_writePieces hps hLast, pieces_writePieces hqs hLast]
    exact h
  · rw [pieces_writePieces hps hLast, pieces_writePieces hqs hLast]

/-! ## The lines of pieces -/

/-- The number of line feeds of a piece. -/
def Piece.height (p : Piece) : Nat := newlines p.text + newlines p.tag.inner

/-- The code of a piece that begins on line `n`. -/
def Piece.code (n : Nat) (p : Piece) : List Chunk :=
  if p.tag.isComment ∨ p.tag.body = [] then []
  else [Chunk.code p.tag.body (n + newlines p.text + newlines [p.tag.lead] : Nat)]

/-- The code of pieces, the first of which begins on line `n`. -/
def codeFrom : Nat → List Piece → List Chunk
  | _, [] => []
  | n, p :: ps => p.code n ++ codeFrom (n + p.height) ps

theorem codeFrom_unmarked (n : Nat) (ps : List Piece) :
    codeFrom n (ps.map Piece.unmarked) = codeFrom n ps := by
  induction ps generalizing n with
  | nil => rfl
  | cons p ps ih =>
    rw [List.map_cons, codeFrom, codeFrom, ih]
    rfl

theorem newlines_writePieces_cons (p : Piece) (ps : List Piece) (last : List Char) :
    newlines (writePieces (p :: ps) last) = p.height + newlines (writePieces ps last) := by
  rw [writePieces_cons]
  simp only [newlines_append, Tag.newlines_written, Piece.height]
  omega

/-- Markers have no part in the line feeds of a template. -/
theorem newlines_writePieces_unmarked (ps : List Piece) (last : List Char) :
    newlines (writePieces (ps.map Piece.unmarked) last) = newlines (writePieces ps last) := by
  induction ps with
  | nil => rfl
  | cons p ps ih =>
    rw [List.map_cons, newlines_writePieces_cons, newlines_writePieces_cons, ih]
    rfl

/-- What stands in front of the first tag only moves the code down. -/
theorem codeFrom_pieces_cons {c : Char} (hc : c ≠ '[') (n : Nat) (s : List Char) :
    codeFrom n (pieces (c :: s)).1 = codeFrom (n + newlines [c]) (pieces s).1 := by
  have hHead : readHead? (c :: s) = none := by
    apply readHead?_eq_none_of_not_prefix
    rintro ⟨t, ht⟩
    exact hc (List.cons.inj ht).1.symm
  have hPush : cut (c :: s) = (cut s).push c := by
    rw [cut, Tag.ofText?_eq_none_of_readHead? hHead]
  cases hCut : cut s with
  | plain text =>
    rw [hCut] at hPush
    rw [pieces_plain hCut, pieces_plain hPush]
    rfl
  | tagged text tag rest =>
    rw [hCut] at hPush
    have hText : newlines (c :: text) = newlines [c] + newlines text :=
      newlines_append [c] text
    have hHeight : n + Piece.height ⟨c :: text, tag⟩ =
        n + newlines [c] + Piece.height ⟨text, tag⟩ := by
      simp only [Piece.height, hText]
      omega
    have hCode : Piece.code n ⟨c :: text, tag⟩ = Piece.code (n + newlines [c]) ⟨text, tag⟩ := by
      simp only [Piece.code, hText, Nat.add_assoc]
    rw [pieces_tagged hCut, pieces_tagged hPush, codeFrom, codeFrom, hHeight, hCode]

theorem codeFrom_pieces_append {u : List Char} (hu : ∀ c ∈ u, Strippable c) (n : Nat)
    (s : List Char) : codeFrom n (pieces (u ++ s)).1 = codeFrom (n + newlines u) (pieces s).1 := by
  induction u generalizing n with
  | nil => rfl
  | cons c u ih =>
    have hc : c ≠ '[' := by
      rintro rfl
      exact absurd (hu '[' List.mem_cons_self) (by unfold Strippable; decide)
    rw [List.cons_append, codeFrom_pieces_cons hc, ih fun d hd => hu d (List.mem_cons_of_mem c hd),
      Nat.add_assoc, ← newlines_append]
    rfl

/-- The code of pieces comes from their tags, and each begins on the line after those before it. -/
theorem mem_codeFrom {n : Nat} {ps : List Piece} {c : Chunk} (hc : c ∈ codeFrom n ps) :
    ∃ qs p rs, ps = qs ++ p :: rs ∧ c = .code p.tag.body
      (n + newlines (writePieces qs p.text) + newlines [p.tag.lead] : Nat) := by
  induction ps generalizing n with
  | nil => cases hc
  | cons p ps ih =>
    rcases List.mem_append.mp hc with hc | hc
    · unfold Piece.code at hc
      split at hc
      · cases hc
      · exact ⟨[], p, ps, rfl, List.mem_singleton.mp hc⟩
    · obtain ⟨qs, q, rs, rfl, hCode⟩ := ih hc
      refine ⟨p :: qs, q, rs, rfl, ?_⟩
      rw [hCode, newlines_writePieces_cons, Nat.add_assoc n]

/-! ## The code of a template -/

/-- Whether a chunk is code. -/
def Chunk.isCode (c : Chunk) : Bool := c.kind = .code

theorem filter_isCode_fillers (text : List Char) (line : Int) :
    (Chunk.fillers text line).filter Chunk.isCode = [] := by
  unfold Chunk.fillers
  split <;> rfl

theorem Segment.filter_isCode_literals (s : Segment) : s.literals.filter Chunk.isCode = [] := by
  unfold Segment.literals
  split <;> rfl

/-- The code of a tag is that of the piece to which it belongs. -/
theorem PlacedTag.filter_isCode_chunks {t : PlacedTag} {n : Nat} {text : List Char}
    (h : t.line = n + newlines text) :
    t.chunks.filter Chunk.isCode = Piece.code n ⟨text, t.tag⟩ := by
  unfold PlacedTag.chunks Piece.code
  cases hComment : t.tag.isComment with
  | true => simp only [hComment, if_true, true_or, List.filter_append, filter_isCode_fillers,
      List.append_nil]
  | false =>
    by_cases hBody : t.tag.body = []
    · simp only [hComment, hBody, Bool.false_eq_true, if_false, if_true, or_true,
        List.filter_append, filter_isCode_fillers, List.append_nil]
    · simp only [hComment, hBody, Bool.false_eq_true, if_false, or_false, List.filter_append,
        filter_isCode_fillers, List.nil_append, List.append_nil, h]
      rfl

theorem cut_of_ahead_text {s text : List Char} (h : ahead s = .text text) :
    cut s = .plain text := by
  unfold ahead at h
  split at h
  · cases h
  · split at h
    · split at h
      · cases h
      · cases h
        assumption
    · split at h
      · cases h
      · split at h <;> cases h

theorem cut_of_ahead_tagged {s text rest : List Char} {tag : Tag}
    (h : ahead s = .tagged text tag rest) : cut s = .tagged text tag rest := by
  unfold ahead at h
  split at h
  · cases h
  · split at h
    · split at h <;> cases h
    · split at h
      · cases h
      · split at h
        · cases h
        · cases h
          assumption

/-- The code that is found from a place on is that of the pieces of what is left. -/
theorem Place.filter_code_found {source before : List Char} {p : Place} {segs : List Segment}
    (hp : p.In source before) (h : p.found source = (segs, none)) :
    (segs.flatMap Segment.chunks).filter Chunk.isCode =
      codeFrom (newlines before + 1) (pieces p.rest).1 := by
  generalize hn : p.rest.length = n
  induction n using Nat.strongRecOn generalizing p before segs with
  | ind n ih =>
    cases hAhead : ahead p.rest with
    | nothing =>
      rw [Place.found_nothing hAhead] at h
      cases h
      have hCut : cut p.rest = .plain [] := by
        rw [ahead_nothing_spec hAhead]
        rfl
      rw [pieces_plain hCut]
      rfl
    | text text =>
      rw [Place.found_text hAhead] at h
      cases h
      rw [pieces_plain (cut_of_ahead_text hAhead), List.flatMap_singleton,
        Segment.chunks_of_none rfl, Segment.filter_isCode_literals]
      rfl
    | fault finding =>
      rw [Place.found_fault hAhead] at h
      cases h
    | tagged text tag rest =>
      rw [Place.found_tagged hAhead] at h
      obtain ⟨hSegs, hError⟩ := Prod.mk.inj h
      subst hSegs
      have hText : text ++ (tag.written ++ rest) = p.rest := by
        rw [← List.append_assoc, ahead_tagged hAhead]
      have hOthers := ih _ (hn ▸ Place.after_rest_lt hAhead) (hp.after hAhead)
        (Prod.ext rfl hError) rfl
      have hTag : lineAt source (p.offset + text.length) =
          newlines before + 1 + newlines text := by
        rw [hp.lineAt_add hText, newlines_append]
        omega
      -- The lines that are stripped after the tag lead to the code of the pieces to come.
      have hStripped := codeFrom_pieces_append (stripLeading_strippable tag.post rest)
        (newlines before + 1 + Piece.height ⟨text, tag⟩) (stripLeading tag.post rest).2
      have hLine : newlines (before ++ text ++ tag.written ++ (stripLeading tag.post rest).1) + 1 =
          newlines before + 1 + Piece.height ⟨text, tag⟩ +
            newlines (stripLeading tag.post rest).1 := by
        simp only [newlines_append, Tag.newlines_written, Piece.height]
        omega
      rw [stripLeading_append, ← hLine] at hStripped
      rw [List.flatMap_cons, List.filter_append, hOthers, Segment.chunks_of_some rfl,
        List.filter_append, Segment.filter_isCode_literals, List.nil_append,
        PlacedTag.filter_isCode_chunks hTag, pieces_tagged (cut_of_ahead_tagged hAhead), codeFrom,
        hStripped]
      rfl

/-- The code of a template is that of its pieces. -/
theorem filter_code_chunks {source : List Char} {cs : List Chunk} (h : chunks source = .ok cs) :
    cs.filter Chunk.isCode = codeFrom 1 (pieces source).1 := by
  obtain ⟨segs, hSegments, rfl⟩ := chunks_eq_ok h
  exact Place.filter_code_found (Place.in_start source) (segments_eq_ok_iff.mp hSegments)

namespace Remarked

variable {source source' : List Char} {cs cs' : List Chunk}

/-- Templates that differ in their markers only have the same code, on the same lines. -/
theorem filter_code_eq (h : Remarked source source') (hcs : chunks source = .ok cs)
    (hcs' : chunks source' = .ok cs') : cs.filter Chunk.isCode = cs'.filter Chunk.isCode := by
  rw [filter_code_chunks hcs, filter_code_chunks hcs', ← codeFrom_unmarked, h.tagged,
    codeFrom_unmarked]

theorem newlines_eq (h : Remarked source source') : newlines source = newlines source' := by
  have hSource := newlines_writePieces_unmarked (pieces source).1 (pieces source).2
  have hSource' := newlines_writePieces_unmarked (pieces source').1 (pieces source').2
  rw [writePieces_pieces] at hSource hSource'
  rw [← hSource, ← hSource', h.tagged, h.last]

end Remarked

end Stencil.Template
