import Stencil.Proofs.Template.Lossless
import Stencil.Template.Chunk

/-!
# The lines of chunks

No line feed is lost between a template and its chunks: the texts of the chunks, taken together,
have the line feeds of the template, and each chunk that is not filler stands on the line that the
chunks before it lead to.

* `Numbered`: chunks that stand on the lines they lead to.
* `numbered_chunks`: the chunks of a template are numbered from one.
* `lineFeedsOf_chunks`: they have the line feeds of the template.
* `chunks_keep_lines`: both, with the line of a chunk counted from the chunks before it.
* `Drawn`: chunks that are parts of a text, in order, each on the line on which its part starts.
* `drawn_chunks`: the chunks of a template are drawn from it.
-/

namespace Stencil.Template

open Text

/-- The number of line feeds in the texts of some chunks. -/
def lineFeedsOf (cs : List Chunk) : Nat := newlines (cs.flatMap Chunk.text)

@[simp] theorem lineFeedsOf_nil : lineFeedsOf [] = 0 := rfl

@[simp] theorem lineFeedsOf_cons (c : Chunk) (cs : List Chunk) :
    lineFeedsOf (c :: cs) = newlines c.text + lineFeedsOf cs := by
  simp [lineFeedsOf]

@[simp] theorem lineFeedsOf_append (cs ds : List Chunk) :
    lineFeedsOf (cs ++ ds) = lineFeedsOf cs + lineFeedsOf ds := by
  simp [lineFeedsOf]

/-- From line `n` on, each chunk that is not filler stands on the line that the chunks before it
lead to. -/
def Numbered : Nat → List Chunk → Prop
  | _, [] => True
  | n, c :: cs => (c.kind ≠ .filler → c.line = n) ∧ Numbered (n + newlines c.text) cs

theorem numbered_append {n : Nat} {cs ds : List Chunk} :
    Numbered n (cs ++ ds) ↔ Numbered n cs ∧ Numbered (n + lineFeedsOf cs) ds := by
  induction cs generalizing n with
  | nil => simp [Numbered]
  | cons c cs ih => simp [Numbered, ih, and_assoc, Nat.add_assoc]

/-! ## The chunks of a segment -/

theorem numbered_fillers (n : Nat) (text : List Char) (line : Int) :
    Numbered n (Chunk.fillers text line) := by
  unfold Chunk.fillers
  split
  · trivial
  · exact ⟨fun h => absurd rfl h, trivial⟩

@[simp] theorem lineFeedsOf_fillers (text : List Char) (line : Int) :
    lineFeedsOf (Chunk.fillers text line) = newlines text := by
  unfold Chunk.fillers
  split
  · rename_i h
    exact h.symm
  · rw [lineFeedsOf_cons, Chunk.newlines_filler]
    rfl

/-- Markers have no line feeds. -/
theorem Marker.newlines_written (m : Marker) : newlines m.written = 0 := by
  cases m with
  | hyphens n => simp [Marker.written, newlines, List.count_replicate]
  | plus => rfl

theorem Tag.newlines_head (t : Tag) : newlines t.head = 0 := by
  have hSign : newlines t.sign = 0 := by
    unfold Tag.sign
    split <;> rfl
  have hOpen : newlines openBrackets = 0 := rfl
  rw [Tag.head, newlines_append, newlines_append, Marker.newlines_written, hSign, hOpen]

/-- All line feeds of a tag are inside of it. -/
theorem Tag.newlines_written (t : Tag) : newlines t.written = newlines t.inner := by
  have hClose : newlines closeBrackets = 0 := rfl
  rw [Tag.written, newlines_append, newlines_append, newlines_append, Tag.newlines_head,
    Marker.newlines_written, hClose, Nat.zero_add, Nat.add_zero]

theorem Tag.newlines_inner (t : Tag) :
    newlines t.inner = newlines [t.lead] + newlines t.body + newlines [t.trail] := by
  have h : t.inner = [t.lead] ++ t.body ++ [t.trail] := rfl
  rw [h, newlines_append, newlines_append]

theorem PlacedTag.lineFeedsOf_chunks (t : PlacedTag) :
    lineFeedsOf t.chunks =
      newlines t.strippedPre + newlines t.tag.written + newlines t.strippedPost := by
  unfold PlacedTag.chunks
  rw [Tag.newlines_written]
  cases hComment : t.tag.isComment with
  | true => simp [hComment, Nat.add_assoc]
  | false =>
    by_cases hBody : t.tag.body = []
    · simp [hComment, hBody, Tag.newlines_inner, Nat.add_assoc]
    · simp [hComment, hBody, Tag.newlines_inner, Chunk.code, Nat.add_assoc]

/-- The code of a tag stands on the line after those that are stripped before the tag and that of
its first blank. -/
theorem PlacedTag.numbered_chunks {t : PlacedTag} {n : Nat}
    (h : t.line = n + newlines t.strippedPre) : Numbered n t.chunks := by
  unfold PlacedTag.chunks
  cases hComment : t.tag.isComment with
  | true =>
    simp only [hComment, if_true, numbered_append]
    exact ⟨⟨numbered_fillers _ _ _, numbered_fillers _ _ _⟩, numbered_fillers _ _ _⟩
  | false =>
    simp only [hComment, Bool.false_eq_true, if_false, numbered_append, lineFeedsOf_fillers]
    refine ⟨⟨numbered_fillers _ _ _, ⟨numbered_fillers _ _ _, ?_⟩, numbered_fillers _ _ _⟩,
      numbered_fillers _ _ _⟩
    split
    · trivial
    · refine ⟨fun _ => ?_, trivial⟩
      simp only [Chunk.code]
      omega

/-- The chunk of a segment's text, if it has any. -/
def Segment.literals (s : Segment) : List Chunk :=
  if s.text = [] then [] else [Chunk.literal s.text s.line]

theorem Segment.chunks_of_none {s : Segment} (h : s.tag? = none) : s.chunks = s.literals := by
  simp [Segment.chunks, Segment.literals, h]

theorem Segment.chunks_of_some {s : Segment} {t : PlacedTag} (h : s.tag? = some t) :
    s.chunks = s.literals ++ t.chunks := by
  simp [Segment.chunks, Segment.literals, h]

theorem Segment.lineFeedsOf_literals (s : Segment) : lineFeedsOf s.literals = newlines s.text := by
  unfold Segment.literals
  split
  · rename_i h
    rw [h]
    rfl
  · simp [Chunk.literal]

theorem Segment.numbered_literals {s : Segment} {n : Nat} (h : s.line = n) :
    Numbered n s.literals := by
  unfold Segment.literals
  split
  · trivial
  · exact ⟨fun _ => congrArg Int.ofNat h, trivial⟩

/-! ## Whole templates -/

/-- The chunks of segments that a text spells stand on the lines of that text, and have its line
feeds. -/
theorem Spells.numbered {before rest : List Char} {segs : List Segment}
    (h : Spells before segs rest) :
    Numbered (newlines before + 1) (segs.flatMap Segment.chunks) ∧
      lineFeedsOf (segs.flatMap Segment.chunks) = newlines rest := by
  induction h with
  | nothing before => exact ⟨trivial, rfl⟩
  | @text before s hTag hLine =>
    rw [List.flatMap_singleton, Segment.chunks_of_none hTag]
    exact ⟨s.numbered_literals hLine, s.lineFeedsOf_literals⟩
  | @tagged before raw rest s t others hTag hRaw hLine hTagLine hRest ih =>
    have hFeeds := hRaw.newlines_eq
    rw [List.flatMap_cons, Segment.chunks_of_some hTag]
    constructor
    · rw [numbered_append, numbered_append, lineFeedsOf_append, s.lineFeedsOf_literals,
        t.lineFeedsOf_chunks]
      refine ⟨⟨s.numbered_literals hLine, t.numbered_chunks ?_⟩, ?_⟩
      · rw [hTagLine, newlines_append]
        omega
      · have hLines : newlines before + 1 + (newlines s.text +
            (newlines t.strippedPre + newlines t.tag.written + newlines t.strippedPost)) =
              newlines (before ++ raw ++ t.tag.written ++ t.strippedPost) + 1 := by
          simp only [newlines_append]
          omega
        rw [hLines]
        exact ih.1
    · rw [lineFeedsOf_append, lineFeedsOf_append, s.lineFeedsOf_literals, t.lineFeedsOf_chunks, ih.2]
      simp only [newlines_append]
      omega

theorem eq_ok_of_toOption {ε α : Type} {x : Except ε α} {a : α} (h : x.toOption = some a) :
    x = .ok a := by
  cases x with
  | error e => cases h
  | ok b => exact congrArg Except.ok (Option.some.inj h)

theorem chunks_eq_ok {source : List Char} {cs : List Chunk} (h : chunks source = .ok cs) :
    ∃ segs, segments source = .ok segs ∧ cs = segs.flatMap Segment.chunks := by
  unfold chunks at h
  cases hSegments : segments source with
  | error e =>
    rw [hSegments] at h
    cases h
  | ok segs =>
    rw [hSegments] at h
    cases h
    exact ⟨segs, rfl, rfl⟩

/-- The chunks of a template are numbered from one. -/
theorem numbered_chunks {source : List Char} {cs : List Chunk} (h : chunks source = .ok cs) :
    Numbered 1 cs := by
  obtain ⟨segs, hSegments, rfl⟩ := chunks_eq_ok h
  exact (segments_spells hSegments).numbered.1

/-- The chunks of a template have its line feeds. -/
theorem lineFeedsOf_chunks {source : List Char} {cs : List Chunk} (h : chunks source = .ok cs) :
    lineFeedsOf cs = newlines source := by
  obtain ⟨segs, hSegments, rfl⟩ := chunks_eq_ok h
  exact (segments_spells hSegments).numbered.2

/-- A chunk that is not filler stands on the line that the chunks before it lead to. -/
theorem Numbered.line_eq {n : Nat} {before after : List Chunk} {c : Chunk}
    (h : Numbered n (before ++ c :: after)) (hKind : c.kind ≠ .filler) :
    c.line = (n + lineFeedsOf before : Nat) :=
  (numbered_append.mp h).2.1 hKind

/-- **No line is lost between a template and its chunks.** The texts of all chunks have the line
feeds of the template, and a chunk of text or code stands on the line after those of the chunks
before it. -/
theorem chunks_keep_lines {source : List Char} {cs : List Chunk} (h : chunks source = .ok cs) :
    lineFeedsOf cs = newlines source ∧
      ∀ (before : List Chunk) (c : Chunk) (after : List Chunk), cs = before ++ c :: after →
        c.kind = .literal ∨ c.kind = .code → c.line = (1 + lineFeedsOf before : Nat) := by
  refine ⟨lineFeedsOf_chunks h, ?_⟩
  rintro before c after rfl hKind
  apply (numbered_chunks h).line_eq
  rcases hKind with hKind | hKind
  · rw [hKind]
    exact ChunkKind.noConfusion
  · rw [hKind]
    exact ChunkKind.noConfusion

/-- A template whose line feeds are everywhere: in texts, around a body, in a comment, and in blank
lines that are stripped before a tag and after one. -/
def scatteredTemplate : List Char := "a\n\n[[-\nf()\n+]]\n\n[[# b\nc ]]\n[[ g() ]]".toList

/-- Its chunks. -/
def scatteredChunks : List Chunk :=
  [.literal ['a', '\n'] 1, .filler ['\n'] 3, .filler ['\n'] 3, .code "f()".toList 4,
    .filler ['\n'] 4, .filler "\n\n".toList 3, .filler ['\n'] 7, .literal ['\n'] 8,
    .code "g()".toList 9]

theorem chunks_keep_lines_scattered :
    chunks scatteredTemplate = .ok scatteredChunks ∧
      lineFeedsOf scatteredChunks = newlines scatteredTemplate ∧
      ∀ (before : List Chunk) (c : Chunk) (after : List Chunk),
        scatteredChunks = before ++ c :: after → c.kind = .literal ∨ c.kind = .code →
          c.line = (1 + lineFeedsOf before : Nat) :=
  have h : chunks scatteredTemplate = .ok scatteredChunks :=
    eq_ok_of_toOption (by decide +kernel)
  ⟨h, chunks_keep_lines h⟩

/-! ## Where chunks come from -/

/-- The chunks that are not filler are parts of a text that stands after `before`, in their order
and without overlap, and each has the line on which its part starts. A part may have lost blank
lines at its end. -/
inductive Drawn : (before : List Char) → List Chunk → List Char → Prop
  | done (before rest : List Char) : Drawn before [] rest
  | filler {before rest : List Char} {c : Chunk} {cs : List Chunk} (hKind : c.kind = .filler)
      (hRest : Drawn before cs rest) : Drawn before (c :: cs) rest
  | part {before skipped raw removed rest : List Char} {c : Chunk} {cs : List Chunk}
      (hRaw : PutBack c.text removed raw) (hLine : c.line = (newlines (before ++ skipped) + 1 : Nat))
      (hRest : Drawn (before ++ skipped ++ raw) cs rest) :
      Drawn before (c :: cs) (skipped ++ raw ++ rest)

/-- A text from which no chunk is drawn may stand in front. -/
theorem Drawn.skip {before skipped rest : List Char} {cs : List Chunk}
    (h : Drawn (before ++ skipped) cs rest) : Drawn before cs (skipped ++ rest) := by
  generalize hAll : before ++ skipped = all at h
  induction h with
  | done _ rest => exact .done before (skipped ++ rest)
  | filler hKind _ ih => exact .filler hKind (ih hAll)
  | @part _ inner raw removed rest c cs hRaw hLine hRest _ =>
    subst hAll
    rw [List.append_assoc before] at hLine hRest
    have hPart := Drawn.part hRaw hLine hRest
    simp only [List.append_assoc] at hPart ⊢
    exact hPart

theorem Drawn.fillers {before rest : List Char} {cs : List Chunk} (h : Drawn before cs rest)
    (text : List Char) (line : Int) : Drawn before (Chunk.fillers text line ++ cs) rest := by
  unfold Chunk.fillers
  split
  · exact h
  · exact .filler rfl h

/-- The code of a tag is drawn from the tag. -/
theorem PlacedTag.drawn {t : PlacedTag} {before rest : List Char} {cs : List Chunk}
    (hLine : t.line = newlines before + 1) (h : Drawn (before ++ t.tag.written) cs rest) :
    Drawn before (t.chunks ++ cs) (t.tag.written ++ rest) := by
  unfold PlacedTag.chunks
  simp only [List.append_assoc]
  refine Drawn.fillers ?_ _ _
  split
  · exact ((h.fillers _ _).skip).fillers _ _
  · rw [List.append_assoc, List.append_assoc]
    refine Drawn.fillers ?_ _ _
    split
    · exact ((h.fillers _ _).fillers _ _).skip
    · have hWritten : t.tag.written =
          (t.tag.head ++ [t.tag.lead]) ++ t.tag.body ++
            ([t.tag.trail] ++ t.tag.post.written ++ closeBrackets) := by
        simp [Tag.written, Tag.inner]
      have hStart : (Chunk.code t.tag.body (t.line + newlines [t.tag.lead])).line =
          (newlines (before ++ (t.tag.head ++ [t.tag.lead])) + 1 : Nat) := by
        rw [newlines_append, newlines_append, Tag.newlines_head]
        simp only [Chunk.code]
        omega
      have hTail : Drawn (before ++ (t.tag.head ++ [t.tag.lead]) ++ t.tag.body ++
          ([t.tag.trail] ++ t.tag.post.written ++ closeBrackets)) cs rest := by
        rw [hWritten] at h
        simpa only [List.append_assoc] using h
      rw [hWritten, List.append_assoc (t.tag.head ++ [t.tag.lead] ++ t.tag.body)]
      exact .part (putBack_nothing _) hStart ((hTail.fillers _ _).fillers _ _).skip

/-- The text of a segment is drawn from its raw text. -/
theorem Segment.drawn_literals {s : Segment} {before raw removed rest : List Char}
    {cs : List Chunk} (hRaw : PutBack s.text removed raw) (hLine : s.line = newlines before + 1)
    (h : Drawn (before ++ raw) cs rest) : Drawn before (s.literals ++ cs) (raw ++ rest) := by
  unfold Segment.literals
  split
  · exact h.skip
  · have hStart : (Chunk.literal s.text s.line).line = (newlines (before ++ []) + 1 : Nat) := by
      rw [List.append_nil]
      exact congrArg Int.ofNat hLine
    rw [← List.append_nil before] at h
    exact .part hRaw hStart h

/-- The chunks of segments are drawn from the text that the segments spell. -/
theorem Spells.drawn {before rest : List Char} {segs : List Segment} (h : Spells before segs rest) :
    Drawn before (segs.flatMap Segment.chunks) rest := by
  induction h with
  | nothing before => exact .done before []
  | @text before s hTag hLine =>
    rw [List.flatMap_singleton, Segment.chunks_of_none hTag]
    have hText := Segment.drawn_literals (putBack_nothing s.text) hLine (.done _ [])
    rw [List.append_nil, List.append_nil] at hText
    exact hText
  | @tagged before raw rest s t others hTag hRaw hLine hTagLine hRest ih =>
    have hTagged : Drawn (before ++ raw) (t.chunks ++ others.flatMap Segment.chunks)
        (t.tag.written ++ (t.strippedPost ++ rest)) :=
      PlacedTag.drawn hTagLine ih.skip
    have hAll := Segment.drawn_literals hRaw hLine hTagged
    rw [List.flatMap_cons, Segment.chunks_of_some hTag]
    simp only [List.append_assoc] at hAll ⊢
    exact hAll

/-- The chunks of a template are drawn from it. -/
theorem drawn_chunks {source : List Char} {cs : List Chunk} (h : chunks source = .ok cs) :
    Drawn [] cs source := by
  obtain ⟨segs, hSegments, rfl⟩ := chunks_eq_ok h
  exact (segments_spells hSegments).drawn

end Stencil.Template
