import Mathlib.Data.List.Induction
import Stencil.Proofs.Program.Placing

/-!
# Which chunks have a body

A layout accepts chunks exactly if their blocks are balanced, and otherwise tells where they are not.
Both are said here by counting: the depth of some chunks is how many of them open a block less how
many close one. What a layout keeps of the open blocks, as far as this goes, is a stack of lines.

* `partOf`: what a chunk does to the open blocks.
* `Balanced`: no chunk closes or continues a block where none is open, and none is open at the end.
* `followAll_eq_ok`, `followAll_eq_notOpen`: the stack after some chunks, and the chunk that breaks
  it.
* `Pile`: which chunks opened the blocks on the stack.
* `lay_balanced`: the chunks that are accepted, and the errors of the others.
-/

namespace Stencil.Program

open Text Template

/-! ## Depth -/

/-- What a chunk does to the open blocks. -/
inductive BlockPart where
  /-- Nothing. -/
  | plain
  /-- Opens a block. -/
  | opening
  /-- Closes the innermost block and opens another in its place. -/
  | sibling
  /-- Closes the innermost block. -/
  | closing
  deriving DecidableEq, Repr

/-- The lines of a chunk of code, less its margin and one semicolon at the end. -/
def codeLines (c : Chunk) : List (List Char) := if c.kind = .code then (codeOf c).code else []

theorem code_of_codeLines {c : Chunk} (h : codeLines c ≠ []) :
    c.kind = .code ∧ codeLines c = (codeOf c).code := by
  unfold codeLines at h ⊢
  split at h
  · rename_i hKind
    exact ⟨hKind, if_pos hKind⟩
  · exact absurd rfl h

/-- What a chunk does to the open blocks. A single line may be the word that closes a block, or it
may start with a word that continues one and end with a colon. Any other code opens a block if its
last line ends with a colon. -/
def partOf (c : Chunk) : BlockPart :=
  match codeLines c with
  | [] => .plain
  | first :: others =>
    if others = [] ∧ trim first = blockEnd then .closing
    else if others = [] ∧ isSibling (trim first) then .sibling
    else if opensBlock (others.getLastD first) then .opening
    else .plain

/-- Whether a chunk has to stand inside of a block. -/
def NeedsBlock (c : Chunk) : Prop := partOf c = .closing ∨ partOf c = .sibling

/-- Whether a block begins with a chunk. -/
def BeginsBlock (c : Chunk) : Prop := partOf c = .opening ∨ partOf c = .sibling

/-- The keyword of a chunk that has to stand inside of a block. -/
def keywordOf (c : Chunk) : List Char := trim ((codeLines c).headD [])

/-- How many blocks some chunks open less how many they close. -/
def depth (cs : List Chunk) : Int :=
  cs.countP (partOf · = .opening) - cs.countP (partOf · = .closing)

/-- Inside of `n` open blocks, no chunk that has to stand inside of a block stands outside of all. -/
def Sheltered (n : Nat) (cs : List Chunk) : Prop :=
  ∀ before c after, cs = before ++ c :: after → NeedsBlock c → 0 < n + depth before

/-- Chunks that close just the blocks that they open. -/
structure Balanced (cs : List Chunk) : Prop where
  sheltered : Sheltered 0 cs
  level : depth cs = 0

@[simp] theorem depth_nil : depth [] = 0 := rfl

@[simp] theorem depth_append (cs ds : List Chunk) : depth (cs ++ ds) = depth cs + depth ds := by
  simp only [depth, List.countP_append]
  omega

/-- How much deeper it is after a chunk. -/
def BlockPart.rise : BlockPart → Int
  | plain => 0
  | opening => 1
  | sibling => 0
  | closing => -1

@[simp] theorem depth_cons (c : Chunk) (cs : List Chunk) :
    depth (c :: cs) = (partOf c).rise + depth cs := by
  simp only [depth, List.countP_cons]
  cases partOf c <;> simp [BlockPart.rise] <;> omega

theorem sheltered_nil (n : Nat) : Sheltered n [] := by
  intro before c after h
  exact absurd h.symm (by simp)

/-- A chunk in front: it is sheltered by the blocks around it, and the others also by its own. -/
theorem sheltered_cons {n m : Nat} {c : Chunk} {cs : List Chunk}
    (hm : (m : Int) = n + (partOf c).rise) :
    Sheltered n (c :: cs) ↔ (NeedsBlock c → 0 < n) ∧ Sheltered m cs := by
  constructor
  · intro h
    refine ⟨fun hc => by simpa using h [] c cs rfl hc, fun before d after hSplit hd => ?_⟩
    have := h (c :: before) d after (by rw [hSplit]; rfl) hd
    rw [depth_cons] at this
    omega
  · rintro ⟨hc, hcs⟩ before d after hSplit hd
    cases before with
    | nil =>
      obtain ⟨rfl, -⟩ := List.cons_eq_cons.mp hSplit
      simpa using hc hd
    | cons b before =>
      obtain ⟨rfl, rfl⟩ := List.cons_eq_cons.mp hSplit
      have := hcs before d after rfl hd
      rw [depth_cons]
      omega

theorem sheltered_append {n m : Nat} {cs ds : List Chunk} (hm : (m : Int) = n + depth cs) :
    Sheltered n (cs ++ ds) ↔ Sheltered n cs ∧ Sheltered m ds := by
  constructor
  · intro h
    refine ⟨fun before c after hSplit => h before c (after ++ ds) ?_, fun before c after hSplit hc => ?_⟩
    · rw [hSplit, List.append_assoc]
      rfl
    · have := h (cs ++ before) c after (by rw [hSplit, List.append_assoc]) hc
      rw [depth_append] at this
      omega
  · rintro ⟨hcs, hds⟩ before c after hSplit hc
    rcases List.append_eq_append_iff.mp hSplit with ⟨others, rfl, hRest⟩ | ⟨others, rfl, hRest⟩
    · have := hds others c after hRest hc
      rw [depth_append]
      omega
    · cases others with
      | nil =>
        have := hds [] c after hRest.symm hc
        simp only [List.append_nil] at hm
        simpa [hm] using this
      | cons d others =>
        obtain ⟨rfl, -⟩ := List.cons_eq_cons.mp hRest
        exact hcs before c others rfl hc

/-- The blocks around some chunks shelter them as well. -/
theorem Sheltered.mono {n m : Nat} {cs : List Chunk} (h : Sheltered n cs) (hLe : n ≤ m) :
    Sheltered m cs := by
  intro before c after hSplit hc
  have := h before c after hSplit hc
  omega

theorem balanced_nil : Balanced [] := ⟨sheltered_nil 0, rfl⟩

theorem Balanced.append {cs ds : List Chunk} (hcs : Balanced cs) (hds : Balanced ds) :
    Balanced (cs ++ ds) := by
  constructor
  · exact (sheltered_append (m := 0) (by rw [hcs.level]; rfl)).mpr ⟨hcs.sheltered, hds.sheltered⟩
  · rw [depth_append, hcs.level, hds.level]
    rfl

/-! ## The stack of open blocks -/

/-- The lines of the open blocks after a chunk, innermost first. -/
def follow (lines : List Int) (c : Chunk) : Except BlockError (List Int) :=
  match partOf c, lines with
  | .plain, lines => .ok lines
  | .opening, lines => .ok (c.line :: lines)
  | .sibling, _ :: outer => .ok (c.line :: outer)
  | .closing, _ :: outer => .ok outer
  | .sibling, [] | .closing, [] => .error (.notOpen (keywordOf c) c.line)

/-- The lines of the open blocks after some chunks. -/
def followAll (lines : List Int) (cs : List Chunk) : Except BlockError (List Int) :=
  cs.foldlM follow lines

theorem followAll_cons (lines : List Int) (c : Chunk) (cs : List Chunk) :
    followAll lines (c :: cs) = (follow lines c).bind (followAll · cs) :=
  List.foldlM_cons

theorem followAll_append (lines : List Int) (cs ds : List Chunk) :
    followAll lines (cs ++ ds) = (followAll lines cs).bind (followAll · ds) :=
  List.foldlM_append

theorem follow_of_plain {c : Chunk} (h : partOf c = .plain) (lines : List Int) :
    follow lines c = .ok lines := by
  simp only [follow, h]

theorem follow_of_opening {c : Chunk} (h : partOf c = .opening) (lines : List Int) :
    follow lines c = .ok (c.line :: lines) := by
  simp only [follow, h]

theorem follow_of_sibling {c : Chunk} (h : partOf c = .sibling) (line : Int) (outer : List Int) :
    follow (line :: outer) c = .ok (c.line :: outer) := by
  simp only [follow, h]

theorem follow_of_closing {c : Chunk} (h : partOf c = .closing) (line : Int) (outer : List Int) :
    follow (line :: outer) c = .ok outer := by
  simp only [follow, h]

theorem follow_nil {c : Chunk} (h : NeedsBlock c) :
    follow [] c = .error (.notOpen (keywordOf c) c.line) := by
  rcases h with h | h <;> simp only [follow, h]

/-- What a chunk does to the stack if it is sheltered by the blocks on it. -/
theorem follow_of_sheltered {lines : List Int} {c : Chunk} (h : NeedsBlock c → 0 < lines.length) :
    ∃ after, follow lines c = .ok after ∧ (after.length : Int) = lines.length + (partOf c).rise := by
  cases hPart : partOf c with
  | plain => exact ⟨_, follow_of_plain hPart lines, by simp [BlockPart.rise]⟩
  | opening => exact ⟨_, follow_of_opening hPart lines, by simp [BlockPart.rise]⟩
  | sibling =>
    cases lines with
    | nil => exact absurd (h (.inr hPart)) (Nat.lt_irrefl 0)
    | cons line outer => exact ⟨_, follow_of_sibling hPart line outer, by simp [BlockPart.rise]⟩
  | closing =>
    cases lines with
    | nil => exact absurd (h (.inl hPart)) (Nat.lt_irrefl 0)
    | cons line outer =>
      refine ⟨_, follow_of_closing hPart line outer, ?_⟩
      simp only [List.length_cons, BlockPart.rise]
      omega

/-- Chunks that are sheltered by the blocks on a stack leave as many blocks as their depth says. -/
theorem followAll_eq_ok (lines : List Int) {cs : List Chunk} (h : Sheltered lines.length cs) :
    ∃ after, followAll lines cs = .ok after ∧ (after.length : Int) = lines.length + depth cs := by
  induction cs generalizing lines with
  | nil => exact ⟨lines, rfl, by simp⟩
  | cons c cs ih =>
    have hc : NeedsBlock c → 0 < lines.length := fun hc => by simpa using h [] c cs rfl hc
    obtain ⟨next, hNext, hLength⟩ := follow_of_sheltered hc
    obtain ⟨after, hAfter, hDepth⟩ := ih next ((sheltered_cons hLength).mp h).2
    refine ⟨after, ?_, ?_⟩
    · rw [followAll_cons, hNext]
      exact hAfter
    · rw [hDepth, hLength, depth_cons, Int.add_assoc]

/-- Chunks that are not sheltered break off at the first one that stands outside of all blocks. -/
theorem followAll_eq_notOpen (lines : List Int) {cs : List Chunk}
    (h : ¬ Sheltered lines.length cs) :
    ∃ before c after, cs = before ++ c :: after ∧ Sheltered lines.length before ∧
      lines.length + depth before = 0 ∧ NeedsBlock c ∧
      followAll lines cs = .error (.notOpen (keywordOf c) c.line) := by
  induction cs generalizing lines with
  | nil => exact absurd (sheltered_nil lines.length) h
  | cons c cs ih =>
    by_cases hc : NeedsBlock c → 0 < lines.length
    · obtain ⟨next, hNext, hLength⟩ := follow_of_sheltered hc
      have hcs : ¬ Sheltered next.length cs := fun hcs => h ((sheltered_cons hLength).mpr ⟨hc, hcs⟩)
      obtain ⟨before, d, after, rfl, hBefore, hLevel, hd, hError⟩ := ih next hcs
      refine ⟨c :: before, d, after, rfl, (sheltered_cons hLength).mpr ⟨hc, hBefore⟩, ?_, hd, ?_⟩
      · rw [depth_cons]
        omega
      · rw [followAll_cons, hNext]
        exact hError
    · simp only [Classical.not_imp, Nat.not_lt, Nat.le_zero, List.length_eq_zero_iff] at hc
      obtain ⟨hc, rfl⟩ := hc
      refine ⟨[], c, cs, rfl, sheltered_nil 0, rfl, hc, ?_⟩
      rw [followAll_cons, follow_nil hc]
      rfl

theorem follow_append_lines {lines after : List Int} {c : Chunk} (h : follow lines c = .ok after)
    (outer : List Int) : follow (lines ++ outer) c = .ok (after ++ outer) := by
  cases hPart : partOf c with
  | plain =>
    rw [follow_of_plain hPart] at h ⊢
    rw [Except.ok.inj h]
  | opening =>
    rw [follow_of_opening hPart] at h ⊢
    rw [← Except.ok.inj h]
    rfl
  | sibling =>
    cases lines with
    | nil =>
      rw [follow_nil (.inr hPart)] at h
      cases h
    | cons line lines =>
      rw [follow_of_sibling hPart] at h
      rw [List.cons_append, follow_of_sibling hPart, ← Except.ok.inj h]
      rfl
  | closing =>
    cases lines with
    | nil =>
      rw [follow_nil (.inl hPart)] at h
      cases h
    | cons line lines =>
      rw [follow_of_closing hPart] at h
      rw [List.cons_append, follow_of_closing hPart, ← Except.ok.inj h]

/-- Blocks further out do not matter to chunks that are sheltered without them. -/
theorem followAll_append_lines {lines after : List Int} {cs : List Chunk}
    (h : followAll lines cs = .ok after) (outer : List Int) :
    followAll (lines ++ outer) cs = .ok (after ++ outer) := by
  induction cs generalizing lines with
  | nil =>
    obtain rfl := Except.ok.inj h
    rfl
  | cons c cs ih =>
    rw [followAll_cons] at h
    obtain ⟨next, hNext, hRest⟩ := bind_eq_ok h
    rw [followAll_cons, follow_append_lines hNext]
    exact ih hRest

/-- Balanced chunks leave a stack as it was. -/
theorem Balanced.followAll_eq {cs : List Chunk} (h : Balanced cs) (lines : List Int) :
    followAll lines cs = .ok lines := by
  obtain ⟨after, hAfter, hLength⟩ := followAll_eq_ok [] h.sheltered
  have hNil : after = [] := by
    rw [h.level] at hLength
    simpa using hLength
  subst hNil
  simpa using followAll_append_lines hAfter lines

/-! ## Which chunks opened the blocks on a stack -/

/-- The stack after some chunks, with the chunks that opened the blocks on it. Each block has its
chunk, and what stands between that and the next one on the stack is balanced. -/
inductive Pile : List Chunk → List Int → Prop
  | ground {cs : List Chunk} (level : Balanced cs) : Pile cs []
  | opened {before after : List Chunk} {c : Chunk} {outer : List Int} (hPart : partOf c = .opening)
      (rest : Pile before outer) (level : Balanced after) :
      Pile (before ++ c :: after) (c.line :: outer)
  | continued {before after : List Chunk} {c : Chunk} {line : Int} {outer : List Int}
      (hPart : partOf c = .sibling) (rest : Pile before (line :: outer)) (level : Balanced after) :
      Pile (before ++ c :: after) (c.line :: outer)

theorem Pile.append {cs ds : List Chunk} {lines : List Int} (h : Pile cs lines) (hds : Balanced ds) :
    Pile (cs ++ ds) lines := by
  cases h with
  | ground level => exact .ground (level.append hds)
  | opened hPart rest level =>
    rw [List.append_assoc]
    exact .opened hPart rest (level.append hds)
  | continued hPart rest level =>
    rw [List.append_assoc]
    exact .continued hPart rest (level.append hds)

/-- Chunks that close one block more than they open. -/
structure Closes (cs : List Chunk) : Prop where
  sheltered : Sheltered 1 cs
  level : depth cs = -1

theorem Closes.append {cs ds : List Chunk} (hcs : Balanced cs) (hds : Closes ds) :
    Closes (cs ++ ds) := by
  constructor
  · exact (sheltered_append (m := 1) (by rw [hcs.level]; rfl)).mpr
      ⟨hcs.sheltered.mono (Nat.zero_le 1), hds.sheltered⟩
  · rw [depth_append, hcs.level, hds.level]
    rfl

theorem Closes.cons {c : Chunk} {cs : List Chunk} (hPart : partOf c = .sibling) (h : Closes cs) :
    Closes (c :: cs) := by
  constructor
  · exact (sheltered_cons (m := 1) (by rw [hPart]; rfl)).mpr ⟨fun _ => Nat.one_pos, h.sheltered⟩
  · rw [depth_cons, hPart, h.level]
    rfl

/-- A block and its end. -/
theorem Closes.balanced {c : Chunk} {cs : List Chunk} (hPart : partOf c = .opening) (h : Closes cs) :
    Balanced (c :: cs) := by
  constructor
  · refine (sheltered_cons (m := 1) (by rw [hPart]; rfl)).mpr ⟨fun hc => ?_, h.sheltered⟩
    rcases hc with hc | hc <;> rw [hPart] at hc <;> cases hc
  · rw [depth_cons, hPart, h.level]
    rfl

theorem closes_singleton {c : Chunk} (hPart : partOf c = .closing) : Closes [c] := by
  constructor
  · exact (sheltered_cons (m := 0) (by rw [hPart]; rfl)).mpr ⟨fun _ => Nat.one_pos, sheltered_nil 0⟩
  · rw [depth_cons, hPart]
    rfl

/-- Chunks that close the innermost block leave the stack without it. -/
theorem Pile.closed {cs ds : List Chunk} {lines : List Int} (h : Pile cs lines) (hds : Closes ds)
    {line : Int} {outer : List Int} (hLines : lines = line :: outer) : Pile (cs ++ ds) outer := by
  induction h generalizing ds line outer with
  | ground level => cases hLines
  | @opened before after c _ hPart rest level ih =>
    obtain ⟨-, rfl⟩ := List.cons_eq_cons.mp hLines
    rw [List.append_assoc]
    exact rest.append ((hds.append level).balanced hPart)
  | @continued before after c _ _ hPart rest level ih =>
    obtain ⟨-, rfl⟩ := List.cons_eq_cons.mp hLines
    rw [List.append_assoc]
    exact ih ((hds.append level).cons hPart) rfl

theorem balanced_singleton {c : Chunk} (hPart : partOf c = .plain) : Balanced [c] := by
  constructor
  · refine (sheltered_cons (m := 0) (by rw [hPart]; rfl)).mpr ⟨fun hc => ?_, sheltered_nil 0⟩
    rcases hc with hc | hc <;> rw [hPart] at hc <;> cases hc
  · rw [depth_cons, hPart]
    rfl

theorem Pile.follow {cs : List Chunk} {c : Chunk} {lines after : List Int} (h : Pile cs lines)
    (hFollow : follow lines c = .ok after) : Pile (cs ++ [c]) after := by
  cases hPart : partOf c with
  | plain =>
    rw [follow_of_plain hPart] at hFollow
    rw [← Except.ok.inj hFollow]
    exact h.append (balanced_singleton hPart)
  | opening =>
    rw [follow_of_opening hPart] at hFollow
    rw [← Except.ok.inj hFollow]
    exact .opened hPart h balanced_nil
  | sibling =>
    cases lines with
    | nil =>
      rw [follow_nil (.inr hPart)] at hFollow
      cases hFollow
    | cons line outer =>
      rw [follow_of_sibling hPart] at hFollow
      rw [← Except.ok.inj hFollow]
      exact .continued hPart h balanced_nil
  | closing =>
    cases lines with
    | nil =>
      rw [follow_nil (.inl hPart)] at hFollow
      cases hFollow
    | cons line outer =>
      rw [follow_of_closing hPart] at hFollow
      rw [← Except.ok.inj hFollow]
      exact h.closed (closes_singleton hPart) rfl

theorem pile_of_followAll {cs : List Chunk} {lines : List Int} (h : followAll [] cs = .ok lines) :
    Pile cs lines := by
  induction cs using List.reverseRecOn generalizing lines with
  | nil =>
    obtain rfl := Except.ok.inj h
    exact .ground balanced_nil
  | append_singleton cs c ih =>
    rw [followAll_append] at h
    obtain ⟨before, hBefore, hLast⟩ := bind_eq_ok h
    refine (ih hBefore).follow ?_
    cases hFollow : Program.follow before c with
    | error e =>
      rw [followAll_cons, hFollow] at hLast
      cases hLast
    | ok after =>
      rw [followAll_cons, hFollow] at hLast
      exact hLast

/-- The innermost block on a stack begins with the last chunk that is followed by balanced chunks. -/
theorem Pile.innermost {cs : List Chunk} {line : Int} {outer : List Int}
    (h : Pile cs (line :: outer)) :
    ∃ before c after, cs = before ++ c :: after ∧ BeginsBlock c ∧ c.line = line ∧ Balanced after := by
  cases h with
  | opened hPart rest level => exact ⟨_, _, _, rfl, .inl hPart, rfl, level⟩
  | continued hPart rest level => exact ⟨_, _, _, rfl, .inr hPart, rfl, level⟩

/-- A chunk that begins a block puts its line on the stack. -/
theorem follow_of_beginsBlock {c : Chunk} {lines after : List Int} (h : BeginsBlock c)
    (hFollow : follow lines c = .ok after) : ∃ outer, after = c.line :: outer := by
  rcases h with hPart | hPart
  · rw [follow_of_opening hPart] at hFollow
    exact ⟨lines, (Except.ok.inj hFollow).symm⟩
  · cases lines with
    | nil =>
      rw [follow_nil (.inr hPart)] at hFollow
      cases hFollow
    | cons line outer =>
      rw [follow_of_sibling hPart] at hFollow
      exact ⟨outer, (Except.ok.inj hFollow).symm⟩

/-! ## What a layout keeps of the open blocks -/

/-- The lines of the open blocks of a layout, innermost first. -/
def Layout.lines (l : Layout) : List Int := l.blocks.map (·.line)

/-- What a role does to the open blocks. -/
def Role.part : Role → BlockPart
  | blank => .plain
  | statement _ => .plain
  | header _ => .opening
  | sibling _ => .sibling
  | ending _ => .closing

theorem part_roleOf (c : Chunk) : (roleOf c).part = partOf c := by
  unfold roleOf partOf codeLines
  cases c.kind with
  | filler => rfl
  | literal => rfl
  | code =>
    simp only [if_true]
    cases (codeOf c).code with
    | nil => rfl
    | cons first others =>
      simp only [roleOfCode]
      split
      · rfl
      · split
        · rfl
        · split <;> rfl

theorem lines_occupied (blocks : List OpenBlock) :
    (occupied blocks).map (·.line) = blocks.map (·.line) := by
  cases blocks with
  | nil => rfl
  | cons block outer => rfl

theorem lines_place (s : Statement) (l : Layout) : (l.place s).2.lines = l.lines := by
  unfold Layout.lines
  rw [blocks_place, lines_occupied]

theorem closeBlock_nil {l : Layout} (h : l.lines = []) (keyword : List Char) (line origin : Int) :
    l.closeBlock keyword line origin = .error (.notOpen keyword line) := by
  unfold Layout.closeBlock
  rw [List.map_eq_nil_iff.mp h]

theorem closeBlock_cons {l : Layout} {inner : Int} {outer : List Int} (h : l.lines = inner :: outer)
    (keyword : List Char) (line origin : Int) :
    ∃ ps l', l.closeBlock keyword line origin = .ok (ps, l') ∧ l'.lines = outer := by
  obtain ⟨block, blocks, hBlocks, -, hOuter⟩ := List.map_eq_cons_iff.mp h
  unfold Layout.closeBlock
  rw [hBlocks]
  cases hEmpty : block.isEmpty with
  | true =>
    simp only [hEmpty, if_true]
    refine ⟨_, _, rfl, ?_⟩
    have hPass : (l.place ⟨['p', 'a', 's', 's'], [], origin, true⟩).2.blocks =
        occupied (block :: blocks) := by
      rw [blocks_place, hBlocks]
    exact (congrArg (fun bs => bs.tail.map (·.line)) hPass).trans hOuter
  | false =>
    simp only [hEmpty, Bool.false_eq_true, if_false]
    refine ⟨_, _, rfl, ?_⟩
    simp only [Layout.lines, hBlocks, List.tail_cons, hOuter]

theorem lines_await (l : Layout) (n : Nat) : (l.await n).lines = l.lines := rfl

theorem keyword_of_ending {c : Chunk} {origin : Int} (h : roleOf c = .ending origin) :
    keywordOf c = blockEnd := by
  rcases roleOf_cases c with hRole | ⟨-, hRole⟩ | ⟨hKind, first, others, hCode, hRole⟩
  · rw [hRole] at h
    cases h
  · rw [hRole] at h
    cases h
  · rw [hRole, roleOfCode] at h
    rw [keywordOf, codeLines, if_pos hKind, hCode]
    split at h
    · rename_i hEnd
      exact hEnd.2
    · split at h
      · cases h
      · split at h <;> cases h

theorem keyword_of_sibling {c : Chunk} {s : Statement} (h : roleOf c = .sibling s) :
    keywordOf c = trim s.first := by
  rcases roleOf_cases c with hRole | ⟨-, hRole⟩ | ⟨hKind, first, others, hCode, hRole⟩
  · rw [hRole] at h
    cases h
  · rw [hRole] at h
    cases h
  · rw [hRole, roleOfCode] at h
    rw [keywordOf, codeLines, if_pos hKind, hCode]
    split at h
    · cases h
    · split at h
      · obtain rfl := Role.sibling.inj h
        rfl
      · split at h <;> cases h

/-- A layout keeps the lines of its open blocks as the stack is kept, and breaks off where the stack
does. -/
theorem lines_add (c : Chunk) (l : Layout) :
    (l.add c).map (fun r => r.2.lines) = follow l.lines c := by
  have hPart := part_roleOf c
  rw [Layout.add_eq_perform]
  cases hRole : roleOf c with
  | blank =>
    rw [hRole] at hPart
    rw [follow_of_plain hPart.symm]
    rfl
  | statement s =>
    rw [hRole] at hPart
    rw [follow_of_plain hPart.symm]
    exact congrArg Except.ok (lines_place s _)
  | header s =>
    rw [hRole] at hPart
    rw [follow_of_opening hPart.symm, ← lines_await l (leading c), ← lines_place s]
    rfl
  | sibling s =>
    rw [hRole] at hPart
    cases hLines : l.lines with
    | nil =>
      rw [follow_nil (.inr hPart.symm), keyword_of_sibling hRole, Layout.perform,
        closeBlock_nil (by rw [lines_await, hLines])]
      rfl
    | cons inner outer =>
      obtain ⟨ps, l', hClose, hOuter⟩ := closeBlock_cons (l := l.await (leading c))
        (by rw [lines_await, hLines]) (trim s.first) c.line s.origin
      rw [follow_of_sibling hPart.symm, Layout.perform, hClose, ← hOuter, ← lines_place s]
      rfl
  | ending origin =>
    rw [hRole] at hPart
    cases hLines : l.lines with
    | nil =>
      rw [follow_nil (.inl hPart.symm), keyword_of_ending hRole, Layout.perform,
        closeBlock_nil (by rw [lines_await, hLines])]
      rfl
    | cons inner outer =>
      obtain ⟨ps, l', hClose, hOuter⟩ := closeBlock_cons (l := l.await (leading c))
        (by rw [lines_await, hLines]) blockEnd c.line origin
      rw [follow_of_closing hPart.symm, Layout.perform, hClose, ← hOuter]
      rfl

theorem lines_addAll (cs : List Chunk) (l : Layout) :
    (l.addAll cs).map (fun r => r.2.lines) = followAll l.lines cs := by
  induction cs generalizing l with
  | nil => rfl
  | cons c cs ih =>
    rw [followAll_cons, ← lines_add, Layout.addAll]
    cases hAdd : l.add c with
    | error e => rfl
    | ok r =>
      have hRest := ih r.2
      cases hOthers : r.2.addAll cs with
      | error e =>
        rw [hOthers] at hRest
        simp only [bind, Except.bind, Except.map, hOthers]
        exact hRest
      | ok others =>
        rw [hOthers] at hRest
        simp only [bind, Except.bind, Except.map, hOthers, pure, Except.pure]
        exact hRest

/-- How laying out ends, by the stack of open blocks at the end. -/
theorem lay_of_followAll {cs : List Chunk} :
    (∀ e, followAll [] cs = .error e → lay cs = .error e) ∧
      (followAll [] cs = .ok [] → ∃ b, lay cs = .ok b) ∧
      ∀ line outer, followAll [] cs = .ok (line :: outer) → lay cs = .error (.notClosed line) := by
  have hLines : (Layout.start.addAll cs).map (fun r => r.2.lines) = followAll [] cs :=
    lines_addAll cs .start
  unfold lay
  cases hAll : Layout.start.addAll cs with
  | error e =>
    rw [hAll] at hLines
    rw [← hLines]
    refine ⟨fun e' h => ?_, fun h => ?_, fun line outer h => ?_⟩
    · rw [← Except.error.inj h]
      rfl
    · cases h
    · cases h
  | ok r =>
    rw [hAll] at hLines
    rw [← hLines]
    refine ⟨fun e h => ?_, fun h => ?_, fun line outer h => ?_⟩
    · cases h
    · have hBlocks : r.2.blocks = [] := List.map_eq_nil_iff.mp (Except.ok.inj h)
      simp only [bind, Except.bind, Layout.finish, hBlocks]
      exact ⟨_, rfl⟩
    · obtain ⟨block, blocks, hBlocks, hLine, -⟩ := List.map_eq_cons_iff.mp (Except.ok.inj h)
      simp only [bind, Except.bind, Layout.finish, hBlocks, hLine]

/-! ## Which chunks are accepted -/

/-- A chunk that closes or continues a block is to blame if it stands behind balanced chunks. -/
theorem lay_eq_notOpen {before after : List Chunk} {c : Chunk} (hBefore : Balanced before)
    (hc : NeedsBlock c) :
    lay (before ++ c :: after) = .error (.notOpen (keywordOf c) c.line) := by
  apply (lay_of_followAll).1
  rw [followAll_append, hBefore.followAll_eq]
  show followAll [] (c :: after) = _
  rw [followAll_cons, follow_nil hc]
  rfl

/-- A chunk that begins a block is to blame if balanced chunks follow it to the end, unless the error
is an earlier one. -/
theorem lay_eq_notClosed {before after : List Chunk} {c : Chunk}
    (h : Sheltered 0 (before ++ c :: after)) (hc : BeginsBlock c) (hAfter : Balanced after) :
    lay (before ++ c :: after) = .error (.notClosed c.line) := by
  obtain ⟨lines, hLines, -⟩ := followAll_eq_ok [] h
  rw [followAll_append] at hLines
  obtain ⟨outside, hOutside, hRest⟩ := bind_eq_ok hLines
  rw [followAll_cons] at hRest
  obtain ⟨inside, hInside, hRest⟩ := bind_eq_ok hRest
  obtain ⟨outer, rfl⟩ := follow_of_beginsBlock hc hInside
  apply (lay_of_followAll).2.2 c.line outer
  rw [followAll_append, hOutside]
  show followAll outside (c :: after) = _
  rw [followAll_cons, hInside]
  exact hAfter.followAll_eq (c.line :: outer)

/-- Chunks are balanced, or one of them closes or continues a block behind balanced chunks, or one of
them begins a block and balanced chunks follow it to the end. -/
theorem balanced_or (cs : List Chunk) :
    Balanced cs ∨
      (∃ before c after, cs = before ++ c :: after ∧ Balanced before ∧ NeedsBlock c) ∨
      Sheltered 0 cs ∧ ∃ before c after, cs = before ++ c :: after ∧ BeginsBlock c ∧
        Balanced after := by
  by_cases hSheltered : Sheltered 0 cs
  · obtain ⟨lines, hLines, hDepth⟩ := followAll_eq_ok [] hSheltered
    cases lines with
    | nil =>
      refine .inl ⟨hSheltered, ?_⟩
      simpa using hDepth.symm
    | cons line outer =>
      obtain ⟨before, c, after, hSplit, hc, -, hAfter⟩ := (pile_of_followAll hLines).innermost
      exact .inr (.inr ⟨hSheltered, before, c, after, hSplit, hc, hAfter⟩)
  · obtain ⟨before, c, after, hSplit, hBefore, hLevel, hc, -⟩ :=
      followAll_eq_notOpen [] hSheltered
    refine .inr (.inl ⟨before, c, after, hSplit, ⟨hBefore, ?_⟩, hc⟩)
    simpa using hLevel

/-- Balanced chunks have a body. -/
theorem Balanced.lay {cs : List Chunk} (h : Balanced cs) : ∃ b, lay cs = .ok b :=
  lay_of_followAll.2.1 (h.followAll_eq [])

/-- **Chunks are accepted exactly if their blocks are balanced.** Otherwise the error is about the
first chunk that closes or continues a block where none is open. If there is no such chunk, it is
about the innermost block that is open at the end: the chunk that begins it is followed by balanced
chunks. -/
theorem lay_balanced (cs : List Chunk) :
    ((∃ b, lay cs = .ok b) ↔ Balanced cs) ∧
      (∀ keyword line, lay cs = .error (.notOpen keyword line) ↔
        ∃ before c after, cs = before ++ c :: after ∧ Balanced before ∧ NeedsBlock c ∧
          keywordOf c = keyword ∧ c.line = line) ∧
      ∀ line, lay cs = .error (.notClosed line) ↔
        Sheltered 0 cs ∧ ∃ before c after, cs = before ++ c :: after ∧ BeginsBlock c ∧
          c.line = line ∧ Balanced after := by
  have hNotOpen : ∀ keyword line, (∃ before c after, cs = before ++ c :: after ∧
      Balanced before ∧ NeedsBlock c ∧ keywordOf c = keyword ∧ c.line = line) →
        lay cs = .error (.notOpen keyword line) := by
    rintro keyword line ⟨before, c, after, rfl, hBefore, hc, rfl, rfl⟩
    exact lay_eq_notOpen hBefore hc
  have hNotClosed : ∀ line, (Sheltered 0 cs ∧ ∃ before c after, cs = before ++ c :: after ∧
      BeginsBlock c ∧ c.line = line ∧ Balanced after) → lay cs = .error (.notClosed line) := by
    rintro line ⟨hSheltered, before, c, after, rfl, hc, rfl, hAfter⟩
    exact lay_eq_notClosed hSheltered hc hAfter
  -- The three ways to end exclude each other, so each happens only for its own reason.
  rcases balanced_or cs with hBalanced | ⟨before, c, after, hSplit, hBefore, hc⟩ |
    ⟨hSheltered, before, c, after, hSplit, hc, hAfter⟩
  · obtain ⟨b, hLay⟩ := hBalanced.lay
    refine ⟨⟨fun _ => hBalanced, fun _ => ⟨b, hLay⟩⟩, fun keyword line => ⟨fun h => ?_, hNotOpen _ _⟩,
      fun line => ⟨fun h => ?_, hNotClosed _⟩⟩
    · rw [hLay] at h
      cases h
    · rw [hLay] at h
      cases h
  · have hLay := hNotOpen _ _ ⟨before, c, after, hSplit, hBefore, hc, rfl, rfl⟩
    refine ⟨⟨fun ⟨b, h⟩ => ?_, Balanced.lay⟩, fun keyword line => ⟨fun h => ?_, hNotOpen _ _⟩,
      fun line => ⟨fun h => ?_, hNotClosed _⟩⟩
    · rw [hLay] at h
      cases h
    · rw [hLay] at h
      obtain ⟨rfl, rfl⟩ := BlockError.notOpen.inj (Except.error.inj h)
      exact ⟨before, c, after, hSplit, hBefore, hc, rfl, rfl⟩
    · rw [hLay] at h
      cases h
  · have hLay := hNotClosed _ ⟨hSheltered, before, c, after, hSplit, hc, rfl, hAfter⟩
    refine ⟨⟨fun ⟨b, h⟩ => ?_, Balanced.lay⟩, fun keyword line => ⟨fun h => ?_, hNotOpen _ _⟩,
      fun line => ⟨fun h => ?_, hNotClosed _⟩⟩
    · rw [hLay] at h
      cases h
    · rw [hLay] at h
      cases h
    · rw [hLay] at h
      obtain rfl := BlockError.notClosed.inj (Except.error.inj h)
      exact ⟨hSheltered, before, c, after, hSplit, hc, rfl, hAfter⟩

end Stencil.Program
