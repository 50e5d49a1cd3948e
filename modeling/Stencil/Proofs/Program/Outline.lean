import Stencil.Proofs.Program.Role

/-!
# The outline of a body

Which statements a body has, in which order and with which indentation, follows from the roles of
its chunks. There are two descriptions of it. `Suite` and `Branch` are a grammar: a block holds a
suite of its own, and what comes after the block has the indentation of what came before it. `Flat`
goes through the chunks with a stack of open blocks, as a layout does.

* `Entry`: a statement with its indentation.
* `Suite`, `Branch`: chunks that are well nested, and the entries they become.
* `Flat`: the same along a stack of open blocks.
* `Flat.suite`: with no open block at the start, a stack finds a suite.
* `Flat.all`: what blocks keep is true of all entries.
* `Flat.wellLined`: indentations are blank and no line of an entry has a line feed.
-/

namespace Stencil.Program

open Text Template

/-! ## Entries -/

/-- A statement in an outline, with the indentation of the block it stands in. `afterBlock` tells
whether a block has been closed since the statement before it. -/
structure Entry where
  statement : Statement
  indent : List Char
  afterBlock : Bool
  deriving DecidableEq, Repr

/-- The text of an entry from the first character of its statement on. Its other lines have the
indentation of the block, unless they are empty. -/
def Entry.text (e : Entry) : List Char :=
  e.statement.first ++
    e.statement.others.flatMap fun line => '\n' :: if line = [] then [] else e.indent ++ line

/-- The indentation of the block under a header: that of the header's last line as it is written,
and four spaces. -/
def Entry.inner (e : Entry) : List Char :=
  (e.indent ++ e.statement.last).takeWhile isBlank ++ blockIndent

/-- Whether an entry cannot stand on the line on which the one before it ends. -/
def needsBreak (previous e : Entry) : Bool :=
  previous.statement.alone || e.statement.alone || e.afterBlock

/-- The entry of a block that has no other. -/
def passEntry (indent : List Char) (origin : Int) : Entry :=
  ⟨⟨['p', 'a', 's', 's'], [], origin, true⟩, indent, false⟩

/-- The entries of a block: those of its suite, or a `pass` if there are none. -/
def filled (indent : List Char) (origin : Int) (es : List Entry) : List Entry :=
  if es = [] then [passEntry indent origin] else es

/-! ## The grammar of blocks -/

mutual

/-- Chunks that are well nested, and the entries they become at some indentation. `closed` tells
whether a block was closed just before. -/
inductive Suite : (indent : List Char) → (closed : Bool) → List Chunk → List Entry → Prop
  | done (indent : List Char) (closed : Bool) : Suite indent closed [] []
  | blank {indent : List Char} {closed : Bool} {c : Chunk} {cs : List Chunk} {es : List Entry}
      (hRole : roleOf c = .blank) (rest : Suite indent closed cs es) :
      Suite indent closed (c :: cs) es
  | statement {indent : List Char} {closed : Bool} {c : Chunk} {s : Statement} {cs : List Chunk}
      {es : List Entry} (hRole : roleOf c = .statement s) (rest : Suite indent false cs es) :
      Suite indent closed (c :: cs) (⟨s, indent, closed⟩ :: es)
  | block {indent : List Char} {closed : Bool} {c : Chunk} {s : Statement} {inside cs : List Chunk}
      {insides es : List Entry} (hRole : roleOf c = .header s)
      (branch : Branch ⟨s, indent, closed⟩ inside insides) (rest : Suite indent true cs es) :
      Suite indent closed (c :: (inside ++ cs)) (⟨s, indent, closed⟩ :: (insides ++ es))

/-- What comes after a header up to the end of its block, with the siblings in between. -/
inductive Branch : (header : Entry) → List Chunk → List Entry → Prop
  | ends {header : Entry} {body : List Chunk} {es : List Entry} {c : Chunk} {origin : Int}
      (suite : Suite header.inner false body es) (hRole : roleOf c = .ending origin) :
      Branch header (body ++ [c]) (filled header.inner origin es)
  | continues {header : Entry} {body inside : List Chunk} {es insides : List Entry} {c : Chunk}
      {s : Statement} (suite : Suite header.inner false body es) (hRole : roleOf c = .sibling s)
      (branch : Branch ⟨s, header.indent, true⟩ inside insides) :
      Branch header (body ++ c :: inside)
        (filled header.inner s.origin es ++ ⟨s, header.indent, true⟩ :: insides)

end

/-! ## Along a stack of blocks -/

/-- The indentation in the innermost of some blocks. -/
def indentOf : List OpenBlock → List Char
  | [] => baseIndent
  | block :: _ => block.indent

/-- Some blocks once the innermost has a statement. -/
def occupied : List OpenBlock → List OpenBlock
  | [] => []
  | block :: outer => { block with isEmpty := false } :: outer

@[simp] theorem indentOf_occupied (blocks : List OpenBlock) :
    indentOf (occupied blocks) = indentOf blocks := by
  cases blocks with
  | nil => rfl
  | cons block outer => rfl

/-- What a block gets when it is closed. -/
def closing (block : OpenBlock) (origin : Int) : List Entry :=
  if block.isEmpty then [passEntry block.indent origin] else []

/-- The entries of chunks along a stack of open blocks, innermost first. All blocks are closed at
the end. -/
inductive Flat : (blocks : List OpenBlock) → (closed : Bool) → List Chunk → List Entry → Prop
  | done (closed : Bool) : Flat [] closed [] []
  | blank {blocks : List OpenBlock} {closed : Bool} {c : Chunk} {cs : List Chunk} {es : List Entry}
      (hRole : roleOf c = .blank) (rest : Flat blocks closed cs es) : Flat blocks closed (c :: cs) es
  | statement {blocks : List OpenBlock} {closed : Bool} {c : Chunk} {s : Statement}
      {cs : List Chunk} {es : List Entry} (hRole : roleOf c = .statement s)
      (rest : Flat (occupied blocks) false cs es) :
      Flat blocks closed (c :: cs) (⟨s, indentOf blocks, closed⟩ :: es)
  | header {blocks : List OpenBlock} {closed : Bool} {c : Chunk} {s : Statement} {line : Int}
      {cs : List Chunk} {es : List Entry} (hRole : roleOf c = .header s)
      (rest : Flat (⟨Entry.inner ⟨s, indentOf blocks, closed⟩, line, true⟩ :: occupied blocks) false
        cs es) :
      Flat blocks closed (c :: cs) (⟨s, indentOf blocks, closed⟩ :: es)
  | sibling {block : OpenBlock} {outer : List OpenBlock} {closed : Bool} {c : Chunk} {s : Statement}
      {line : Int} {cs : List Chunk} {es : List Entry} (hRole : roleOf c = .sibling s)
      (rest : Flat (⟨Entry.inner ⟨s, indentOf outer, true⟩, line, true⟩ :: outer) false cs es) :
      Flat (block :: outer) closed (c :: cs)
        (closing block s.origin ++ ⟨s, indentOf outer, true⟩ :: es)
  | ending {block : OpenBlock} {outer : List OpenBlock} {closed : Bool} {c : Chunk} {origin : Int}
      {cs : List Chunk} {es : List Entry} (hRole : roleOf c = .ending origin)
      (rest : Flat outer true cs es) :
      Flat (block :: outer) closed (c :: cs) (closing block origin ++ es)

/-! ## From a stack to the grammar -/

/-- What is left of a block of which some chunks have been taken. The block has a statement already,
or it is empty so far. -/
inductive Remainder (block : OpenBlock) (outer : List Char) (closed : Bool) :
    List Chunk → List Entry → Prop
  | ends {body : List Chunk} {es : List Entry} {c : Chunk} {origin : Int}
      (suite : Suite block.indent closed body es) (hRole : roleOf c = .ending origin) :
      Remainder block outer closed (body ++ [c])
        (if block.isEmpty then filled block.indent origin es else es)
  | continues {body inside : List Chunk} {es insides : List Entry} {c : Chunk} {s : Statement}
      (suite : Suite block.indent closed body es) (hRole : roleOf c = .sibling s)
      (branch : Branch ⟨s, outer, true⟩ inside insides) :
      Remainder block outer closed (body ++ c :: inside)
        ((if block.isEmpty then filled block.indent s.origin es else es) ++
          ⟨s, outer, true⟩ :: insides)

/-- A block of which nothing has been taken yet is a whole branch. -/
theorem Remainder.branch {header : Entry} {line : Int} {cs : List Chunk} {es : List Entry}
    (h : Remainder ⟨header.inner, line, true⟩ header.indent false cs es) : Branch header cs es := by
  cases h with
  | ends suite hRole => exact .ends suite hRole
  | continues suite hRole branch => exact .continues suite hRole branch

/-- What is left once some entries are put in front of a block's suite. -/
theorem Remainder.prepend {block : OpenBlock} {outer : List Char} {closed closed' : Bool}
    {taken cs : List Chunk} {first es : List Entry} (hFirst : first ≠ [])
    (hSuite : ∀ cs es, Suite block.indent closed' cs es →
      Suite block.indent closed (taken ++ cs) (first ++ es))
    (h : Remainder { block with isEmpty := false } outer closed' cs es) :
    Remainder block outer closed (taken ++ cs) (first ++ es) := by
  -- With an entry in front the block needs no `pass`, whether it was empty so far or not.
  have hFilled : ∀ (origin : Int) (es : List Entry),
      first ++ es = if block.isEmpty then filled block.indent origin (first ++ es)
        else first ++ es := by
    intro origin es
    have hSome : first ++ es ≠ [] := fun hNil => hFirst (List.append_eq_nil_iff.mp hNil).1
    rw [filled, if_neg hSome, ite_self]
  cases h with
  | @ends body es c origin suite hRole =>
    have h := @Remainder.ends block outer closed _ _ c origin (hSuite body es suite) hRole
    rw [← hFilled, List.append_assoc] at h
    exact h
  | @continues body inside es insides c s suite hRole branch =>
    have h := Remainder.continues (hSuite body es suite) hRole branch
    rw [← hFilled, List.append_assoc, List.append_assoc] at h
    exact h

theorem Remainder.blank {block : OpenBlock} {outer : List Char} {closed : Bool} {c : Chunk}
    {cs : List Chunk} {es : List Entry} (hRole : roleOf c = .blank)
    (h : Remainder block outer closed cs es) : Remainder block outer closed (c :: cs) es := by
  cases h with
  | ends suite hEnd => exact .ends (.blank hRole suite) hEnd
  | continues suite hSibling branch => exact .continues (.blank hRole suite) hSibling branch

/-- A stack of blocks, each with what is left of it, and a suite after the last. -/
inductive Nested : List OpenBlock → Bool → List Chunk → List Entry → Prop
  | suite {closed : Bool} {cs : List Chunk} {es : List Entry}
      (suite : Suite baseIndent closed cs es) : Nested [] closed cs es
  | inside {block : OpenBlock} {outer : List OpenBlock} {closed : Bool} {left cs : List Chunk}
      {lefts es : List Entry} (remainder : Remainder block (indentOf outer) closed left lefts)
      (rest : Nested outer true cs es) : Nested (block :: outer) closed (left ++ cs) (lefts ++ es)

/-- Some entries put in front of the innermost suite. -/
theorem Nested.prepend {blocks : List OpenBlock} {closed closed' : Bool} {taken cs : List Chunk}
    {first es : List Entry} (hFirst : first ≠ [])
    (hSuite : ∀ cs es, Suite (indentOf blocks) closed' cs es →
      Suite (indentOf blocks) closed (taken ++ cs) (first ++ es))
    (h : Nested (occupied blocks) closed' cs es) :
    Nested blocks closed (taken ++ cs) (first ++ es) := by
  cases blocks with
  | nil =>
    cases h with
    | suite suite => exact .suite (hSuite _ _ suite)
  | cons block outer =>
    cases h with
    | inside remainder rest =>
      have h := Nested.inside (remainder.prepend hFirst hSuite) rest
      rw [List.append_assoc, List.append_assoc] at h
      exact h

theorem Nested.blank {blocks : List OpenBlock} {closed : Bool} {c : Chunk} {cs : List Chunk}
    {es : List Entry} (hRole : roleOf c = .blank) (h : Nested blocks closed cs es) :
    Nested blocks closed (c :: cs) es := by
  cases h with
  | suite suite => exact .suite (.blank hRole suite)
  | inside remainder rest => exact .inside (remainder.blank hRole) rest

theorem Flat.nested {blocks : List OpenBlock} {closed : Bool} {cs : List Chunk} {es : List Entry}
    (h : Flat blocks closed cs es) : Nested blocks closed cs es := by
  induction h with
  | done closed => exact .suite (.done baseIndent closed)
  | blank hRole _ ih => exact ih.blank hRole
  | @statement blocks closed c s cs es hRole _ ih =>
    have hSuite : ∀ cs es, Suite (indentOf blocks) false cs es →
        Suite (indentOf blocks) closed ([c] ++ cs) ([⟨s, indentOf blocks, closed⟩] ++ es) :=
      fun _ _ suite => .statement hRole suite
    exact ih.prepend (List.cons_ne_nil _ []) hSuite
  | @header blocks closed c s line cs es hRole _ ih =>
    -- The block of the header is the innermost one, and nothing has been taken of it yet.
    cases ih with
    | @inside _ _ _ left cs lefts es remainder rest =>
      rw [indentOf_occupied] at remainder
      have hBranch : Branch ⟨s, indentOf blocks, closed⟩ left lefts := remainder.branch
      have hSuite : ∀ cs es, Suite (indentOf blocks) true cs es →
          Suite (indentOf blocks) closed (c :: left ++ cs)
            (⟨s, indentOf blocks, closed⟩ :: lefts ++ es) :=
        fun _ _ suite => .block hRole hBranch suite
      exact rest.prepend (List.cons_ne_nil _ lefts) hSuite
  | @sibling block outer closed c s line cs es hRole _ ih =>
    cases ih with
    | @inside _ _ _ left cs lefts es remainder rest =>
      have hBranch : Branch ⟨s, indentOf outer, true⟩ left lefts := remainder.branch
      have hClose := Remainder.continues (.done block.indent closed) hRole hBranch
      have h := Nested.inside hClose rest
      rw [List.nil_append, List.append_assoc] at h
      exact h
  | @ending block outer closed c origin cs es hRole _ ih =>
    exact .inside (.ends (.done block.indent closed) hRole) ih

/-- What a stack without open blocks finds is a suite. -/
theorem Flat.suite {closed : Bool} {cs : List Chunk} {es : List Entry} (h : Flat [] closed cs es) :
    Suite baseIndent closed cs es := by
  cases h.nested with
  | suite suite => exact suite

/-! ## What blocks keep -/

/-- Something is true of the statement of a role, if the role has one. -/
def Role.All (S : Statement → Prop) : Role → Prop
  | statement s => S s
  | header s => S s
  | sibling s => S s
  | _ => True

theorem Role.Unbroken.all {r : Role} (h : r.Unbroken) : r.All Statement.Unbroken := by
  cases r with
  | statement s | header s | sibling s => exact h
  | blank | ending origin => trivial

section Kept

variable {I : List Char → Prop} {S : Statement → Prop} {blocks : List OpenBlock}

theorem indentOf_all (hBase : I baseIndent) (h : ∀ block ∈ blocks, I block.indent) :
    I (indentOf blocks) := by
  cases blocks with
  | nil => exact hBase
  | cons block outer => exact h block List.mem_cons_self

theorem occupied_all (h : ∀ block ∈ blocks, I block.indent) :
    ∀ block ∈ occupied blocks, I block.indent := by
  cases blocks with
  | nil => exact h
  | cons block outer =>
    obtain ⟨hBlock, hOuter⟩ := List.forall_mem_cons.mp h
    exact List.forall_mem_cons.mpr ⟨hBlock, hOuter⟩

theorem closing_all {block : OpenBlock} (hBlock : I block.indent)
    (hPass : ∀ origin, S (passEntry block.indent origin).statement) (origin : Int) :
    ∀ e ∈ closing block origin, I e.indent ∧ S e.statement := by
  intro e he
  unfold closing at he
  split at he
  · rw [List.mem_singleton.mp he]
    exact ⟨hBlock, hPass origin⟩
  · cases he

/-- **What blocks keep is true of all entries.** It is enough that the indentation of the body has
it, and that the indentation under a header has it if that of the header has it. -/
theorem Flat.all (hBase : I baseIndent)
    (hInner : ∀ (c : Chunk) (e : Entry),
      roleOf c = .header e.statement ∨ roleOf c = .sibling e.statement → S e.statement →
        I e.indent → I e.inner)
    (hPass : ∀ indent origin, S (passEntry indent origin).statement) {closed : Bool}
    {cs : List Chunk} {es : List Entry} (h : Flat blocks closed cs es)
    (hChunks : ∀ c ∈ cs, (roleOf c).All S) (hBlocks : ∀ block ∈ blocks, I block.indent) :
    ∀ e ∈ es, I e.indent ∧ S e.statement := by
  induction h with
  | done closed => exact fun e he => nomatch he
  | blank _ _ ih => exact ih (List.forall_mem_cons.mp hChunks).2 hBlocks
  | @statement blocks closed c s cs es hRole _ ih =>
    obtain ⟨hStatement, hRest⟩ := List.forall_mem_cons.mp hChunks
    rw [hRole] at hStatement
    have hIndent := indentOf_all hBase hBlocks
    exact List.forall_mem_cons.mpr ⟨⟨hIndent, hStatement⟩, ih hRest (occupied_all hBlocks)⟩
  | @header blocks closed c s line cs es hRole _ ih =>
    obtain ⟨hStatement, hRest⟩ := List.forall_mem_cons.mp hChunks
    rw [hRole] at hStatement
    have hIndent := indentOf_all hBase hBlocks
    have hBlock := hInner c ⟨s, indentOf blocks, closed⟩ (.inl hRole) hStatement hIndent
    have hOpen := ih hRest (List.forall_mem_cons.mpr ⟨hBlock, occupied_all hBlocks⟩)
    exact List.forall_mem_cons.mpr ⟨⟨hIndent, hStatement⟩, hOpen⟩
  | @sibling block outer closed c s line cs es hRole _ ih =>
    obtain ⟨hStatement, hRest⟩ := List.forall_mem_cons.mp hChunks
    obtain ⟨hClosed, hOuter⟩ := List.forall_mem_cons.mp hBlocks
    rw [hRole] at hStatement
    have hIndent := indentOf_all hBase hOuter
    have hBlock := hInner c ⟨s, indentOf outer, true⟩ (.inr hRole) hStatement hIndent
    have hOpen := ih hRest (List.forall_mem_cons.mpr ⟨hBlock, hOuter⟩)
    exact List.forall_mem_append.mpr ⟨closing_all hClosed (hPass block.indent) s.origin,
      List.forall_mem_cons.mpr ⟨⟨hIndent, hStatement⟩, hOpen⟩⟩
  | @ending block outer closed c origin cs es hRole _ ih =>
    obtain ⟨hClosed, hOuter⟩ := List.forall_mem_cons.mp hBlocks
    exact List.forall_mem_append.mpr ⟨closing_all hClosed (hPass block.indent) origin,
      ih (List.forall_mem_cons.mp hChunks).2 hOuter⟩

end Kept

/-! ## Margins -/

/-- An indentation: blanks without a line feed. -/
structure IsMargin (indent : List Char) : Prop where
  blank : ∀ c ∈ indent, isBlank c = true
  unbroken : Unbroken indent

theorem isMargin_baseIndent : IsMargin baseIndent :=
  ⟨List.all_eq_true.mp rfl, by decide⟩

/-- The indentation under a header, from that of the header's statement. -/
theorem inner_eq {e : Entry} (h : IsMargin e.indent) :
    e.inner = e.indent ++ e.statement.last.takeWhile isBlank ++ blockIndent := by
  rw [Entry.inner, List.takeWhile_append_of_pos h.blank]

theorem Statement.last_mem (s : Statement) : s.last ∈ s.first :: s.others :=
  List.getLastD_mem_cons

theorem IsMargin.inner {e : Entry} (h : IsMargin e.indent) (hStatement : e.statement.Unbroken) :
    IsMargin e.inner := by
  have hLast : Unbroken (e.indent ++ e.statement.last) :=
    h.unbroken.append (hStatement _ e.statement.last_mem)
  have hHeader := hLast.of_subset (List.takeWhile_sublist isBlank).subset
  have hBlock : ∀ c ∈ blockIndent, isBlank c = true := List.all_eq_true.mp rfl
  exact ⟨List.forall_mem_append.mpr ⟨List.all_eq_true.mp List.all_takeWhile, hBlock⟩,
    hHeader.append (by decide)⟩

/-- The blocks of a stack have margins. -/
def Margined (blocks : List OpenBlock) : Prop := ∀ block ∈ blocks, IsMargin block.indent

theorem Margined.tail {block : OpenBlock} {outer : List OpenBlock} (h : Margined (block :: outer)) :
    Margined outer :=
  (List.forall_mem_cons.mp h).2

/-- An entry on lines of its own: its indentation is blank and none of its lines has a line feed. -/
structure Entry.WellLined (e : Entry) : Prop where
  margin : IsMargin e.indent
  unbroken : e.statement.Unbroken

theorem unbroken_passEntry (indent : List Char) (origin : Int) :
    (passEntry indent origin).statement.Unbroken := by
  intro line hLine
  rw [List.mem_singleton.mp hLine]
  show Unbroken ['p', 'a', 's', 's']
  decide

/-- The entries of an outline are on lines of their own. -/
theorem Flat.wellLined {blocks : List OpenBlock} {closed : Bool} {cs : List Chunk} {es : List Entry}
    (h : Flat blocks closed cs es) (hBlocks : Margined blocks) : ∀ e ∈ es, e.WellLined := by
  have hAll := h.all isMargin_baseIndent
    (fun _ _ _ hStatement hIndent => hIndent.inner hStatement) unbroken_passEntry
    (fun c _ => (roleOf_unbroken c).all) hBlocks
  exact fun e he => ⟨(hAll e he).1, (hAll e he).2⟩

theorem Entry.WellLined.newlines_text {e : Entry} (h : e.WellLined) :
    newlines e.text = e.statement.others.length := by
  have hOthers : ∀ lines : List (List Char), (∀ line ∈ lines, Unbroken line) →
      newlines (lines.flatMap fun line => '\n' :: if line = [] then [] else e.indent ++ line) =
        lines.length := by
    intro lines hLines
    induction lines with
    | nil => rfl
    | cons line lines ih =>
      have hLine : newlines (if line = [] then [] else e.indent ++ line) = 0 := by
        split
        · rfl
        · rw [newlines_append, newlines_eq_zero_of_unbroken h.margin.unbroken,
            newlines_eq_zero_of_unbroken (hLines line List.mem_cons_self)]
      rw [List.flatMap_cons, newlines_append, newlines_cons, hLine,
        ih fun other hMem => hLines other (List.mem_cons_of_mem line hMem), List.length_cons]
      simp only [if_true]
      omega
  have hFirst := newlines_eq_zero_of_unbroken (h.unbroken _ List.mem_cons_self)
  have hRest := hOthers e.statement.others fun line hMem =>
    h.unbroken line (List.mem_cons_of_mem _ hMem)
  rw [Entry.text, newlines_append, hFirst, hRest, Nat.zero_add]

end Stencil.Program
