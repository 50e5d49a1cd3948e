import Stencil.Proofs.Program.Balance

/-!
# Where siblings stand

A header may continue a block, as `else:` continues that of `if …:`. It takes the indentation of the
statement whose header opened the block, so that it stands under the first line of that statement.
The header itself is the last line of the statement. If the statement has other lines and the last
is indented against the first, its siblings do not stand under it.

* `Layout.indents`: what a layout keeps of the indentations of its open blocks.
* `shiftAll_of_sheltered`: chunks that close just the blocks that they open do not touch those
  around.
* `lay_sibling`: a sibling has the indentation of the statement that opened its block.
* `Placed.headerIndent_eq_iff`: when this is the indentation of the header.
-/

namespace Stencil.Program

open Text Template

/-! ## Indentations of open blocks -/

/-- The indentations of the open blocks of a layout, innermost first. -/
def Layout.indents (l : Layout) : List (List Char) := l.blocks.map (·.indent)

/-- The innermost of some indentations. -/
def innermost (indents : List (List Char)) : List Char := indents.headD baseIndent

/-- The indentation of a block whose header ends a statement. -/
def Statement.blockUnder (s : Statement) (indent : List Char) : List Char :=
  indent ++ s.last.takeWhile isBlank ++ blockIndent

/-- What a role makes of the indentations of the open blocks. -/
def Role.shift : Role → List (List Char) → List (List Char)
  | blank, indents => indents
  | statement _, indents => indents
  | header s, indents => s.blockUnder (innermost indents) :: indents
  | sibling s, indents => s.blockUnder (innermost indents.tail) :: indents.tail
  | ending _, indents => indents.tail

/-- What chunks make of them, one after the other. -/
def shiftAll (indents : List (List Char)) (cs : List Chunk) : List (List Char) :=
  cs.foldl (fun indents c => (roleOf c).shift indents) indents

theorem indentOf_eq (blocks : List OpenBlock) :
    indentOf blocks = innermost (blocks.map (·.indent)) := by
  cases blocks <;> rfl

theorem indents_occupied (blocks : List OpenBlock) :
    (occupied blocks).map (·.indent) = blocks.map (·.indent) := by
  cases blocks <;> rfl

theorem indents_place (s : Statement) (l : Layout) : (l.place s).2.indents = l.indents := by
  unfold Layout.indents
  rw [blocks_place, indents_occupied]

theorem indent_place (s : Statement) (l : Layout) : (l.place s).1.indent = innermost l.indents := by
  rw [place_eq]
  exact indentOf_eq l.blocks

theorem indents_openBlock (line : Int) (s : Statement) (l : Layout) :
    (l.openBlock line s.last).indents = s.blockUnder (innermost l.indents) :: l.indents := by
  have hIndent : l.indent = innermost l.indents := by
    unfold Layout.indent Layout.indents
    cases l.blocks <;> rfl
  show (l.indent ++ s.last.takeWhile isBlank ++ blockIndent) :: l.indents = _
  rw [hIndent]
  rfl

theorem indents_closeBlock {l l' : Layout} {keyword : List Char} {line origin : Int}
    {ps : List Placed} (h : l.closeBlock keyword line origin = .ok (ps, l')) :
    l'.indents = l.indents.tail := by
  unfold Layout.closeBlock at h
  split at h
  case h_1 => cases h
  case h_2 block outer hBlocks =>
    cases hEmpty : block.isEmpty with
    | true =>
      rw [hEmpty, if_pos rfl] at h
      obtain ⟨-, rfl⟩ := Prod.mk.inj (Except.ok.inj h)
      have hPass := indents_place ⟨['p', 'a', 's', 's'], [], origin, true⟩ l
      unfold Layout.indents at hPass ⊢
      rw [← hPass]
      exact List.map_tail
    | false =>
      rw [hEmpty, if_neg Bool.false_ne_true] at h
      obtain ⟨-, rfl⟩ := Prod.mk.inj (Except.ok.inj h)
      exact List.map_tail

variable {l l' : Layout} {c d : Chunk} {cs : List Chunk} {ps : List Placed} {s t : Statement}

theorem indents_add (h : l.add c = .ok (ps, l')) : l'.indents = (roleOf c).shift l.indents := by
  rw [Layout.add_eq_perform] at h
  obtain ⟨⟨placed, after⟩, hPerform, hPair⟩ := bind_eq_ok h
  obtain ⟨-, rfl⟩ := Prod.mk.inj (Except.ok.inj hPair)
  cases hRole : roleOf c with
  | blank =>
    rw [hRole] at hPerform
    obtain ⟨-, rfl⟩ := Prod.mk.inj (Except.ok.inj hPerform)
    rfl
  | statement s =>
    rw [hRole] at hPerform
    obtain ⟨-, rfl⟩ := Prod.mk.inj (Except.ok.inj hPerform)
    exact indents_place s (l.await (leading c))
  | header s =>
    rw [hRole] at hPerform
    obtain ⟨-, rfl⟩ := Prod.mk.inj (Except.ok.inj hPerform)
    have hOpen := indents_openBlock c.line s ((l.await (leading c)).place s).2
    rw [indents_place] at hOpen
    exact hOpen
  | sibling s =>
    rw [hRole] at hPerform
    obtain ⟨⟨closing, middle⟩, hClose, hRest⟩ := bind_eq_ok hPerform
    obtain ⟨-, rfl⟩ := Prod.mk.inj (Except.ok.inj hRest)
    have hOpen := indents_openBlock c.line s (middle.place s).2
    rw [indents_place, indents_closeBlock hClose] at hOpen
    exact hOpen
  | ending origin =>
    rw [hRole] at hPerform
    have hClose : (l.await (leading c)).closeBlock blockEnd c.line origin = .ok (placed, after) :=
      hPerform
    have hTail := indents_closeBlock hClose
    exact hTail

theorem addAll_cons (h : l.addAll (c :: cs) = .ok (ps, l')) : ∃ first middle others,
    l.add c = .ok (first, middle) ∧ middle.addAll cs = .ok (others, l') ∧ ps = first ++ others := by
  obtain ⟨⟨first, middle⟩, hAdd, hRest⟩ := bind_eq_ok h
  obtain ⟨⟨others, last⟩, hOthers, hPair⟩ := bind_eq_ok hRest
  obtain ⟨rfl, rfl⟩ := Prod.mk.inj (Except.ok.inj hPair)
  exact ⟨first, middle, others, hAdd, hOthers, rfl⟩

theorem addAll_of_append {ds : List Chunk} (h : l.addAll (cs ++ ds) = .ok (ps, l')) :
    ∃ first middle others, l.addAll cs = .ok (first, middle) ∧
      middle.addAll ds = .ok (others, l') ∧ ps = first ++ others := by
  induction cs generalizing l ps with
  | nil => exact ⟨[], l, ps, rfl, h, rfl⟩
  | cons c cs ih =>
    obtain ⟨placed, middle, rest, hAdd, hRest, rfl⟩ := addAll_cons h
    obtain ⟨first, last, others, hFirst, hOthers, rfl⟩ := ih hRest
    refine ⟨placed ++ first, last, others, ?_, hOthers, (List.append_assoc ..).symm⟩
    rw [Layout.addAll, hAdd]
    show (middle.addAll cs >>= fun r => pure (placed ++ r.1, r.2)) = _
    rw [hFirst]
    rfl

theorem addAll_singleton (c : Chunk) (l : Layout) : l.addAll [c] = l.add c := by
  rw [Layout.addAll]
  cases l.add c with
  | error e => rfl
  | ok r =>
    show Except.ok (r.1 ++ [], r.2) = _
    rw [List.append_nil]

theorem indents_addAll (h : l.addAll cs = .ok (ps, l')) : l'.indents = shiftAll l.indents cs := by
  induction cs generalizing l ps with
  | nil =>
    obtain ⟨-, rfl⟩ := Prod.mk.inj (Except.ok.inj h)
    rfl
  | cons c cs ih =>
    obtain ⟨first, middle, others, hAdd, hOthers, -⟩ := addAll_cons h
    rw [ih hOthers, indents_add hAdd]
    rfl

/-! ## Blocks around -/

/-- A role leaves the blocks around alone, if it does not need them. -/
theorem shift_append {r : Role} {top : List (List Char)}
    (h : r.part = .closing ∨ r.part = .sibling → 0 < top.length) (around : List (List Char)) :
    ∃ top', r.shift (top ++ around) = top' ++ around ∧
      (top'.length : Int) = top.length + r.part.rise := by
  cases r with
  | blank => exact ⟨top, rfl, (Int.add_zero _).symm⟩
  | statement s => exact ⟨top, rfl, (Int.add_zero _).symm⟩
  | header s =>
    exact ⟨s.blockUnder (innermost (top ++ around)) :: top, rfl,
      by simp [Role.part, BlockPart.rise]⟩
  | sibling s =>
    cases top with
    | nil => exact absurd (h (.inr rfl)) (Nat.lt_irrefl 0)
    | cons indent top =>
      exact ⟨s.blockUnder (innermost (top ++ around)) :: top, rfl,
        by simp [Role.part, BlockPart.rise]⟩
  | ending origin =>
    cases top with
    | nil => exact absurd (h (.inl rfl)) (Nat.lt_irrefl 0)
    | cons indent top =>
      refine ⟨top, rfl, ?_⟩
      simp only [List.length_cons, Role.part, BlockPart.rise]
      omega

theorem shiftAll_of_sheltered (top : List (List Char)) (h : Sheltered top.length cs)
    (around : List (List Char)) : ∃ top', shiftAll (top ++ around) cs = top' ++ around ∧
      (top'.length : Int) = top.length + depth cs := by
  induction cs generalizing top with
  | nil => exact ⟨top, rfl, (Int.add_zero _).symm⟩
  | cons c cs ih =>
    have hNeeds : (roleOf c).part = .closing ∨ (roleOf c).part = .sibling → 0 < top.length := by
      rw [part_roleOf]
      intro hc
      simpa using h [] c cs rfl hc
    obtain ⟨top', hShift, hLength⟩ := shift_append hNeeds around
    rw [part_roleOf] at hLength
    obtain ⟨top'', hRest, hLength'⟩ := ih top' ((sheltered_cons hLength).mp h).2
    refine ⟨top'', ?_, by rw [depth_cons]; omega⟩
    rw [shiftAll, List.foldl_cons, hShift]
    exact hRest

/-- Chunks that close just the blocks that they open leave the indentations as they were. -/
theorem shiftAll_of_balanced (h : Balanced cs) (indents : List (List Char)) :
    shiftAll indents cs = indents := by
  obtain ⟨top, hShift, hLength⟩ := shiftAll_of_sheltered [] h.sheltered indents
  rw [h.level] at hLength
  obtain rfl : top = [] := List.length_eq_zero_iff.mp (by simpa using hLength)
  exact hShift

/-! ## Headers and their siblings -/

/-- Whether a place holds a statement, on lines of its own. -/
structure Placed.Shows (s : Statement) (p : Placed) : Prop where
  first : p.first = s.first
  others : p.others = s.others
  joined : p.joined = false

theorem shows_place (hAlone : s.alone = true) (l : Layout) : (l.place s).1.Shows s := by
  refine ⟨rfl, rfl, ?_⟩
  have hFresh : freshFor s l = true := by
    rw [freshFor, hAlone]
    rfl
  rw [place_eq, hFresh]
  cases hOpen : l.lineOpen with
  | false => simp [Layout.flush, hOpen]
  | true =>
    simp [Layout.flush, hOpen]
    omega

/-- Where a statement is placed whose header opens a block, and what its block has. -/
theorem add_opener (h : l.add c = .ok (ps, l'))
    (hOpens : roleOf c = .header s ∨ roleOf c = .sibling s) :
    ∃ before p outer, ps = before ++ [p] ∧ p.Shows s ∧ p.indent = innermost outer ∧
      l'.indents = s.blockUnder p.indent :: outer := by
  have hIndents := indents_add h
  have hAlone := headerAlone_roleOf c
  rw [Layout.add_eq_perform] at h
  obtain ⟨⟨placed, after⟩, hPerform, hPair⟩ := bind_eq_ok h
  obtain ⟨rfl, -⟩ := Prod.mk.inj (Except.ok.inj hPair)
  rcases hOpens with hRole | hRole
  · rw [hRole] at hPerform hIndents hAlone
    obtain ⟨rfl, -⟩ := Prod.mk.inj (Except.ok.inj hPerform)
    have hIndent := indent_place s (l.await (leading c))
    refine ⟨[], _, l.indents, rfl, shows_place hAlone _, hIndent, ?_⟩
    rw [hIndent]
    exact hIndents
  · rw [hRole] at hPerform hIndents hAlone
    obtain ⟨⟨closing, middle⟩, hClose, hRest⟩ := bind_eq_ok hPerform
    obtain ⟨rfl, -⟩ := Prod.mk.inj (Except.ok.inj hRest)
    have hIndent := indent_place s middle
    rw [indents_closeBlock hClose] at hIndent
    refine ⟨closing, _, l.indents.tail, rfl, shows_place hAlone _, hIndent, ?_⟩
    rw [hIndent]
    exact hIndents

/-- Whether a statement of a body is the last one that some chunks become, with which the body
begins. -/
def Body.Reaches (b : Body) (cs : List Chunk) (p : Placed) : Prop :=
  ∃ ps l, Layout.start.addAll cs = .ok (ps ++ [p], l) ∧ ps ++ [p] <+: b.placed

/-- **Where a sibling stands.** If a header opens a block and a sibling continues it, then the
sibling has the indentation of the statement that the header ends. -/
theorem lay_sibling {before inside after : List Chunk} {b : Body}
    (h : lay (before ++ [c] ++ inside ++ [d] ++ after) = .ok b)
    (hOpens : roleOf c = .header s ∨ roleOf c = .sibling s) (hInside : Balanced inside)
    (hSibling : roleOf d = .sibling t) :
    ∃ p q, b.Reaches (before ++ [c]) p ∧ b.Reaches (before ++ [c] ++ inside ++ [d]) q ∧
      p.Shows s ∧ q.Shows t ∧ q.indent = p.indent := by
  obtain ⟨⟨placed, last⟩, hRun, hRest⟩ := bind_eq_ok h
  obtain ⟨ending, -, hBody⟩ := bind_eq_ok hRest
  have hPlaced : placed = b.placed := congrArg Body.placed (Except.ok.inj hBody)
  -- The run up to the sibling, up to what is inside of the block, and up to the header.
  obtain ⟨toSibling, l₄, _, hToSibling, -, hAll⟩ := addAll_of_append hRun
  obtain ⟨toInside, l₃, continued, hToInside, hContinues, hSiblings⟩ := addAll_of_append hToSibling
  obtain ⟨toHeader, l₂, inner, hToHeader, hInner, hInsides⟩ := addAll_of_append hToInside
  obtain ⟨_, l₁, opened, -, hOpener, hHeaders⟩ := addAll_of_append hToHeader
  rw [addAll_singleton] at hOpener hContinues
  obtain ⟨ps, p, outer, hOpened, hp, hIndent, hIndents⟩ := add_opener hOpener hOpens
  obtain ⟨qs, q, outer', hContinued, hq, hIndent', hIndents'⟩ :=
    add_opener hContinues (.inr hSibling)
  have hSiblingBegins : toSibling <+: b.placed := hPlaced ▸ hAll ▸ List.prefix_append ..
  have hHeaderBegins : toHeader <+: b.placed := by
    refine .trans ?_ hSiblingBegins
    rw [hSiblings, hInsides, List.append_assoc]
    exact List.prefix_append ..
  rw [hOpened, ← List.append_assoc] at hHeaders
  rw [hContinued, ← List.append_assoc] at hSiblings
  rw [hHeaders] at hToHeader hHeaderBegins
  rw [hSiblings] at hToSibling hSiblingBegins
  refine ⟨p, q, ⟨_, l₂, hToHeader, hHeaderBegins⟩, ⟨_, l₄, hToSibling, hSiblingBegins⟩, hp, hq, ?_⟩
  -- What is inside of the block leaves the indentations as they were.
  have hBlock : l₃.indents = s.blockUnder p.indent :: outer := by
    rw [indents_addAll hInner, hIndents, shiftAll_of_balanced hInside]
  have hShift := indents_add hContinues
  rw [hSibling, hBlock, hIndents'] at hShift
  have hOuter : outer' = outer := (List.cons.inj hShift).2
  rw [hIndent', hIndent, hOuter]

/-- The indentation of the header that ends a statement in its place. -/
def Placed.headerIndent (p : Placed) : List Char :=
  p.indent ++ (p.others.getLastD p.first).takeWhile isBlank

/-- A sibling stands under the header itself just if the header is not indented against the
statement that it ends. -/
theorem Placed.headerIndent_eq_iff {p q : Placed} (hp : p.Shows s) (h : q.indent = p.indent) :
    q.indent = p.headerIndent ↔ s.last.takeWhile isBlank = [] := by
  rw [h, Placed.headerIndent, hp.first, hp.others]
  exact List.self_eq_append_right

/-- Here `else:` stands under `for`, and not under `if`. -/
example :
    (lay [⟨.code, "for i in n:\n  if i:".toList, 1⟩, ⟨.code, "else:".toList, 1⟩,
      ⟨.code, "end".toList, 1⟩]).map (fun b => b.placed.map fun p => (p.indent.length, p.first)) =
    .ok [(4, "for i in n:".toList), (10, "pass".toList), (4, "else:".toList),
      (8, "pass".toList)] := by
  decide +kernel

end Stencil.Program
