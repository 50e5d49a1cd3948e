import Stencil.Proofs.Program.Outline
import Stencil.Proofs.Template.Numbering

/-!
# Where a layout places statements

A layout counts two things against each other: the line feeds of the template that are still
pending, and the line breaks of the body that the template does not have. The balance below relates
both to the line that the body has reached and to the line that the template has reached. It is kept
by every chunk, and from it follows how many line breaks stand before each statement.

* `At`: what is true of a layout between two chunks.
* `At.place_spec`: the line breaks before a statement.
* `Arranged`: statements in their places, as the entries of an outline demand.
* `At.addAll`: a run of a layout arranges the entries of an outline.
* `lay_arranged`: so does the layout of a whole body.
-/

namespace Stencil.Program

open Text Template

/-! ## Statements in their places -/

/-- The number of line breaks that an entry needs before it. -/
def breaksNeeded : Option Entry → Entry → Nat
  | none, _ => 0
  | some previous, e => if needsBreak previous e then 1 else 0

/-- A place holds an entry: it has the lines and the indentation of the entry, it has the line
breaks that the entry needs, and it is joined to a statement before it if it has none. -/
structure Placed.Holds (previous : Option Entry) (e : Entry) (p : Placed) : Prop where
  indent : p.indent = e.indent
  first : p.first = e.statement.first
  others : p.others = e.statement.others
  needed : breaksNeeded previous e ≤ p.breaks
  joined : p.joined = (previous.isSome && p.breaks = 0)

/-- The line on which an entry starts if the one before it ends on some line: that of the template,
unless the body is beyond it already. -/
def startLine (previous : Option Entry) (line : Nat) (e : Entry) : Int :=
  match previous with
  | none => e.statement.origin
  | some _ => max e.statement.origin (line + breaksNeeded previous e)

/-- Places hold the entries of an outline one after the other, from a line of the body on, and
`ending` line breaks come after the last. If `timed` is true, each starts on its line. -/
inductive Arranged (timed : Prop) (ending : Nat) :
    (previous : Option Entry) → (line : Nat) → List Entry → List Placed → Prop
  | done {previous : Option Entry} {line : Nat} (hEnding : previous.isSome → 0 < ending) :
      Arranged timed ending previous line [] []
  | next {previous : Option Entry} {line : Nat} {e : Entry} {p : Placed} {es : List Entry}
      {ps : List Placed} (holds : p.Holds previous e)
      (time : timed → (line + p.breaks : Nat) = startLine previous line e)
      (rest : Arranged timed ending (some e) (line + p.breaks + e.statement.others.length) es ps) :
      Arranged timed ending previous line (e :: es) (p :: ps)

/-! ## The balance of a layout -/

/-- A layout has reached line `line` of the body, where the entry `previous` ends, and line `target`
of the template. `closed` tells whether a block was closed since that entry. -/
structure At (l : Layout) (previous : Option Entry) (closed : Bool) (line target : Nat) : Prop where
  /-- The current line is in use once there is a statement. -/
  lineOpen : l.lineOpen = previous.isSome
  /-- Another statement may follow on it unless something asks for a line break. -/
  joinable : ∀ d, previous = some d → l.joinable = (!d.statement.alone && !closed)
  /-- The body with all pending line feeds is ahead of the template by the debt. -/
  balance : line + l.pending = target + l.debt
  /-- There is no debt before the first statement. -/
  debt : previous = none → l.debt = 0
  margined : Margined l.blocks
  /-- Only the innermost block may be empty. -/
  outer : ∀ block ∈ l.blocks.tail, block.isEmpty = false

theorem at_start : At .start none false 1 1 where
  lineOpen := rfl
  joinable := by
    intro d hd
    cases hd
  balance := rfl
  debt _ := rfl
  margined := by
    intro block hBlock
    cases hBlock
  outer := by
    intro block hBlock
    cases hBlock

variable {l l' : Layout} {previous : Option Entry} {closed : Bool} {line target : Nat}

/-- Line feeds that are pending take the template further. -/
theorem At.await (h : At l previous closed line target) (n : Nat) :
    At (l.await n) previous closed line (target + n) where
  lineOpen := h.lineOpen
  joinable := h.joinable
  balance := by
    have hBalance := h.balance
    simp only [Layout.await]
    omega
  debt := h.debt
  margined := h.margined
  outer := h.outer

/-- Whether a layout asks for a fresh line under a statement. -/
def freshFor (s : Statement) (l : Layout) : Bool := s.alone || (l.lineOpen && !l.joinable)

theorem place_eq (s : Statement) (l : Layout) :
    l.place s =
      (⟨(l.flush (freshFor s l)).1, (l.flush (freshFor s l)).2.lineOpen, indentOf l.blocks, s.first,
        s.others, s.origin⟩,
        { (l.flush (freshFor s l)).2 with lineOpen := true, blocks := occupied l.blocks }) := by
  obtain ⟨blocks, lineOpen, joinable, pending, debt⟩ := l
  cases blocks with
  | nil => rfl
  | cons block outer => rfl

/-- Line feeds left over pay back the debt, and a line break that is needed and not pending adds to
it. Either way the balance is kept. -/
theorem balance_flush {pending debt : Nat} (h : line + pending = target + debt) (need : Nat) :
    need ≤ max pending need - min (pending - need) debt ∧
      line + (max pending need - min (pending - need) debt) = max target (line + need) ∧
      line + (max pending need - min (pending - need) debt) =
        target + (debt + (need - pending) - min (pending - need) debt) := by
  rcases Nat.lt_or_ge pending need with hShort | hEnough
  · have hLe := Nat.le_of_lt hShort
    rw [Nat.sub_eq_zero_of_le hLe, Nat.zero_min, Nat.max_eq_right hLe]
    omega
  · rw [Nat.sub_eq_zero_of_le hEnough, Nat.max_eq_left hEnough]
    omega

/-- The line breaks that a layout writes take the body to the line of the template, or as far beyond
it as the line break that is needed does. -/
theorem flush_spec (hBalance : line + l.pending = target + l.debt) (fresh : Bool) {need : Nat}
    (hNeed : need = if fresh && l.lineOpen then 1 else 0) :
    need ≤ (l.flush fresh).1 ∧ line + (l.flush fresh).1 = max target (line + need) ∧
      ∃ debt, (l.flush fresh).2 =
          { l with
            pending := 0, debt := debt, lineOpen := l.lineOpen && decide ((l.flush fresh).1 = 0) } ∧
        line + (l.flush fresh).1 = target + debt := by
  obtain ⟨hNeeded, hLine, hDebt⟩ := balance_flush hBalance need
  unfold Layout.flush
  simp only [← hNeed]
  exact ⟨hNeeded, hLine, _, rfl, hDebt⟩

/-- How an entry is tied to a layout that is to place it: it has the indentation of the innermost
block, and needs a line break exactly if the layout would not join it. -/
structure Fits (l : Layout) (previous : Option Entry) (e : Entry) : Prop where
  indent : e.indent = indentOf l.blocks
  needs : ∀ d, previous = some d → needsBreak d e = (e.statement.alone || !l.joinable)

theorem At.fits (h : At l previous closed line target) (s : Statement) :
    Fits l previous ⟨s, indentOf l.blocks, closed⟩ := by
  refine ⟨rfl, fun d hd => ?_⟩
  rw [h.joinable d hd, needsBreak]
  cases d.statement.alone <;> cases s.alone <;> cases closed <;> rfl

theorem fits_pass {block : OpenBlock} {outer : List OpenBlock} (hBlocks : l.blocks = block :: outer)
    (origin : Int) : Fits l previous (passEntry block.indent origin) := by
  refine ⟨by rw [hBlocks]; rfl, fun d _ => ?_⟩
  simp [needsBreak, passEntry]

/-- Where an entry is placed: after the line breaks it needs, on the line that the template has
reached unless the body is beyond it. What is left of the layout is in balance on that line. -/
theorem At.place_spec (h : At l previous closed line target) {e : Entry}
    (hFits : Fits l previous e) :
    (l.place e.statement).1.Holds previous e ∧
      (e.statement.origin = target →
        (line + (l.place e.statement).1.breaks : Nat) = startLine previous line e) ∧
      ∃ debt, (l.place e.statement).2 =
          { l with pending := 0, debt := debt, lineOpen := true, blocks := occupied l.blocks } ∧
        line + (l.place e.statement).1.breaks = target + debt := by
  have hNeed : breaksNeeded previous e =
      if freshFor e.statement l && l.lineOpen then 1 else 0 := by
    unfold freshFor
    rw [h.lineOpen]
    cases previous with
    | none => simp [breaksNeeded]
    | some d => simp [breaksNeeded, hFits.needs d rfl]
  obtain ⟨hNeeded, hLine, debt, hLeft, hDebt⟩ := flush_spec h.balance _ hNeed
  rw [place_eq, hLeft, ← hFits.indent]
  refine ⟨⟨rfl, rfl, rfl, hNeeded, by rw [h.lineOpen]⟩, fun hOrigin => ?_, debt, rfl, hDebt⟩
  cases previous with
  | none =>
    have hBalance := h.balance
    have hNone := h.debt rfl
    simp only [breaksNeeded] at hLine
    simp only [startLine, hOrigin]
    omega
  | some d =>
    simp only [startLine, hOrigin]
    omega

/-- An entry in its place, before whatever comes next. -/
theorem At.arranged_place {timed : Prop} {ending : Nat} (h : At l previous closed line target)
    {e : Entry} (hFits : Fits l previous e) (hTime : timed → e.statement.origin = target)
    {es : List Entry} {ps : List Placed}
    (rest : Arranged timed ending (some e)
      (line + (l.place e.statement).1.breaks + e.statement.others.length) es ps) :
    Arranged timed ending previous line (e :: es) ((l.place e.statement).1 :: ps) := by
  obtain ⟨holds, time, -⟩ := h.place_spec hFits
  exact .next holds (fun hTimed => time (hTime hTimed)) rest

/-- The balance after an entry, with whatever blocks are open then. -/
theorem At.place (h : At l previous closed line target) {e : Entry} (hFits : Fits l previous e)
    {joinable closed' : Bool} {blocks : List OpenBlock}
    (hJoinable : joinable = (!e.statement.alone && !closed')) (hMargined : Margined blocks)
    (hOuter : ∀ block ∈ blocks.tail, block.isEmpty = false) :
    At { (l.place e.statement).2 with joinable := joinable, blocks := blocks } (some e) closed'
      (line + (l.place e.statement).1.breaks + e.statement.others.length)
      (target + e.statement.others.length) := by
  obtain ⟨-, -, debt, hLeft, hDebt⟩ := h.place_spec hFits
  rw [hLeft]
  constructor
  · rfl
  · intro d hd
    cases hd
    exact hJoinable
  · simp only
    omega
  · intro hNone
    cases hNone
  · exact hMargined
  · exact hOuter

/-! ## Chunks, one at a time -/

/-- A run in two parts that ends well: so does each part. -/
theorem bind_eq_ok {ε α β : Type} {x : Except ε α} {f : α → Except ε β} {b : β}
    (h : x >>= f = .ok b) : ∃ a, x = .ok a ∧ f a = .ok b := by
  cases x with
  | error e => cases h
  | ok a => exact ⟨a, rfl, h⟩

theorem exists_of_closeBlock {keyword : List Char} {tagLine origin : Int}
    {r : List Placed × Layout} (h : l.closeBlock keyword tagLine origin = .ok r) :
    ∃ block outer, l.blocks = block :: outer := by
  unfold Layout.closeBlock at h
  cases hBlocks : l.blocks with
  | nil =>
    rw [hBlocks] at h
    cases h
  | cons block outer => exact ⟨block, outer, rfl⟩

theorem isEmpty_occupied {blocks : List OpenBlock}
    (hOuter : ∀ block ∈ blocks.tail, block.isEmpty = false) :
    ∀ block ∈ occupied blocks, block.isEmpty = false := by
  cases blocks with
  | nil => exact fun block hBlock => nomatch hBlock
  | cons inner outer =>
    intro block hBlock
    rcases List.mem_cons.mp hBlock with rfl | hBlock
    · rfl
    · exact hOuter block hBlock

theorem At.isEmpty_outer (h : At l previous closed line target) {block : OpenBlock}
    {outer : List OpenBlock} (hBlocks : l.blocks = block :: outer) :
    ∀ inner ∈ outer, inner.isEmpty = false := by
  have hTail := h.outer
  rw [hBlocks] at hTail
  exact hTail

/-- The end of a block: the block is left behind, and it has a `pass` if it would be empty. -/
theorem At.closeBlock {timed : Prop} {ending : Nat} {ps : List Placed} {block : OpenBlock}
    {outer : List OpenBlock} {keyword : List Char} {tagLine origin : Int}
    (h : At l previous closed line target) (hBlocks : l.blocks = block :: outer)
    (hTime : timed → origin = target)
    (hRun : l.closeBlock keyword tagLine origin = .ok (ps, l')) :
    l'.blocks = outer ∧ ∃ previous' line', At l' previous' true line' target ∧
      ∀ es ps', Arranged timed ending previous' line' es ps' →
        Arranged timed ending previous line (closing block origin ++ es) (ps ++ ps') := by
  have hOuter := h.isEmpty_outer hBlocks
  have hMargined : Margined (block :: outer) := hBlocks ▸ h.margined
  unfold Layout.closeBlock at hRun
  rw [hBlocks] at hRun
  unfold closing
  cases hEmpty : block.isEmpty with
  | true =>
    simp only [hEmpty, if_true, Except.ok.injEq, Prod.mk.injEq] at hRun
    obtain ⟨rfl, rfl⟩ := hRun
    have hFits : Fits l previous (passEntry block.indent origin) := fits_pass hBlocks origin
    have hLeft : (l.place (passEntry block.indent origin).statement).2.blocks.tail = outer := by
      rw [place_eq, hBlocks]
      rfl
    have hAt : At { (l.place (passEntry block.indent origin).statement).2 with
        joinable := false, blocks := outer } (some (passEntry block.indent origin)) true
        (line + (l.place (passEntry block.indent origin).statement).1.breaks) target :=
      h.place hFits rfl hMargined.tail fun inner hInner =>
        hOuter inner (List.mem_of_mem_tail hInner)
    rw [← hLeft] at hAt
    exact ⟨hLeft, _, _, hAt, fun es ps' rest => h.arranged_place hFits hTime rest⟩
  | false =>
    simp only [hEmpty, Bool.false_eq_true, if_false, Except.ok.injEq, Prod.mk.injEq] at hRun
    obtain ⟨rfl, rfl⟩ := hRun
    refine ⟨by rw [hBlocks]; rfl, previous, line, ?_, fun es ps' rest => rest⟩
    constructor
    · exact h.lineOpen
    · intro d _
      simp
    · exact h.balance
    · exact h.debt
    · rw [hBlocks]
      exact hMargined.tail
    · rw [hBlocks]
      exact fun inner hInner => hOuter inner (List.mem_of_mem_tail hInner)

theorem blocks_place (s : Statement) (l : Layout) : (l.place s).2.blocks = occupied l.blocks := by
  rw [place_eq]

/-- A statement in its place that opens no block. -/
theorem At.statement (h : At l previous closed line target) {e : Entry}
    (hFits : Fits l previous e) :
    At { (l.place e.statement).2 with joinable := !e.statement.alone } (some e) false
      (line + (l.place e.statement).1.breaks + e.statement.others.length)
      (target + e.statement.others.length) := by
  have hJoinable : (!e.statement.alone) = (!e.statement.alone && !false) := by simp
  have hAt := h.place hFits hJoinable (occupied_all (I := IsMargin) h.margined) fun block hBlock =>
    isEmpty_occupied h.outer block (List.mem_of_mem_tail hBlock)
  rw [← blocks_place e.statement l] at hAt
  exact hAt

theorem occupied_eq_self {blocks : List OpenBlock}
    (h : ∀ block ∈ blocks, block.isEmpty = false) : occupied blocks = blocks := by
  cases blocks with
  | nil => rfl
  | cons block outer =>
    have hBlock := h block List.mem_cons_self
    simp only [occupied, ← hBlock]

/-- A header in its place: a block is open under it. -/
theorem At.header (h : At l previous closed line target) {e : Entry} (hFits : Fits l previous e)
    (hAlone : e.statement.alone = true) (hUnbroken : e.statement.Unbroken) (tagLine : Int) :
    ((l.place e.statement).2.openBlock tagLine e.statement.last).blocks =
        ⟨e.inner, tagLine, true⟩ :: occupied l.blocks ∧
      At ((l.place e.statement).2.openBlock tagLine e.statement.last) (some e) false
        (line + (l.place e.statement).1.breaks + e.statement.others.length)
        (target + e.statement.others.length) := by
  have hMargin : IsMargin e.indent := hFits.indent ▸ indentOf_all isMargin_baseIndent h.margined
  have hOpen : (l.place e.statement).2.openBlock tagLine e.statement.last =
      { (l.place e.statement).2 with
        joinable := false, blocks := ⟨e.inner, tagLine, true⟩ :: occupied l.blocks } := by
    have hInner : (l.place e.statement).2.indent = e.indent := by
      rw [place_eq, hFits.indent]
      obtain ⟨blocks, lineOpen, joinable, pending, debt⟩ := l
      cases blocks with
      | nil => rfl
      | cons block outer => rfl
    unfold Layout.openBlock
    rw [hInner, ← inner_eq hMargin, place_eq]
  rw [hOpen]
  refine ⟨rfl, h.place hFits ?_ ?_ ?_⟩
  · rw [hAlone]
    rfl
  · exact List.forall_mem_cons.mpr ⟨hMargin.inner hUnbroken, occupied_all h.margined⟩
  · exact isEmpty_occupied h.outer

/-- What a layout does with a chunk puts entries in front of the outline of the chunks to come, and
arranges them. -/
theorem At.perform {timed : Prop} {ending : Nat} {ps : List Placed} {c : Chunk} {tagLine : Int}
    (h : At l previous closed line target)
    (hTime : timed → ∀ origin, (roleOf c).origin? = some origin → origin = target)
    (hRun : l.perform tagLine (roleOf c) = .ok (ps, l')) :
    ∃ es previous' closed' line', At l' previous' closed' line' (target + (roleOf c).height) ∧
      (∀ cs es', Flat l'.blocks closed' cs es' → Flat l.blocks closed (c :: cs) (es ++ es')) ∧
      ∀ es' ps', Arranged timed ending previous' line' es' ps' →
        Arranged timed ending previous line (es ++ es') (ps ++ ps') := by
  have hUnbroken := roleOf_unbroken c
  have hAlone := headerAlone_roleOf c
  cases hRole : roleOf c with
  | blank =>
    rw [hRole] at hRun
    obtain ⟨rfl, rfl⟩ := Prod.mk.inj (Except.ok.inj hRun)
    exact ⟨[], previous, closed, line, h, fun cs es' rest => .blank hRole rest,
      fun es' ps' rest => rest⟩
  | statement s =>
    rw [hRole] at hRun hTime
    obtain ⟨rfl, rfl⟩ := Prod.mk.inj (Except.ok.inj hRun)
    have hFits := h.fits s
    have hBlocks := blocks_place s l
    have hAt := h.statement hFits
    exact ⟨[_], _, _, _, hAt, fun cs es' rest => .statement hRole (hBlocks ▸ rest),
      fun es' ps' rest => h.arranged_place hFits (fun hTimed => hTime hTimed _ rfl) rest⟩
  | header s =>
    rw [hRole] at hRun hTime hUnbroken hAlone
    obtain ⟨rfl, rfl⟩ := Prod.mk.inj (Except.ok.inj hRun)
    have hFits := h.fits s
    obtain ⟨hBlocks, hAt⟩ := h.header hFits hAlone hUnbroken tagLine
    exact ⟨[_], _, _, _, hAt, fun cs es' rest => .header hRole (hBlocks ▸ rest),
      fun es' ps' rest => h.arranged_place hFits (fun hTimed => hTime hTimed _ rfl) rest⟩
  | sibling s =>
    rw [hRole] at hRun hTime hUnbroken hAlone
    obtain ⟨⟨closers, inside⟩, hClose, hRest⟩ := bind_eq_ok hRun
    obtain ⟨rfl, rfl⟩ := Prod.mk.inj (Except.ok.inj hRest)
    obtain ⟨block, outer, hBlocks⟩ := exists_of_closeBlock hClose
    obtain ⟨hInside, previous', line', hAt, hArranged⟩ := h.closeBlock hBlocks
      (fun hTimed => hTime hTimed _ rfl) hClose
    have hFits := hAt.fits s
    obtain ⟨hOpen, hAt'⟩ := hAt.header hFits hAlone hUnbroken tagLine
    refine ⟨closing block s.origin ++ [⟨s, indentOf outer, true⟩], _, _, _, hAt', ?_, ?_⟩
    · intro cs es' rest
      rw [hOpen, hInside, occupied_eq_self (h.isEmpty_outer hBlocks)] at rest
      rw [hBlocks, List.append_assoc]
      exact .sibling hRole rest
    · intro es' ps' rest
      rw [List.append_assoc, List.append_assoc]
      refine hArranged _ _ ?_
      rw [← hInside]
      exact hAt.arranged_place hFits (fun hTimed => hTime hTimed _ rfl) rest
  | ending origin =>
    rw [hRole] at hRun hTime
    obtain ⟨block, outer, hBlocks⟩ := exists_of_closeBlock hRun
    obtain ⟨hInside, previous', line', hAt, hArranged⟩ := h.closeBlock hBlocks
      (fun hTimed => hTime hTimed _ rfl) hRun
    rw [hBlocks]
    exact ⟨closing block origin, previous', true, line', hAt,
      fun cs es' rest => .ending hRole (hInside ▸ rest), hArranged⟩

/-- One chunk: the template goes on by its line feeds. -/
theorem At.add {timed : Prop} {ending : Nat} {ps : List Placed} {c : Chunk}
    (h : At l previous closed line target) (hLine : timed → c.kind ≠ .filler → c.line = target)
    (hRun : l.add c = .ok (ps, l')) :
    ∃ es previous' closed' line', At l' previous' closed' line' (target + newlines c.text) ∧
      (∀ cs es', Flat l'.blocks closed' cs es' → Flat l.blocks closed (c :: cs) (es ++ es')) ∧
      ∀ es' ps', Arranged timed ending previous' line' es' ps' →
        Arranged timed ending previous line (es ++ es') (ps ++ ps') := by
  rw [Layout.add_eq_perform] at hRun
  obtain ⟨⟨placed, middle⟩, hPerform, hRest⟩ := bind_eq_ok hRun
  obtain ⟨rfl, rfl⟩ := Prod.mk.inj (Except.ok.inj hRest)
  have hTime : timed → ∀ origin, (roleOf c).origin? = some origin →
      origin = (target + leading c : Nat) := by
    intro hTimed origin hOrigin
    obtain ⟨hKind, rfl⟩ := origin?_roleOf hOrigin
    rw [hLine hTimed hKind]
    exact (Int.natCast_add target (leading c)).symm
  obtain ⟨es, previous', closed', line', hAt, hFlat, hArranged⟩ :=
    (h.await (leading c)).perform hTime hPerform
  refine ⟨es, previous', closed', line', ?_, hFlat, hArranged⟩
  have hNext := hAt.await (trailing c)
  rw [Nat.add_assoc target, Nat.add_assoc target, newlines_eq_of_role] at hNext
  exact hNext

/-! ## Whole runs -/

/-- A layout ends with no block open, and with a line break after the last statement. -/
theorem At.finish {ending : Nat} (h : At l previous closed line target)
    (hRun : l.finish = .ok ending) : l.blocks = [] ∧ (previous.isSome → 0 < ending) := by
  unfold Layout.finish at hRun
  cases hBlocks : l.blocks with
  | cons block outer =>
    rw [hBlocks] at hRun
    cases hRun
  | nil =>
    rw [hBlocks] at hRun
    have hEnding : (if (l.flush false).2.lineOpen then (l.flush false).1 + 1
        else (l.flush false).1) = ending := Except.ok.inj hRun
    refine ⟨rfl, fun hSome => ?_⟩
    have hOpen : l.lineOpen = true := h.lineOpen.trans hSome
    obtain ⟨-, -, debt, hLeft, -⟩ := flush_spec h.balance false rfl
    rw [hLeft, hOpen, Bool.true_and] at hEnding
    simp only [decide_eq_true_eq] at hEnding
    split at hEnding <;> omega

/-- A run of a layout, from any balance on: the chunks have an outline along the open blocks, and
its entries are arranged. -/
theorem At.addAll {timed : Prop} {ending : Nat} {ps : List Placed} {cs : List Chunk}
    (h : At l previous closed line target) (hNumbered : timed → Numbered target cs)
    (hRun : l.addAll cs = .ok (ps, l')) (hFinish : l'.finish = .ok ending) :
    ∃ es, Flat l.blocks closed cs es ∧ Arranged timed ending previous line es ps := by
  induction cs generalizing l previous closed line target ps with
  | nil =>
    obtain ⟨rfl, rfl⟩ := Prod.mk.inj (Except.ok.inj hRun)
    obtain ⟨hBlocks, hEnding⟩ := h.finish hFinish
    rw [hBlocks]
    exact ⟨[], .done closed, .done hEnding⟩
  | cons c cs ih =>
    obtain ⟨⟨placed, middle⟩, hAdd, hRest⟩ := bind_eq_ok hRun
    obtain ⟨⟨others, last⟩, hOthers, hPair⟩ := bind_eq_ok hRest
    obtain ⟨rfl, rfl⟩ := Prod.mk.inj (Except.ok.inj hPair)
    obtain ⟨es, previous', closed', line', hAt, hFlat, hArranged⟩ :=
      h.add (fun hTimed => (hNumbered hTimed).1) hAdd
    obtain ⟨es', hFlat', hArranged'⟩ := ih hAt (fun hTimed => (hNumbered hTimed).2) hOthers
    exact ⟨es ++ es', hFlat cs es' hFlat', hArranged es' others hArranged'⟩

/-- The layout of a body arranges the entries of an outline. If the chunks stand on the lines they
lead to, each statement starts on its line. -/
theorem lay_arranged {timed : Prop} {cs : List Chunk} {b : Body}
    (hNumbered : timed → Numbered 1 cs) (h : lay cs = .ok b) :
    ∃ es, Flat [] false cs es ∧ Arranged timed b.ending none 1 es b.placed := by
  obtain ⟨⟨placed, l⟩, hRun, hRest⟩ := bind_eq_ok h
  obtain ⟨ending, hFinish, hBody⟩ := bind_eq_ok hRest
  obtain rfl := Except.ok.inj hBody
  exact at_start.addAll hNumbered hRun hFinish

end Stencil.Program
