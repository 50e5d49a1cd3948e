import Stencil.Proofs.Render.Given
import Stencil.Proofs.Script.Loading

/-!
# Running templates that only substitute

What the emissions of such a template put out is its texts with the values of the parameters between
them. This is what its unit answers, be it new or one that an engine keeps.

* `Output.grows_segments`: what the emissions of a template put out.
* `perform_renderSource`: a text comes to a unit that has been loaded.
* `runUnit_substitutes`: what a unit answers that has been loaded.
-/

namespace Stencil.Template

open Script Program

/-- What a segment renders to, given the parameters. -/
def Segment.rendered (values : Entries (List Char)) (s : Segment) : List Char :=
  s.text ++ (s.asked?.bind values.get?).getD []

/-- Whether a segment asks for a parameter that is not there. -/
def Segment.lacks (values : Entries (List Char)) (s : Segment) : Bool :=
  s.asked?.any fun name => (values.get? name).isNone

theorem Segment.lacks_iff {values : Entries (List Char)} {s : Segment} :
    s.lacks values = true ↔ ∃ e ∈ s.emissions, emitted? values e = none := by
  constructor
  · intro h
    obtain ⟨name, hAsked, hNone⟩ := (Option.any_eq_true ..).mp h
    refine ⟨.get name, List.mem_append_right _ ?_, Option.isNone_iff_eq_none.mp hNone⟩
    rw [hAsked]
    exact List.mem_singleton_self _
  · rintro ⟨e, he, hNone⟩
    rcases List.mem_append.mp he with hText | hTag
    · split at hText
      · cases hText
      · rw [List.mem_singleton.mp hText] at hNone
        cases hNone
    · obtain ⟨name, hAsked, rfl⟩ := Option.map_eq_some_iff.mp (Option.mem_toList.mp hTag)
      rw [Segment.lacks, hAsked]
      exact Option.isNone_iff_eq_none.mpr hNone

end Stencil.Template

namespace Stencil.Script

open Program Template

/-- Whether an output has grown by a text and a number of warnings about parameters. -/
structure Output.Grows (text : List Char) (count : Nat) (o o' : Output) : Prop where
  texts : o'.texts.flatten = o.texts.flatten ++ text
  warnings : o'.warnings = o.warnings ++ List.replicate count askLine
  issued : o'.issued = o.issued ++ List.replicate count undefinedValue

namespace Output

theorem grows_refl (o : Output) : Grows [] 0 o o :=
  ⟨(List.append_nil _).symm, (List.append_nil _).symm, (List.append_nil _).symm⟩

theorem Grows.trans {first second : List Char} {count count' : Nat} {o o' o'' : Output}
    (h : Grows first count o o') (h' : Grows second count' o' o'') :
    Grows (first ++ second) (count + count') o o'' where
  texts := by rw [h'.texts, h.texts, List.append_assoc]
  warnings := by rw [h'.warnings, h.warnings, List.append_assoc, List.replicate_append_replicate]
  issued := by rw [h'.issued, h.issued, List.append_assoc, List.replicate_append_replicate]

theorem grows_echo (o : Output) (text? : Option (List Char)) :
    Grows (text?.getD []) (if text?.isNone then 1 else 0) o (o.echo askLine text?) := by
  cases text? with
  | none => exact ⟨(List.append_nil _).symm, rfl, rfl⟩
  | some text =>
    refine ⟨?_, (List.append_nil _).symm, (List.append_nil _).symm⟩
    show (o.texts ++ [text]).flatten = _
    rw [List.flatten_append, List.flatten_singleton]
    rfl

variable (values : Entries (List Char))

/-- The text of a segment is put out, and so is the parameter that it asks for. -/
theorem grows_emissions (s : Segment) (o : Output) :
    Grows (s.rendered values) (if s.lacks values then 1 else 0) o
      (s.emissions.foldl (emit values) o) := by
  have hText : Grows s.text 0 o
      ((if s.text = [] then [] else [Emission.echo s.text]).foldl (emit values) o) := by
    split
    case isTrue hNil =>
      rw [hNil]
      exact grows_refl o
    case isFalse => exact grows_echo o (some s.text)
  rw [Segment.emissions, List.foldl_append]
  refine Nat.zero_add (if s.lacks values then 1 else 0) ▸ hText.trans ?_
  rw [Segment.lacks]
  cases s.asked? with
  | none => exact grows_refl _
  | some name => exact grows_echo _ (values.get? name)

/-- What the emissions of a template put out. -/
theorem grows_segments (segs : List Segment) (o : Output) :
    Grows (segs.flatMap (Segment.rendered values)) (segs.countP (Segment.lacks values)) o
      ((segs.flatMap Segment.emissions).foldl (emit values) o) := by
  induction segs generalizing o with
  | nil => exact grows_refl o
  | cons s segs ih =>
    have hFirst := grows_emissions values s o
    rw [List.flatMap_cons, List.flatMap_cons, List.foldl_append, List.countP_cons, Nat.add_comm]
    exact hFirst.trans (ih _)

end Output

end Stencil.Script

namespace Stencil.Render

open Script Program Template Run Store

variable {m m' : Machine World}

/-! ## Worlds -/

theorem World.engine_updateEngine (seat : Seat) (change : Engine → Engine) (w : World) :
    (w.updateEngine seat change).engine seat = change (w.engine seat) := by
  cases seat with
  | shared => rfl
  | apart => rfl

theorem World.files_updateEngine (seat : Seat) (change : Engine → Engine) (w : World) :
    (w.updateEngine seat change).files = w.files := by
  cases seat with
  | shared => rfl
  | apart => rfl

theorem yields_updateWorld (change : World → World) (m : Machine World) :
    (updateWorld change).Yields m () { m with world := change m.world } := rfl

/-- Counts the units of an engine that are running. -/
def countRunning (seat : Seat) (change : Nat → Nat) : World → World :=
  World.updateEngine seat fun e => { e with depth := change e.depth }

/-- A unit is counted as long as it runs. -/
theorem countRunning_cancel (seat : Seat) (w : World) :
    countRunning seat (· - 1) (countRunning seat (· + 1) w) = w := by
  cases seat with
  | shared => rfl
  | apart => rfl

theorem counted_yields {α : Type} {change : (Nat → Nat) → World → World} {r : Work α} {a : α}
    (h : r.Yields { m with world := change (· + 1) m.world } a m') :
    (counted change r).Yields m a { m' with world := change (· - 1) m'.world } :=
  (yields_modify _ m).bind (h.settle.bind ((yields_modify _ m').bind .pure))

/-! ## Installing -/

theorem compile_eq {text program : List Char} (h : preprocess text = .ok program)
    (m : Machine World) :
    (compile text).Yields m program
      { m with world := { m.world with compiles := m.world.compiles + 1 } } := by
  unfold compile
  rw [h]
  exact (yields_updateWorld _ m).bind .pure

/-- Whether a machine differs from another at most by new objects and variables, by what has been
counted, and by a unit that an engine keeps, if it has a key. -/
structure Installs (seat : Seat) (key? : Option Identity) (u : CompiledUnit) (m m' : Machine World) :
    Prop extends Machine.Preserves m m' where
  warnings : m'.warnings = m.warnings
  issued : m'.issued = m.issued
  files : m'.world.files = m.world.files
  engine : m'.world.engine seat = match key? with
    | none => m.world.engine seat
    | some key => { m.world.engine seat with units := (m.world.engine seat).units.insert key u }

/-- Whether an engine has no unit for a key, if there is one. -/
def Lacks (e : Engine) (key? : Option Identity) : Prop := ∀ key ∈ key?, e.units.get? key = none

theorem lookup_new {seat : Seat} {key? : Option Identity} (h : Lacks (m.world.engine seat) key?) :
    (lookup seat key?).Yields m none m := by
  cases key? with
  | none => exact .pure
  | some key =>
    have hEngine : (engineAt seat).Yields m (m.world.engine seat) m := rfl
    refine hEngine.bind ?_
    rw [h key rfl]
    exact .pure

/-- The name of a new unit is made from its key, or from a number that is counted. -/
theorem yields_newNamespaceId (key? : Option Identity) (seat : Seat) (m : Machine World) :
    ∃ namespaceId w, (newNamespaceId key?).Yields m namespaceId { m with world := w } ∧
      w.files = m.world.files ∧ w.engine seat = m.world.engine seat := by
  cases key? with
  | some key => exact ⟨_, m.world, rfl, rfl, rfl⟩
  | none =>
    refine ⟨_, { m.world with fresh := m.world.fresh + 1 }, rfl, rfl, ?_⟩
    cases seat with
    | shared => rfl
    | apart => rfl

/-- The program of a template that only substitutes is installed, if the engine has no unit for
it. -/
theorem install_new {seat : Seat} {key? : Option Identity} (h : Lacks (m.world.engine seat) key?)
    {program : List Char} (hClean : Clean program) {row : Nat} {es : List Emission}
    {stmts : List Stmt} (hCalls : List.Forall₂ IsCall es stmts)
    (hParse : parse program = .ok (programStmts row (helperStmts ++ stmts)))
    (fileName : List Char) (lineOffset : Int) :
    ∃ u m', (install calls seat key? program fileName lineOffset).Yields m u m' ∧ Loaded u es m' ∧
      u.lineOffset = lineOffset ∧ Installs seat key? u m m' := by
  obtain ⟨namespaceId, w, hName, hFiles, hEngine⟩ := yields_newNamespaceId key? seat m
  let m₁ : Machine World := { m with world := { w with loads := w.loads + 1 } }
  have hCount : (updateWorld fun w => { w with loads := w.loads + 1 }).Yields
      { m with world := w } () m₁ := yields_updateWorld _ _
  obtain ⟨u, m₂, hLoad, hOffset, hLoaded, hKeeps⟩ :=
    load_program calls namespaceId fileName lineOffset hClean hCalls hParse m₁
  have hPreserves : m.Preserves m₂ :=
    ⟨hKeeps.heap, hKeeps.frames, hKeeps.size, hKeeps.strict⟩
  have hEngine₂ : m₂.world.engine seat = m.world.engine seat := by
    rw [hKeeps.world, ← hEngine]
    cases seat with
    | shared => rfl
    | apart => rfl
  have hFiles₂ : m₂.world.files = m.world.files := by
    rw [hKeeps.world]
    exact hFiles
  cases key? with
  | none =>
    exact ⟨u, m₂, (lookup_new h).bind (hName.bind (hCount.bind (hLoad.bind .pure))), hLoaded, hOffset,
      hPreserves, hKeeps.warnings, hKeeps.issued, hFiles₂, hEngine₂⟩
  | some key =>
    let m₃ : Machine World := { m₂ with world := m₂.world.updateEngine seat fun e =>
      { e with units := e.units.insert key u } }
    have hStore : (updateUnits seat (·.insert key u)).Yields m₂ () m₃ := rfl
    refine ⟨u, m₃, (lookup_new h).bind (hName.bind (hCount.bind (hLoad.bind (hStore.bind .pure)))),
      hLoaded, hOffset, ⟨hKeeps.heap, hKeeps.frames, hKeeps.size, hKeeps.strict⟩, hKeeps.warnings,
      hKeeps.issued, (World.files_updateEngine ..).trans hFiles₂, ?_⟩
    rw [World.engine_updateEngine, hEngine₂]

/-- A template that only substitutes comes to a unit that makes its emissions, if the engine has no
unit for it. -/
theorem perform_renderSource {o : Options Value} (hTemplate : o.raw = false)
    (hOutput : o.preprocessOnly = false) {source : List Char} {segs : List Segment}
    (hSegments : segments source = .ok segs) (hSubstitutes : ∀ s ∈ segs, s.Substitutes) {seat : Seat}
    {key? : Option Identity} (h : Lacks (m.world.engine seat) key?) (fileName : List Char) :
    ∃ u m', Loaded u (segs.flatMap Segment.emissions) m' ∧ u.lineOffset = lineOffset ∧
      Installs seat key? u m m' ∧
      (renderSource calls seat o key? none source fileName).perform m =
        (do runUnit calls seat u (← newOptions o) : Work Value).perform m' := by
  obtain ⟨b, entries, hBody, hTypeset, hStands⟩ := body_of_substitutes hSegments hSubstitutes
  have hSound : ∀ e ∈ segs.flatMap Segment.emissions, e.Sound := by
    intro e he
    obtain ⟨s, -, hs⟩ := List.mem_flatMap.mp he
    exact Segment.sound_of_mem_emissions hs
  obtain ⟨hClean, row, stmts, hCalls, hParse⟩ := parse_program hTypeset hStands hSound
  have hProgram : preprocess source = .ok (preamble ++ b.written ++ epilogue) := by
    rw [preprocess, hBody]
    rfl
  let m₁ : Machine World := { m with world := { m.world with compiles := m.world.compiles + 1 } }
  have hProgramOf : (programOf o.raw source).Yields m (preamble ++ b.written ++ epilogue, lineOffset)
      m₁ := by
    rw [hTemplate]
    exact (compile_eq hProgram m).bind .pure
  -- A compilation is counted in the world, not in an engine.
  have hEngine : m₁.world.engine seat = m.world.engine seat := by
    cases seat with
    | shared => rfl
    | apart => rfl
  obtain ⟨u, m₂, hInstall, hLoaded, hOffset, hInstalls⟩ :=
    install_new (hEngine.symm ▸ h) hClean hCalls hParse fileName lineOffset
  refine ⟨u, m₂, hLoaded, hOffset, ?_, ?_⟩
  · refine ⟨⟨hInstalls.heap, hInstalls.frames, hInstalls.size, hInstalls.strict⟩, hInstalls.warnings,
      hInstalls.issued, hInstalls.files, ?_⟩
    rw [← hEngine]
    exact hInstalls.engine
  · unfold renderSource
    rw [hOutput, if_neg Bool.false_ne_true]
    exact (hProgramOf.perform_bind _).trans (hInstall.perform_bind _)

/-! ## Running -/

theorem paramsOf_keeps {o : Options Value} {a p path : Address}
    (hOptions : m.heap[a]? = some (.options o p path)) {entries : List (Value × Value)}
    (hEntries : o.params.map (fun p => (.text p.1, p.2)) = entries)
    (hDict : m.heap[p]? = some (.dict entries)) :
    ∃ q m', (paramsOf (.ref a)).Yields m (.ref q) m' ∧ m'.heap[q]? = some (.dict entries) ∧
      Keeps m m' := by
  have hObject : (object? (.ref a)).Yields m (some (.options o p path)) m := yields_object? hOptions
  let answer : Work Value :=
    if o.params.isEmpty then newObject (.dict []) else return .ref p
  by_cases hEmpty : o.params.isEmpty = true
  · obtain rfl : entries = [] := by
      rw [← hEntries, List.isEmpty_iff.mp hEmpty]
      rfl
    have hAnswer : answer.Yields m (.ref m.heap.size) (m.withObject (.dict [])) := by
      show Yields (if o.params.isEmpty = true then _ else _) _ _ _
      rw [if_pos hEmpty]
      exact yields_newObject (.dict []) m
    exact ⟨_, _, hObject.bind hAnswer, m.heap_withObject_self _, (Keeps.refl m).withObject _⟩
  · have hAnswer : answer.Yields m (.ref p) m := by
      show Yields (if o.params.isEmpty = true then _ else _) _ _ _
      rw [if_neg hEmpty]
      exact .pure
    exact ⟨_, _, hObject.bind hAnswer, hDict, Keeps.refl m⟩

section

variable {u : CompiledUnit} {o : Options Value} {values : Entries (List Char)}

/-- A unit is run with some options: the options become objects, the unit is counted, and its entry
point is called. -/
theorem perform_runUnit {es : List Emission} (h : Loaded u es m)
    (hParams : o.params = textParams values) (seat : Seat) :
    ∃ s row stmts m', Ready s row stmts ∧ List.Forall₂ IsCall es stmts ∧ s.unit = u ∧
      s.values = values ∧ Keeps m m' ∧
      s.before = { m' with world := countRunning seat (· + 1) m.world } ∧
      (do runUnit calls seat u (← newOptions o) : Work Value).perform m =
        (counted (countRunning seat) (execute calls s.unit s.options (.ref s.params))).perform m' := by
  obtain ⟨a, p, path, m₁, hOptions, hObject, hDict, hKeeps₁⟩ := newOptions_keeps o m
  obtain ⟨q, m₂, hParamsOf, hFound, hKeeps₂⟩ := paramsOf_keeps hObject rfl hDict
  have hKeeps : Keeps m m₂ := hKeeps₁.trans hKeeps₂
  obtain ⟨entry, row, stmts, hCalls, hEntry, hGlobals⟩ := h.preserved hKeeps.toPreserves
  let m₃ : Machine World := { m₂ with world := countRunning seat (· + 1) m.world }
  rw [hParams, entries_textParams] at hFound
  exact ⟨⟨m₃, u, entry, .ref a, q, values⟩, row, stmts, m₂, ⟨hGlobals, hFound, hEntry⟩, hCalls, rfl,
    rfl, hKeeps, rfl, (hOptions.perform_bind _).trans (hParamsOf.perform_bind _)⟩

/-- Whether a render has left a machine as it was, but for new objects and variables and for some
warnings about parameters. -/
structure Leaves (count : Nat) (m m' : Machine World) : Prop extends Machine.Preserves m m' where
  warnings : m'.warnings = m.warnings ++ List.replicate count askLine
  issued : m'.issued = m.issued ++ List.replicate count undefinedValue
  world : m'.world = m.world

/-- **What the unit of a template that only substitutes answers**, once it has been loaded. -/
theorem runUnit_substitutes {segs : List Segment}
    (h : Loaded u (segs.flatMap Segment.emissions) m) (hParams : o.params = textParams values)
    (hAdmits : m.strict = true → ∀ s ∈ segs, s.lacks values = false) (seat : Seat) :
    ∃ m', (do runUnit calls seat u (← newOptions o) : Work Value).Yields m
        (.text (segs.flatMap (Segment.rendered values))) m' ∧
      Leaves (segs.countP (Segment.lacks values)) m m' := by
  obtain ⟨s, row, stmts, m₁, hReady, hCalls, -, rfl, hKeeps, hBefore, hRun⟩ :=
    perform_runUnit h hParams seat
  have hThere : ∀ e ∈ segs.flatMap Segment.emissions, s.Admits (emitted? s.values e) := by
    intro e he hStrict hNone
    obtain ⟨seg, hSeg, hEmission⟩ := List.mem_flatMap.mp he
    have hLacks := Segment.lacks_iff.mpr ⟨e, hEmission, hNone⟩
    rw [hBefore] at hStrict
    rw [hAdmits (hKeeps.strict.symm.trans hStrict) seg hSeg] at hLacks
    cases hLacks
  obtain ⟨m₂, hExecute, hShows⟩ := execute_unit Render.host 996 hReady hCalls hThere rfl
  have hGrows := Output.grows_segments s.values segs ⟨[], s.before.warnings, s.before.issued⟩
  rw [hGrows.texts, hBefore, ← hKeeps.world] at hExecute
  have hPreserves : m.Preserves m₂ := by
    have hOld := hShows.old
    rw [hBefore] at hOld
    exact hKeeps.toPreserves.trans ⟨hOld.heap, hOld.frames, hOld.size, hOld.strict⟩
  refine ⟨_, hRun.trans (counted_yields hExecute),
    ⟨hPreserves.heap, hPreserves.frames, hPreserves.size, hPreserves.strict⟩, ?_, ?_, ?_⟩
  · rw [← hKeeps.warnings]
    refine (hShows.warnings.trans hGrows.warnings).trans ?_
    rw [hBefore]
  · rw [← hKeeps.issued]
    refine (hShows.issued.trans hGrows.issued).trans ?_
    rw [hBefore]
  -- The unit runs in a world in which it is counted.
  · show countRunning seat (· - 1) m₂.world = m.world
    rw [hShows.world, hBefore]
    exact countRunning_cancel seat m.world

end

end Stencil.Render
