import Stencil.Proofs.Render.Running

/-!
# Files whose units are kept

An engine that keeps the unit of a file runs it without looking at the file's text again, nor at the
options that say how to read the text. If the files are templates that only substitute, and each unit
that is kept was made from the template with its key, then nobody can tell from what renders answer
which units are kept.

* `Faithful`: what is known about the units that are kept.
* `renderFile_kept`, `renderFile_new`: the render of a file, with and without a unit for it.
* `render_files`: renders of files, one after the other, answer as with no units at all.
-/

namespace Stencil.Render

open Script Program Template Run Store

variable {m m' : Machine World}

/-! ## Units -/

/-- Whether each unit that an engine keeps was made from the template with its key. -/
def Faithful (seat : Seat) (content : Identity → Option (List Segment)) (m : Machine World) : Prop :=
  ∀ e ∈ (m.world.engine seat).units.entries,
    ∃ segs, content e.1 = some segs ∧ Loaded e.2 (segs.flatMap Segment.emissions) m

section

variable {seat : Seat} {content : Identity → Option (List Segment)} {key : Identity}
  {u : CompiledUnit} {segs : List Segment}

theorem Faithful.loaded (h : Faithful seat content m)
    (hKept : (m.world.engine seat).units.get? key = some u) (hContent : content key = some segs) :
    Loaded u (segs.flatMap Segment.emissions) m := by
  obtain ⟨segs', hSegs, hLoaded⟩ := h (key, u) (Recency.mem_of_get? hKept)
  obtain rfl : segs' = segs := Option.some.inj (hSegs.symm.trans hContent)
  exact hLoaded

/-- Units that are kept stay what they are as long as everything does. -/
theorem Faithful.preserved (h : Faithful seat content m) (hm : m.Preserves m')
    (hUnits : ∀ e ∈ (m'.world.engine seat).units.entries,
      e ∈ (m.world.engine seat).units.entries) : Faithful seat content m' := by
  intro e he
  obtain ⟨segs, hSegs, hLoaded⟩ := h e (hUnits e he)
  exact ⟨segs, hSegs, hLoaded.preserved hm⟩

theorem Faithful.installs (h : Faithful seat content m) (hm : Installs seat (some key) u m m')
    (hContent : content key = some segs) (hLoaded : Loaded u (segs.flatMap Segment.emissions) m') :
    Faithful seat content m' := by
  intro e he
  rw [hm.engine] at he
  rcases Recency.mem_entries_insert he with rfl | hOld
  · exact ⟨segs, hContent, hLoaded⟩
  · obtain ⟨segs', hSegs, hOther⟩ := h e hOld
    exact ⟨segs', hSegs, hOther.preserved hm.toPreserves⟩

/-- The world in which the unit of a key has been used. -/
def World.touch (seat : Seat) (key : Identity) (w : World) : World :=
  w.updateEngine seat fun e => { e with units := e.units.touch key }

theorem Faithful.touched (h : Faithful seat content m) :
    Faithful seat content { m with world := m.world.touch seat key } := by
  refine h.preserved ⟨fun _ _ hb => hb, fun _ _ _ => rfl, Nat.le_refl _, rfl⟩ fun e he => ?_
  rw [World.touch, World.engine_updateEngine] at he
  exact Recency.mem_entries_touch he

theorem lookup_kept {es : List Emission} (hKept : (m.world.engine seat).units.get? key = some u)
    (hLoaded : Loaded u es m) :
    (lookup seat (some key)).Yields m (some u) { m with world := m.world.touch seat key } := by
  have hEngine : (engineAt seat).Yields m (m.world.engine seat) m := rfl
  refine hEngine.bind ?_
  rw [hKept]
  exact hLoaded.isCompiled.bind ((yields_updateWorld _ m).bind .pure)

end

/-! ## Files -/

/-- Whether a machine differs from another at most by new objects and variables, by warnings, and in
its world by what has been counted and by units that an engine keeps. -/
structure Continues (seat : Seat) (m m' : Machine World) : Prop extends Machine.Preserves m m' where
  files : m'.world.files = m.world.files
  defaults : (m'.world.engine seat).defaults = (m.world.engine seat).defaults

theorem Continues.trans {seat : Seat} {m'' : Machine World} (h : Continues seat m m')
    (h' : Continues seat m' m'') : Continues seat m m'' :=
  ⟨h.toPreserves.trans h'.toPreserves, h'.files.trans h.files, h'.defaults.trans h.defaults⟩

section

variable {seat : Seat} {content : Identity → Option (List Segment)} {key : Identity}
  {segs : List Segment} {o : Options Value} {name : List Char} {values : Entries (List Char)}
  {source : Source}

/-- **A unit that is kept is run as it is**: the render looks neither at the text of the file nor at
the options that say how to read it. -/
theorem renderFile_kept (hOpen : openSource m.world.files name o.path = .ok source)
    (hKey : source.identity? = some key) {u : CompiledUnit}
    (hKept : (m.world.engine seat).units.get? key = some u)
    (hLoaded : Loaded u (segs.flatMap Segment.emissions) m) (hOutput : o.preprocessOnly = false)
    (hParams : o.params = textParams values)
    (hAdmits : m.strict = true → ∀ s ∈ segs, s.lacks values = false) :
    ∃ m', (renderFile calls seat o name).Yields m (.text (segs.flatMap (Segment.rendered values))) m' ∧
      Leaves (segs.countP (Segment.lacks values)) { m with world := m.world.touch seat key } m' := by
  let m₁ : Machine World := { m with world := m.world.touch seat key }
  obtain ⟨m₂, hRun, hLeaves⟩ := runUnit_substitutes (m := m₁) hLoaded hParams hAdmits seat
  have hWorld : (Run.world : Work World).Yields m m.world m := rfl
  have hSource : (unsettle (openSource m.world.files name o.path) : Work Source).Yields m source m := by
    rw [hOpen]
    exact .pure
  have hLookup : (lookup seat source.identity?).Yields m (some u) m₁ := by
    rw [hKey]
    exact lookup_kept hKept hLoaded
  have hRender : (renderSource calls seat o source.identity? (some u) [] source.path.written).Yields
      m₁ (.text (segs.flatMap (Segment.rendered values))) m₂ := by
    unfold renderSource
    rw [hOutput, if_neg Bool.false_ne_true]
    exact Yields.pure.bind hRun
  refine ⟨m₂, hWorld.bind (hSource.bind (hLookup.bind ?_)), hLeaves⟩
  rw [hOutput]
  exact Yields.pure.bind hRender.tryCatch

/-- A file without a unit is read, and its unit is kept. -/
theorem renderFile_new (hOpen : openSource m.world.files name o.path = .ok source)
    (hKey : source.identity? = some key)
    (hNew : (m.world.engine seat).units.get? key = none) {text : List Char}
    (hText : source.text o.encoding = .ok text) (hSegments : segments text = .ok segs)
    (hSubstitutes : ∀ s ∈ segs, s.Substitutes) (hTemplate : o.raw = false)
    (hOutput : o.preprocessOnly = false) (hParams : o.params = textParams values)
    (hAdmits : m.strict = true → ∀ s ∈ segs, s.lacks values = false) :
    ∃ u m₁ m', (renderFile calls seat o name).Yields m
        (.text (segs.flatMap (Segment.rendered values))) m' ∧
      Loaded u (segs.flatMap Segment.emissions) m₁ ∧ Installs seat (some key) u m m₁ ∧
      Leaves (segs.countP (Segment.lacks values)) m₁ m' := by
  have hLacks : Lacks (m.world.engine seat) (some key) := by
    rintro _ ⟨⟩
    exact hNew
  obtain ⟨u, m₁, hLoaded, -, hInstalls, hPerform⟩ := perform_renderSource hTemplate hOutput hSegments
    hSubstitutes hLacks source.path.written
  obtain ⟨m₂, hRun, hLeaves⟩ := runUnit_substitutes hLoaded hParams
    (fun hStrict => hAdmits (hInstalls.strict.symm.trans hStrict)) seat
  have hWorld : (Run.world : Work World).Yields m m.world m := rfl
  have hSource : (unsettle (openSource m.world.files name o.path) : Work Source).Yields m source m := by
    rw [hOpen]
    exact .pure
  have hLookup : (lookup seat source.identity?).Yields m none m := by
    rw [hKey]
    exact lookup_new hLacks
  have hRead : (unsettle (source.text o.encoding) : Work (List Char)).Yields m text m := by
    rw [hText]
    exact .pure
  have hRender : (renderSource calls seat o source.identity? none text source.path.written).Yields
      m (.text (segs.flatMap (Segment.rendered values))) m₂ := by
    rw [hKey]
    exact hPerform.trans hRun
  exact ⟨u, m₁, m₂, hWorld.bind (hSource.bind (hLookup.bind (hRead.bind hRender.tryCatch))), hLoaded,
    hInstalls, hLeaves⟩

end

/-! ## Renders of files -/

/-- A render of a file with parameters that are texts. -/
structure FileRender where
  name : List Char
  params : Address
  values : Entries (List Char)
  /-- What the file is known by. -/
  key : Identity
  /-- The segments of the file. -/
  segs : List Segment

/-- What a render of a file answers if its template only substitutes. -/
def FileRender.answer (r : FileRender) : Value :=
  .text (r.segs.flatMap (Segment.rendered r.values))

/-- Renders a file with an engine. -/
def FileRender.perform (seat : Seat) (r : FileRender) : Work Value :=
  render calls seat .none (fileOptions r.name r.params)

/-- Whether the file of a render is the template that it is said to be, and the template only
substitutes. The file is looked for and read as the defaults of the engine say. -/
structure FileRender.Fits (seat : Seat) (content : Identity → Option (List Segment))
    (m : Machine World) (r : FileRender) : Prop where
  params : m.heap[r.params]? = some (.dict (textEntries r.values))
  names : r.values.names.Nodup
  file : ∃ source text,
    openSource m.world.files r.name (currentDirectory :: (m.world.engine seat).defaults.path) =
      .ok source ∧
    source.identity? = some r.key ∧
    source.text (m.world.engine seat).defaults.encoding = .ok text ∧
    segments text = .ok r.segs
  content : content r.key = some r.segs
  substitutes : ∀ s ∈ r.segs, s.Substitutes
  admits : m.strict = true → ∀ s ∈ r.segs, s.lacks r.values = false

section

variable {seat : Seat} {content : Identity → Option (List Segment)}

theorem FileRender.Fits.continues {r : FileRender} (h : r.Fits seat content m)
    (hm : Continues seat m m') : r.Fits seat content m' where
  params := hm.heap _ _ h.params
  names := h.names
  file := by
    rw [hm.files, hm.defaults]
    exact h.file
  content := h.content
  substitutes := h.substitutes
  admits hStrict := h.admits (hm.strict.symm.trans hStrict)

/-- A render of a file answers what its template and the parameters say, whichever units are kept,
and what is known about them stays true. -/
theorem render_file (hFaithful : Faithful seat content m)
    (hDefaults : Modest (m.world.engine seat).defaults) {r : FileRender}
    (h : r.Fits seat content m) :
    ∃ m', (r.perform seat).Yields m r.answer m' ∧ Faithful seat content m' ∧ Continues seat m m' := by
  obtain ⟨given, o, hGiven, hMerged, hNames⟩ := names_of_file hDefaults h.params h.names r.name
  obtain ⟨source, text, hOpen, hKey, hText, hSegments⟩ := h.file
  rw [← hNames.path] at hOpen
  rw [← hNames.encoding] at hText
  have hRender : ∀ {m'}, (renderFile calls seat o r.name).Yields m r.answer m' →
      (r.perform seat).Yields m r.answer m' := by
    intro m' hRun
    refine hGiven.bind (hMerged.bind ?_)
    unfold renderMerged
    rw [hNames.noText, hNames.file]
    exact hRun
  -- A unit that is kept was made from this very template, so it answers like a new one.
  cases hKept : (m.world.engine seat).units.get? r.key with
  | some u =>
    obtain ⟨m', hRun, hLeaves⟩ := renderFile_kept hOpen hKey hKept (hFaithful.loaded hKept h.content)
      hNames.output hNames.params h.admits
    refine ⟨m', hRender hRun, ?_, ⟨hLeaves.heap, hLeaves.frames, hLeaves.size, hLeaves.strict⟩, ?_, ?_⟩
    · refine hFaithful.touched.preserved hLeaves.toPreserves fun e he => ?_
      rw [← hLeaves.world]
      exact he
    · rw [hLeaves.world]
      exact World.files_updateEngine ..
    · rw [hLeaves.world]
      show ((World.updateEngine ..).engine seat).defaults = _
      rw [World.engine_updateEngine]
  | none =>
    obtain ⟨u, m₁, m', hRun, hLoaded, hInstalls, hLeaves⟩ := renderFile_new hOpen hKey hKept hText
      hSegments h.substitutes hNames.template hNames.output hNames.params h.admits
    refine ⟨m', hRender hRun, ?_, hInstalls.toPreserves.trans hLeaves.toPreserves, ?_, ?_⟩
    · refine (hFaithful.installs hInstalls h.content hLoaded).preserved hLeaves.toPreserves
        fun e he => ?_
      rw [← hLeaves.world]
      exact he
    · rw [hLeaves.world]
      exact hInstalls.files
    · rw [hLeaves.world, hInstalls.engine]

/-- Renders of files, one after the other, answer what the templates and the parameters say. -/
theorem render_files (hFaithful : Faithful seat content m)
    (hDefaults : Modest (m.world.engine seat).defaults) {rs : List FileRender}
    (h : ∀ r ∈ rs, r.Fits seat content m) :
    ∃ m', (rs.mapM (FileRender.perform seat)).Yields m (rs.map FileRender.answer) m' ∧
      Faithful seat content m' ∧ Continues seat m m' := by
  induction rs generalizing m with
  | nil =>
    exact ⟨m, .pure, hFaithful, Machine.Preserves.refl m, rfl, rfl⟩
  | cons r rs ih =>
    obtain ⟨m₁, hFirst, hFaithful₁, hContinues⟩ := render_file hFaithful hDefaults (h r List.mem_cons_self)
    have hDefaults₁ : Modest (m₁.world.engine seat).defaults := by
      rw [hContinues.defaults]
      exact hDefaults
    obtain ⟨m₂, hRest, hFaithful₂, hContinues₂⟩ := ih hFaithful₁ hDefaults₁ fun r' hr =>
      (h r' (List.mem_cons_of_mem r hr)).continues hContinues
    refine ⟨m₂, ?_, hFaithful₂, hContinues.trans hContinues₂⟩
    rw [List.mapM_cons]
    exact hFirst.bind (hRest.bind .pure)

/-- A machine whose engine has forgotten its units. -/
def withoutUnits (seat : Seat) (m : Machine World) : Machine World :=
  { m with world := m.world.updateEngine seat fun e => { e with units := e.units.clear } }

/-- **The units that an engine keeps cannot be told from what its renders answer**, if they were made
from the templates with their keys and the templates only substitute. -/
theorem render_files_without_units (hFaithful : Faithful seat content m)
    (hDefaults : Modest (m.world.engine seat).defaults) {rs : List FileRender}
    (h : ∀ r ∈ rs, r.Fits seat content m) :
    ∃ answers m₁ m₂, (rs.mapM (FileRender.perform seat)).Yields m answers m₁ ∧
      (rs.mapM (FileRender.perform seat)).Yields (withoutUnits seat m) answers m₂ := by
  -- The answers are those of `render_files` in both runs, which does not mention the units.
  have hEngine : (withoutUnits seat m).world.engine seat =
      { m.world.engine seat with units := (m.world.engine seat).units.clear } :=
    World.engine_updateEngine ..
  have hContinues : Continues seat m (withoutUnits seat m) := by
    refine ⟨⟨fun _ _ hb => hb, fun _ _ _ => rfl, Nat.le_refl _, rfl⟩, World.files_updateEngine .., ?_⟩
    rw [hEngine]
  have hNoUnits : Faithful seat content (withoutUnits seat m) := by
    intro e he
    rw [hEngine] at he
    cases he
  obtain ⟨m₁, hRun₁, -⟩ := render_files hFaithful hDefaults h
  obtain ⟨m₂, hRun₂, -⟩ := render_files hNoUnits (hContinues.defaults ▸ hDefaults) fun r hr =>
    (h r hr).continues hContinues
  exact ⟨_, m₁, m₂, hRun₁, hRun₂⟩

end

end Stencil.Render
