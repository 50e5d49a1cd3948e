import Stencil.Proofs.Render.Running
import Stencil.Proofs.Script.SparingCalls
import Stencil.Proofs.Store.LastUse

/-!
# What renders leave of their world

A render runs scripts, which may render other templates, and so on. However deep this goes and
however it ends, the world is left as it was but for three things: an engine in use keeps other
units, the engine in charge may have got other defaults, and the counters have gone on. In
particular the count of running units is what it was before.

* `World.Serves`: what the world before a render has to do with the world after it.
* `spares_render`, `spares_calls`: renders, and all calls that scripts make, spare the world.
* `render_depth`, `call_depth`: counts of running units are restored.
* `call_spares`: what a script holds survives the calls that it makes.
-/

namespace Stencil.Render

open Script Script.Run Store

structure Engine.Serves (e e' : Engine) : Prop where
  depth : e'.depth = e.depth
  units : e.units.Uses e'.units

/-- Whether a world is one after another but for what the engines in use do. -/
structure World.Serves (used : Seat → Prop) (w w' : World) : Prop where
  files : w'.files = w.files
  engine : ∀ seat, (w.engine seat).Serves (w'.engine seat)
  unused : ∀ seat, ¬ used seat → w'.engine seat = w.engine seat
  fresh : w.fresh ≤ w'.fresh
  loads : w.loads ≤ w'.loads
  compiles : w.compiles ≤ w'.compiles

/-- A relation of worlds that holds when a counter goes on. -/
class World.Counting (S : World → World → Prop) : Prop extends IsPreorder World S where
  fresh : ∀ w : World, S w { w with fresh := w.fresh + 1 }
  loads : ∀ w : World, S w { w with loads := w.loads + 1 }
  compiles : ∀ w : World, S w { w with compiles := w.compiles + 1 }

/-- Whether a relation of worlds lets an engine be used: its store is, and it runs units. -/
structure World.Using (S : World → World → Prop) (seat : Seat) : Prop where
  units : ∀ {change : UnitStore → UnitStore}, (∀ units, Recency.Use units (change units)) →
    ∀ w : World, S w (w.updateEngine seat fun e => { e with units := change e.units })
  running : ∀ {w w' : World}, S (countRunning seat (· + 1) w) w' →
    S w (countRunning seat (· - 1) w')

variable {used : Seat → Prop} {seat : Seat} {mark : Mark} {p : Prop} {fs : List Fault}

theorem Engine.Serves.refl (e : Engine) : e.Serves e := ⟨rfl, .refl⟩

theorem Engine.Serves.trans {e e' e'' : Engine} (h : e.Serves e') (h' : e'.Serves e'') :
    e.Serves e'' := ⟨h'.depth.trans h.depth, h.units.trans h'.units⟩

instance World.counting_serves (used : Seat → Prop) : Counting (Serves used) where
  refl w := ⟨rfl, fun seat => .refl _, fun _ _ => rfl, Nat.le_refl _, Nat.le_refl _, Nat.le_refl _⟩
  trans w w' w'' h h' := by
    constructor
    case files => exact h'.files.trans h.files
    case engine => exact fun seat => (h.engine seat).trans (h'.engine seat)
    case unused => exact fun seat hUnused => (h'.unused seat hUnused).trans (h.unused seat hUnused)
    case fresh => exact Nat.le_trans h.fresh h'.fresh
    case loads => exact Nat.le_trans h.loads h'.loads
    case compiles => exact Nat.le_trans h.compiles h'.compiles
  fresh w := ⟨rfl, fun seat => by cases seat <;> exact .refl _, fun seat _ => by cases seat <;> rfl,
    Nat.le_succ _, Nat.le_refl _, Nat.le_refl _⟩
  loads w := ⟨rfl, fun seat => by cases seat <;> exact .refl _, fun seat _ => by cases seat <;> rfl,
    Nat.le_refl _, Nat.le_succ _, Nat.le_refl _⟩
  compiles w := ⟨rfl, fun seat => by cases seat <;> exact .refl _,
    fun seat _ => by cases seat <;> rfl, Nat.le_refl _, Nat.le_refl _, Nat.le_succ _⟩

/-! ## Changes of the world -/

theorem World.engine_updateEngine_of_ne {other : Seat} (h : other ≠ seat)
    (change : Engine → Engine) (w : World) :
    (w.updateEngine seat change).engine other = w.engine other := by
  cases seat <;> cases other <;> first | rfl | exact absurd rfl h

/-- An engine in use may be changed as a render changes it. -/
theorem World.serves_updateEngine (hUsed : used seat) {change : Engine → Engine}
    (h : ∀ e : Engine, e.Serves (change e)) (w : World) :
    w.Serves used (w.updateEngine seat change) := by
  constructor
  case files => exact w.files_updateEngine seat change
  case engine =>
    intro other
    by_cases hOther : other = seat
    · rw [hOther, World.engine_updateEngine]
      exact h _
    · rw [engine_updateEngine_of_ne hOther]
      exact .refl _
  case unused =>
    intro other hUnused
    refine engine_updateEngine_of_ne ?_ change w
    rintro rfl
    exact hUnused hUsed
  all_goals cases seat <;> exact Nat.le_refl _

/-- While a unit runs it is counted, and only then. -/
theorem World.serves_of_counted (hUsed : used seat) {w w' : World}
    (h : (countRunning seat (· + 1) w).Serves used w') :
    w.Serves used (countRunning seat (· - 1) w') := by
  constructor
  case files =>
    rw [countRunning, World.files_updateEngine]
    exact h.files.trans (World.files_updateEngine seat _ w)
  case engine =>
    intro other
    have hOther := h.engine other
    by_cases hSeat : other = seat
    · subst hSeat
      rw [countRunning, World.engine_updateEngine] at hOther ⊢
      refine ⟨?_, hOther.units⟩
      show (w'.engine other).depth - 1 = (w.engine other).depth
      rw [hOther.depth]
      rfl
    · rw [countRunning, World.engine_updateEngine_of_ne hSeat] at hOther ⊢
      exact hOther
  case unused =>
    intro other hUnused
    have hSeat : other ≠ seat := by
      rintro rfl
      exact hUnused hUsed
    have hOther := h.unused other hUnused
    rw [countRunning, World.engine_updateEngine_of_ne hSeat] at hOther ⊢
    exact hOther
  case fresh => cases seat <;> exact h.fresh
  case loads => cases seat <;> exact h.loads
  case compiles => cases seat <;> exact h.compiles

theorem World.using_serves (hUsed : used seat) : Using (Serves used) seat where
  units {change} h w := by
    have hEngine (e : Engine) : e.Serves { e with units := change e.units } :=
      ⟨rfl, .single (h e.units)⟩
    exact serves_updateEngine hUsed hEngine w
  running := serves_of_counted hUsed

variable {S : World → World → Prop}

theorem spares_updateWorld [IsPreorder World S] {change : World → World}
    (h : ∀ w : World, S w (change w)) : (updateWorld change).Spares S mark p fs := by
  intro m _
  refine .of_yields (yields_updateWorld change m) ?_
  exact { Machine.Grows.refl (S := S) mark p m with world := h m.world }

theorem spares_engineAt [IsPreorder World S] (seat : Seat) :
    (engineAt seat).Spares S mark p fs := spares_world.bind fun _ => spares_pure _

variable [World.Counting S]

theorem spares_updateUnits (hUsed : World.Using S seat) {change : UnitStore → UnitStore}
    (h : ∀ units : UnitStore, Recency.Use units (change units)) :
    (updateUnits seat change).Spares S mark p fs := spares_updateWorld (hUsed.units h)

/-! ## Units -/

theorem spares_lookup (hUsed : World.Using S seat) (key? : Option Identity) :
    (lookup seat key?).Spares S mark p fs := by
  unfold lookup
  split
  · exact spares_pure _
  · refine (spares_engineAt seat).bind fun e => ?_
    split
    · exact spares_pure _
    · refine (spares_isCompiled _).bind fun _ => ?_
      refine .ite ?_ (spares_pure _)
      exact (spares_updateUnits hUsed fun units => .touch units _).bind fun _ => spares_pure _

theorem spares_newNamespaceId (key? : Option Identity) :
    (newNamespaceId key?).Spares S mark p fs := by
  unfold newNamespaceId
  split
  · exact spares_pure _
  · refine spares_world.bind fun w => ?_
    exact (spares_updateWorld World.Counting.fresh).bind fun _ => spares_pure _

variable {call : Caller World}

theorem spares_install (hUsed : World.Using S seat) (hCall : call.Spares S mark p)
    (key? : Option Identity) (program fileName : List Char) (lineOffset : Int) :
    (install call seat key? program fileName lineOffset).Spares S mark p fs := by
  unfold install
  refine (spares_lookup hUsed key?).bind fun unit? => ?_
  split
  · exact spares_pure _
  · refine (spares_newNamespaceId key?).bind fun namespaceId => ?_
    refine (spares_updateWorld World.Counting.loads).bind fun _ => ?_
    refine (spares_load hCall namespaceId program fileName lineOffset).bind fun unit => ?_
    split
    · exact (spares_updateUnits hUsed fun units => .insert units _ unit).bind fun _ => spares_pure _
    · exact spares_pure _

/-! ## Renders -/

theorem object?_addPrefix (name : List Char) (f : Fault) :
    (f.addPrefix name).object? = f.object? := by
  unfold Fault.addPrefix
  split <;> rfl

theorem object?_openSource {files : Files.Tree} {name : List Char} {directories : List (List Char)}
    {f : Fault} (h : openSource files name directories = .error f) : f.object? = none := by
  unfold openSource at h
  split at h
  case h_1 fault _ =>
    cases h
    cases fault <;> rfl
  case h_2 =>
    split at h
    case h_1 fault _ =>
      cases h
      cases fault <;> rfl
    case h_2 => cases h

theorem object?_text {source : Source} {encoding : List Char} {f : Fault}
    (h : source.text encoding = .error f) : f.object? = none := by
  unfold Source.text at h
  cases hDecode : Text.decode encoding source.bytes with
  | ok text =>
    rw [hDecode] at h
    cases h
  | error fault =>
    rw [hDecode] at h
    cases h
    cases fault <;> rfl

/-- An exception that is no object is a new one, so that it need not be at hand. -/
theorem spares_unsettle_new {α : Type} {outcome : Except Fault α}
    (h : ∀ f, outcome = .error f → f.object? = none) :
    (unsettle outcome : Work α).Spares S mark p fs := by
  cases outcome with
  | ok a => exact spares_pure a
  | error f =>
    refine spares_fail fun a ha => ?_
    rw [h f rfl] at ha
    cases ha

theorem spares_compile (text : List Char) :
    (compile text).Spares S mark p fs := by
  unfold compile
  refine (spares_updateWorld World.Counting.compiles).bind fun _ => ?_
  refine spares_unsettle_new fun f hf => ?_
  cases hProgram : Program.preprocess text with
  | ok program =>
    rw [hProgram] at hf
    cases hf
  | error e =>
    rw [hProgram] at hf
    cases hf
    rfl

theorem spares_programOf (raw : Bool) (text : List Char) :
    (programOf raw text).Spares S mark p fs := by
  unfold programOf
  exact .ite (spares_pure _) ((spares_compile text).bind fun _ => spares_pure _)

theorem spares_paramsOf (options : Value) :
    (paramsOf options).Spares S mark p fs := by
  unfold paramsOf
  refine (spares_object? options).bind fun o => ?_
  split
  · exact .ite (.newObject _) (spares_pure _)
  · exact .newObject _

theorem spares_runUnit (hUsed : World.Using S seat) (hCall : call.Spares S mark p)
    (unit : CompiledUnit) (options : Value) :
    (runUnit call seat unit options).Spares S mark p fs := by
  unfold runUnit
  refine (spares_paramsOf options).bind fun params => ?_
  exact spares_counted (fun _ _ => hUsed.running)
    (spares_execute hCall unit options params)

theorem spares_renderSource (hUsed : World.Using S seat) (hCall : call.Spares S mark p)
    (o : Options Value) (key? : Option Identity) (kept? : Option CompiledUnit)
    (text fileName : List Char) :
    (renderSource call seat o key? kept? text fileName).Spares S mark p fs := by
  have hRun (unit : CompiledUnit) : (do runUnit call seat unit (← newOptions o) : Work Value).Spares
      S mark p fs :=
    (spares_newOptions o).bind fun options => spares_runUnit hUsed hCall unit options
  unfold renderSource
  refine .ite ((spares_compile text).bind fun _ => spares_pure _) ?_
  split
  · exact hRun _
  · refine (spares_programOf o.raw text).bind fun q => ?_
    exact (spares_install hUsed hCall key? q.1 fileName q.2).bind hRun

theorem spares_withName {α : Type} (name : List Char) {r : Work α}
    (h : r.Spares S mark p fs) :
    (withName name r).Spares S mark p fs := by
  refine h.tryCatch fun f => ?_
  refine .keep_bind (fun a ha => ⟨f, List.mem_cons_self, ?_⟩) fun g =>
    spares_fail_mem List.mem_cons_self
  rw [← ha]
  split
  · exact (object?_addPrefix name f).symm
  · rfl

theorem spares_renderFile (hUsed : World.Using S seat) (hCall : call.Spares S mark p)
    (o : Options Value) (name : List Char) :
    (renderFile call seat o name).Spares S mark p fs := by
  unfold renderFile
  refine spares_world.bind fun w => ?_
  refine (spares_unsettle_new fun f => object?_openSource).bind fun source => ?_
  refine (spares_lookup hUsed source.identity?).bind fun kept? => ?_
  have hRender (text : List Char) :
      (withName name (renderSource call seat o source.identity? kept? text
        source.path.written)).Spares S mark p fs :=
    spares_withName name (spares_renderSource hUsed hCall o _ kept? text _)
  split
  · exact (spares_unsettle_new fun f => object?_text).bind hRender
  · exact hRender []

theorem spares_renderMerged (hUsed : World.Using S seat) (hCall : call.Spares S mark p)
    (o : Options Value) :
    (renderMerged call seat o).Spares S mark p fs := by
  unfold renderMerged
  split
  · exact spares_renderSource hUsed hCall o none none _ textFileName
  · exact spares_renderFile hUsed hCall o _
  · exact spares_fail_new _ _

/-! ## Options of a render -/

theorem spares_pairEntries (pairs : List Value) :
    (pairEntries pairs).Spares S mark p fs := by
  unfold pairEntries
  refine .foldlM (fun entries q => ?_) _ _
  refine (spares_items? q.1).bind fun items? => ?_
  split
  · exact spares_addEntry _ _ _
  · exact spares_raise _ _
  · exact spares_typeError _

theorem spares_mappingOf (v : Value) :
    (mappingOf v).Spares S mark p fs := by
  unfold mappingOf
  refine (spares_object? v).bind fun o => ?_
  split
  · exact spares_pure _
  · refine (spares_items? v).bind fun items? => ?_
    split
    · exact spares_pairEntries _
    · exact (spares_typeOf v).bind fun _ => spares_typeError _

theorem spares_copyOptions (o : Options Value) :
    (copyOptions o).Spares S mark p fs := by
  have hExtras (params? : Option (Entries Value)) :
      (do return { o with params?, extras := ← copyAll o.extras } : Work (Options Value)).Spares
        S mark p fs := (spares_copyAll o.extras).bind fun _ => spares_pure _
  unfold copyOptions
  split
  · exact (spares_copyAll _).bind fun _ => hExtras _
  · exact hExtras none

theorem spares_givenOptions (options : Value) (overrides : Entries Value) :
    (givenOptions options overrides).Spares S mark p fs := by
  unfold givenOptions
  refine (spares_object? options).bind fun o => ?_
  dsimp only
  split
  case' h_2 => refine (spares_copyOptions _).bind fun _ => ?_
  case' h_3 => refine (spares_mappingOf options).bind fun _ => ?_
  -- Whatever is given, it is checked, and is taken or refused.
  all_goals
    rw [pure_bind]
    refine spares_heap.bind fun heap => ?_
    split
    · exact spares_pure _
    · exact spares_fail_new _ _

theorem spares_mergeDefaults (seat : Seat) (o : Options Value) :
    (mergeDefaults seat o).Spares S mark p fs := by
  unfold mergeDefaults
  exact (spares_copyAll o.extras).bind fun _ => (spares_engineAt seat).bind fun _ =>
    spares_heap.bind fun _ => spares_pure _

theorem spares_render (hUsed : World.Using S seat) (hCall : call.Spares S mark p)
    (options : Value) (overrides : Entries Value) :
    (render call seat options overrides).Spares S mark p fs :=
  (spares_givenOptions options overrides).bind fun o => (spares_mergeDefaults seat o).bind fun o =>
    spares_renderMerged hUsed hCall o

/-- Other defaults may be given to the engine in charge. -/
theorem spares_setDefaults (h : ∀ (w : World) defaults,
    S w (w.updateEngine .shared fun e => { e with defaults })) (options : Value) :
    (setDefaults options).Spares S mark p fs :=
  (spares_givenOptions options []).bind fun _ => spares_updateWorld fun w => h w _

/-! ## Calls of scripts -/

theorem spares_renderCommand (hUsed : World.Using S .shared) (q : Parameters)
    (hCall : call.Spares S mark p) (args : Args) :
    (renderCommand q call args).Spares S mark p fs :=
  (q.spares_bind _).bind fun _ => spares_render hUsed hCall _ _

theorem spares_clearCommand (hUsed : World.Using S .shared) (args : Args) :
    (clearCommand args).Spares S mark p fs :=
  (Parameters.spares_bind _ args).bind fun _ => (spares_updateUnits hUsed .clear).bind fun _ =>
    spares_pure _

theorem host_spares (hUsed : used .shared) : host.Spares (World.Serves used) mark p where
  render q _ hCall _ := spares_renderCommand (World.using_serves hUsed) q hCall _
  setDefaults _ := by
    have hSet (w : World) (defaults : Options Value) :
        w.Serves used (w.updateEngine .shared fun e => { e with defaults }) := by
      have hEngine (e : Engine) : e.Serves { e with defaults } := ⟨rfl, .refl⟩
      exact World.serves_updateEngine hUsed hEngine w
    exact (Parameters.spares_bind _ _).bind fun _ => (spares_setDefaults hSet _).bind fun _ =>
      spares_pure _
  clear := spares_clearCommand (World.using_serves hUsed)

theorem spares_calls (hUsed : used .shared) : calls.Spares (World.Serves used) mark p :=
  (host_spares hUsed).callAt callDepth

/-! ## What is left by a render and by a call -/

variable {m : Machine World}

/-- Every machine came after the mark before all. -/
theorem fits_origin (fs : List Fault) (m : Machine World) : m.Fits ⟨0, 0⟩ False fs :=
  ⟨Nat.zero_le _, Nat.zero_le _, nofun⟩

theorem serves_render (seat : Seat) (options : Value) (overrides : Entries Value)
    (m : Machine World) :
    m.world.Serves (fun s => s = .shared ∨ s = seat)
      ((render calls seat options overrides).perform m).2.world := by
  have hRender : (render calls seat options overrides).Spares
      (World.Serves fun s => s = .shared ∨ s = seat) ⟨0, 0⟩ False [] :=
    spares_render (World.using_serves (.inr rfl)) (spares_calls (.inl rfl)) options overrides
  exact (hRender m (fits_origin [] m)).machine.world

/-- The count of running units is after every render what it was before, whether the render returns
or raises. -/
theorem render_depth (seat other : Seat) (options : Value) (overrides : Entries Value)
    (m : Machine World) :
    (((render calls seat options overrides).perform m).2.world.engine other).depth =
      (m.world.engine other).depth :=
  ((serves_render seat options overrides m).engine other).depth

/-- A call that a script makes leaves all that was there as it was, but for items of lists and traces
of exceptions: the variables of every function that is running or has run, its options and its
parameters among them. The engine beside the one in charge has not noticed it. -/
theorem call_spares (hHandling : ∀ f ∈ m.handling, f.IsObject m.heap) (v : Value) (args : Args)
    (lines : List Nat) :
    m.Grows (World.Serves (· = .shared)) m.mark True ((calls v args lines).perform m).2 := by
  have hCalls : calls.Spares (World.Serves (· = .shared)) m.mark True := spares_calls rfl
  refine (hCalls v args lines m ⟨Nat.le_refl _, Nat.le_refl _, ?_⟩).machine
  intro _ f hf
  exact hHandling f (by simpa using hf)

theorem call_depth (v : Value) (args : Args) (lines : List Nat) (seat : Seat)
    (m : Machine World) :
    (((calls v args lines).perform m).2.world.engine seat).depth =
      (m.world.engine seat).depth := by
  have hCalls : calls.Spares (World.Serves (· = .shared)) ⟨0, 0⟩ False := spares_calls rfl
  exact ((hCalls v args lines m (fits_origin [] m)).machine.world.engine seat).depth

end Stencil.Render
