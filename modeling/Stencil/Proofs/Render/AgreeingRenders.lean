import Stencil.Proofs.Render.Making
import Stencil.Proofs.Render.StoreHistory
import Stencil.Proofs.Script.AgreeingCalls

/-!
# Renders that agree

If two makers agree, then so do all renders with the one maker or the other, and if what is done for
scripts that ask for an emptied store agrees too, then so does all that happens to engines. A maker
is only asked for a unit if a look-up has not found one.

* `RenderUpheld`: a condition that whatever renders do keeps, but for what makers do and for stores
  that are emptied.
* `agrees_renderBy`, `agrees_performAll`: renders agree if the makers do, and all that is done agrees
  if the means do.
* `agrees_makeUnit`: what a condition has to say for the units that are made from programs.
* `agrees_unless`: makers that leave some units to another.
* `neverMakes_of_unspoilt`: whether units of some kind are made can be found out by one run.
-/

namespace Stencil.Render

open Script Script.Run Store

/-- Whether a world is one in whose place another has come that has the same units and in which no
fewer names were given. -/
structure World.Turns (w w' : World) : Prop where
  units : ∀ seat, (w'.engine seat).units = (w.engine seat).units
  fresh : w.fresh ≤ w'.fresh

/-- A condition that whatever renders do keeps, but for what makers do and for stores that are
emptied. -/
structure RenderUpheld (I : List Address → Machine World → Prop) : Prop extends
    Upheld (World.Serves fun _ => False) I where
  turns : ∀ {G m} (w : World), m.world.Turns w → I G m → I G { m with world := w }
  touches : ∀ {G m} (seat : Seat) (key : Identity), I G m →
    I G { m with world := m.world.touch seat key }

/-- What is kept by itself is kept together. -/
theorem RenderUpheld.and {I J : List Address → Machine World → Prop} (hI : RenderUpheld I)
    (hJ : RenderUpheld J) : RenderUpheld fun G m => I G m ∧ J G m where
  grows h hGrows := ⟨hI.grows h.1 hGrows, hJ.grows h.2 hGrows⟩
  handling fs h := ⟨hI.handling fs h.1, hJ.handling fs h.2⟩
  opens f h := ⟨hI.opens f h.1, hJ.opens f h.2⟩
  closes h := ⟨hI.closes h.1, hJ.closes h.2⟩
  assigns change ha h := ⟨hI.assigns change ha h.1, hJ.assigns change ha h.2⟩
  turns w hTurns h := ⟨hI.turns w hTurns h.1, hJ.turns w hTurns h.2⟩
  touches seat key h := ⟨hI.touches seat key h.1, hJ.touches seat key h.2⟩

/-- Whether two makers agree where a look-up has found nothing, if the calls of scripts do. -/
structure Maker.Agrees (I : List Address → Machine World → Prop) (b : Bool) (make make' : Maker) :
    Prop where
  sound : ∀ {call call' : Caller World} {G job m}, call.Agrees I b call' → I G m →
    (lookup job.seat job.key?).Yields m none m →
    (make call job).AgreesAt (I G) b (make' call' job) m
  spoilt : ∀ {call call' : Caller World} job, call.Agrees I b call' →
    (make' call' job).StaysSpoilt b

/-- Whether the means of engines agree. -/
structure Means.Agrees (I : List Address → Machine World → Prop) (b : Bool) (k k' : Means) :
    Prop where
  make : k.make.Agrees I b k'.make
  clear : ∀ G args, (k.clear args).Agrees I b G (k'.clear args)

section

variable {I : List Address → Machine World → Prop} {b : Bool} {G : List Address} {seat : Seat}
  {m m' : Machine World} {make make' : Maker} {k k' : Means} {call call' : Caller World} {α : Type}

theorem units_updateEngine (change : Engine → Engine) (h : ∀ e, (change e).units = e.units)
    (seat other : Seat) (w : World) :
    ((w.updateEngine seat change).engine other).units = (w.engine other).units := by
  by_cases hOther : other = seat
  · rw [hOther, World.engine_updateEngine]
    exact h _
  · rw [World.engine_updateEngine_of_ne hOther]

theorem fresh_updateEngine (seat : Seat) (change : Engine → Engine) (w : World) :
    (w.updateEngine seat change).fresh = w.fresh := by
  cases seat <;> rfl

theorem World.turns_updateEngine (change : Engine → Engine) (h : ∀ e, (change e).units = e.units)
    (seat : Seat) (w : World) : w.Turns (w.updateEngine seat change) :=
  ⟨fun other => units_updateEngine change h seat other w,
    Nat.le_of_eq (fresh_updateEngine seat change w).symm⟩

variable (hI : RenderUpheld I)

include hI

theorem agrees_updateWorld {change : World → World} (h : ∀ w : World, w.Turns (change w)) :
    (updateWorld change).Agrees I b G (updateWorld change) :=
  .of_same (fun m hm => hI.turns _ (h m.world) hm) fun _ => rfl

theorem agrees_lookup (seat : Seat) (key? : Option Identity) :
    (lookup seat key?).Agrees I b G (lookup seat key?) := by
  refine .of_same (fun m hm => ?_) fun m => ?_
  all_goals
    rcases lookup_cases seat key? m with ⟨key, u, -, -, hLookup⟩ | hLookup
  · replace hLookup : (lookup seat key?).perform m = _ := hLookup
    rw [hLookup]
    exact hI.touches seat key hm
  · replace hLookup : (lookup seat key?).perform m = _ := hLookup
    rwa [hLookup]
  · replace hLookup : (lookup seat key?).perform m = _ := hLookup
    rw [hLookup]
  · replace hLookup : (lookup seat key?).perform m = _ := hLookup
    rw [hLookup]

omit hI in
theorem eq_of_missed {key? : Option Identity} (h : (lookup seat key?).Yields m none m') :
    m' = m := by
  rcases lookup_cases seat key? m with ⟨key, u, -, -, hLookup⟩ | hLookup
  · cases Eq.trans (Eq.symm hLookup) h
  · cases Eq.trans (Eq.symm hLookup) h
    rfl

/-- What comes after a look-up may know that nothing was found. -/
theorem agrees_lookup_bind {β : Type} {key? : Option Identity}
    {next next' : Option CompiledUnit → Work β}
    (hNext : ∀ kept? m, I G m → (kept? = none → (lookup seat key?).Yields m none m) →
      (next kept?).AgreesAt (I G) b (next' kept?) m)
    (hSpoilt : ∀ kept?, (next' kept?).StaysSpoilt b) :
    (lookup seat key? >>= next).Agrees I b G (lookup seat key? >>= next') where
  sound m hm := by
    refine ((agrees_lookup hI seat key?).sound m hm).bind ?_ (fun _ => id) hSpoilt
    intro kept? m₁ hLookup hm₁
    refine hNext kept? m₁ hm₁ ?_
    rintro rfl
    obtain rfl := eq_of_missed hLookup
    exact hLookup
  spoilt m hm := strict_bind ((agrees_lookup (G := []) hI seat key?).spoilt m hm) hSpoilt

theorem agrees_runUnit (hCall : call.Agrees I b call') (seat : Seat) (u : CompiledUnit)
    (options : Value) :
    (runUnit call seat u options).Agrees I b G (runUnit call' seat u options) := by
  unfold runUnit
  refine (hI.agrees fun _ => spares_paramsOf options).bind fun params => ?_
  exact agrees_counted hI.toUpheld
    (fun f m hm => hI.turns _ (World.turns_updateEngine (fun e => { e with depth := f e.depth })
      (fun _ => rfl) seat m.world) hm)
    (agrees_execute hI.toUpheld hCall u options params)

theorem agrees_compile (text : List Char) : (compile text).Agrees I b G (compile text) :=
  hI.agrees fun _ => spares_compile text

/-- The render of a text agrees if the engine keeps no unit for it. -/
theorem agreesAt_renderSourceBy (hMake : make.Agrees I b make') (hCall : call.Agrees I b call')
    (o : Options Value) (key? : Option Identity) (kept? : Option CompiledUnit)
    (text fileName : List Char) (hm : I G m)
    (hMissed : kept? = none → (lookup seat key?).Yields m none m) :
    (renderSourceBy make call seat o key? kept? text fileName).AgreesAt (I G) b
      (renderSourceBy make' call' seat o key? kept? text fileName) m := by
  have hRun (u : CompiledUnit) : (do runUnit call seat u (← newOptions o) : Work Value).Agrees I b G
      (do runUnit call' seat u (← newOptions o)) :=
    (hI.agrees fun _ => spares_newOptions o).bind fun _ => agrees_runUnit hI hCall seat u _
  unfold renderSourceBy
  split
  · exact ((agrees_compile hI text).bind fun _ => hI.pure _).sound m hm
  cases kept? with
  | some u => exact (hRun u).sound m hm
  | none =>
    exact (hMake.sound hCall hm (hMissed rfl)).bind (fun u m' _ hm' => (hRun u).sound m' hm')
      (fun _ => id) fun u => (hRun u).spoilt

theorem spoilt_renderSourceBy (hMake : make.Agrees I b make') (hCall : call.Agrees I b call')
    (o : Options Value) (key? : Option Identity) (kept? : Option CompiledUnit)
    (text fileName : List Char) :
    (renderSourceBy make' call' seat o key? kept? text fileName).StaysSpoilt b := by
  have hRun (u : CompiledUnit) :
      (do runUnit call seat u (← newOptions o) : Work Value).Agrees I b []
      (do runUnit call' seat u (← newOptions o)) :=
    (hI.agrees fun _ => spares_newOptions o).bind fun _ => agrees_runUnit hI hCall seat u _
  unfold renderSourceBy
  split
  · exact ((agrees_compile (G := []) hI text).bind fun _ => hI.pure _).spoilt
  cases kept? with
  | some u => exact (hRun u).spoilt
  | none => exact fun m hm => strict_bind (hMake.spoilt _ hCall m hm) fun u => (hRun u).spoilt

theorem agrees_prefixed (name : List Char) (f : Fault) :
    Run.Agrees I b G
      (do Run.fail (← Run.keep (if f.isPlate then f.addPrefix name else f)) : Work α)
      (do Run.fail (← Run.keep (if f.isPlate then f.addPrefix name else f))) :=
  (hI.keep _).bind fun _ => hI.fail _

theorem agreesAt_withName {r r' : Work α} (name : List Char) (h : r.AgreesAt (I G) b r' m) :
    (withName name r).AgreesAt (I G) b (withName name r') m := h.tryCatch (agrees_prefixed hI name)

theorem agrees_renderFileBy (hMake : make.Agrees I b make') (hCall : call.Agrees I b call')
    (o : Options Value) (name : List Char) :
    (renderFileBy make call seat o name).Agrees I b G (renderFileBy make' call' seat o name) := by
  unfold renderFileBy
  refine Agrees.bind (hI.agrees fun _ => spares_world) fun w => ?_
  refine Agrees.bind (hI.agrees fun _ => spares_unsettle_new fun f => object?_openSource)
    fun source => ?_
  have hSpoilt (kept? : Option CompiledUnit) (text : List Char) :
      (withName name (renderSourceBy make' call' seat o source.identity? kept? text
        source.path.written)).StaysSpoilt b := by
    intro m hm
    exact strict_tryCatch (spoilt_renderSourceBy hI hMake hCall o _ kept? text _ m hm) fun f =>
      (agrees_prefixed (G := []) hI name f).spoilt
  have hRead : (unsettle (source.text o.encoding) : Work (List Char)).Agrees I b G
      (unsettle (source.text o.encoding)) :=
    hI.agrees fun _ => spares_unsettle_new fun f => object?_text
  refine agrees_lookup_bind hI (fun kept? m hm hMissed => ?_) fun kept? => ?_
  · have hRender (text : List Char) := agreesAt_withName hI name (agreesAt_renderSourceBy hI hMake
      hCall o source.identity? kept? text source.path.written hm hMissed)
    split
    · cases source.text o.encoding with
      | ok text => exact hRender text
      | error f => exact (Agrees.fail_bind f).sound m hm
    · exact hRender []
  · split
    · exact fun m hm => strict_bind (hRead.spoilt m hm) (hSpoilt kept?)
    · exact hSpoilt kept? []

theorem agrees_renderMergedBy (hMake : make.Agrees I b make') (hCall : call.Agrees I b call')
    (o : Options Value) :
    (renderMergedBy make call seat o).Agrees I b G (renderMergedBy make' call' seat o) := by
  unfold renderMergedBy
  split
  · constructor
    case sound =>
      intro m hm
      exact agreesAt_renderSourceBy hI hMake hCall o none none _ _ hm fun _ => rfl
    case spoilt => exact spoilt_renderSourceBy hI hMake hCall o none none _ _
  · exact agrees_renderFileBy hI hMake hCall o _
  · exact hI.fail _

theorem agrees_renderBy (hMake : make.Agrees I b make') (hCall : call.Agrees I b call')
    (options : Value) (overrides : Entries Value) :
    (renderBy make call seat options overrides).Agrees I b G
      (renderBy make' call' seat options overrides) :=
  Agrees.bind (hI.agrees fun _ => spares_givenOptions options overrides) fun o =>
    Agrees.bind (hI.agrees fun _ => spares_mergeDefaults seat o) fun _ =>
      agrees_renderMergedBy hI hMake hCall _

theorem agrees_setDefaults (options : Value) :
    (setDefaults options).Agrees I b G (setDefaults options) := by
  refine Agrees.bind (hI.agrees fun _ => spares_givenOptions options []) fun defaults => ?_
  exact agrees_updateWorld hI fun w =>
    World.turns_updateEngine (fun e => { e with defaults }) (fun _ => rfl) .shared w

/-- An emptied store agrees with itself if a condition is kept by it. -/
theorem agrees_clearCommand (hClears : ∀ {G m}, I G m → I G (withoutUnits .shared m))
    (args : Args) : (clearCommand args).Agrees I b G (clearCommand args) := by
  unfold clearCommand
  refine Agrees.bind (hI.agrees fun _ => Parameters.spares_bind _ args) fun bound => ?_
  exact Agrees.bind (.of_same (fun m hm => hClears hm) fun _ => rfl) fun _ => hI.pure _

theorem Maker.Agrees.means (hClears : ∀ {G m}, I G m → I G (withoutUnits .shared m))
    (hMake : make.Agrees I b make') : make.means.Agrees I b make'.means :=
  ⟨hMake, fun _ args => agrees_clearCommand hI hClears args⟩

theorem agrees_host (h : k.Agrees I b k') : k.host.Agrees I b k'.host where
  render q _ _ hCall _ _ :=
    Agrees.bind (hI.agrees fun _ => q.spares_bind _) fun _ => agrees_renderBy hI h.make hCall _ _
  setDefaults _ _ :=
    Agrees.bind (hI.agrees fun _ => Parameters.spares_bind _ _) fun _ =>
      (agrees_setDefaults hI _).bind fun _ => hI.pure _
  clear := h.clear

theorem agrees_callAt (h : k.Agrees I b k') (depth : Nat) :
    (callAt k.host depth).Agrees I b (callAt k'.host depth) :=
  (agrees_host hI h).callAt hI.toUpheld depth

theorem agrees_install (hCall : call.Agrees I b call') {key? : Option Identity}
    {program : List Char} {lineOffset : Int} (fileName : List Char)
    (hKeep : ∀ key ∈ key?, ∀ u m m', I G m →
      (load call key.namespaceId program fileName lineOffset).Yields m u m' →
      I (u.globals :: G) m' → I G { m' with world := m'.world.insert seat key u }) :
    (install call seat key? program fileName lineOffset).Agrees I b G
      (install call' seat key? program fileName lineOffset) := by
  have hLoaded (w : World) : w.Turns { w with loads := w.loads + 1 } :=
    ⟨fun other => by cases other <;> rfl, Nat.le_refl _⟩
  unfold install
  refine (agrees_lookup hI seat key?).bind fun kept? => ?_
  split
  · exact hI.pure _
  · cases key? with
    | none =>
      refine Agrees.bind (hI.agrees fun _ => spares_newNamespaceId none) fun namespaceId => ?_
      refine (agrees_updateWorld hI hLoaded).bind fun _ => ?_
      exact (agrees_load hI.toUpheld hCall namespaceId program fileName lineOffset).bind fun _ =>
        hI.pure _
    | some key =>
      simp only [newNamespaceId, pure_bind]
      refine (agrees_updateWorld hI hLoaded).bind fun _ => ?_
      refine agrees_load_bind hI.toUpheld hCall (fun u m m' hm hLoad hm' => ?_) fun u => ?_
      · exact .inl ⟨rfl, hKeep key rfl u m m' hm hLoad hm'⟩
      · exact fun m hm => hm

theorem agrees_makeUnit (hCall : call.Agrees I b call') {job : Making}
    (hKeep : ∀ key ∈ job.key?, ∀ program lineOffset u m m', I G m →
      (job.raw = false → ∃ body, program = body ++ Program.epilogue) →
      (load call key.namespaceId program job.fileName lineOffset).Yields m u m' →
      I (u.globals :: G) m' → I G { m' with world := m'.world.insert job.seat key u }) :
    (makeUnit call job).Agrees I b G (makeUnit call' job) := by
  have hInstall (program : List Char) (lineOffset : Int)
      (hProgram : job.raw = false → ∃ body, program = body ++ Program.epilogue) :
      (install call job.seat job.key? program job.fileName lineOffset).Agrees I b G
        (install call' job.seat job.key? program job.fileName lineOffset) :=
    agrees_install hI hCall job.fileName fun key hKey u m m' hm =>
      hKeep key hKey program lineOffset u m m' hm hProgram
  unfold makeUnit programOf
  cases hRaw : job.raw with
  | true => exact hInstall job.text 0 fun hTemplate => nomatch hRaw.symm.trans hTemplate
  | false =>
    simp only [Bool.false_eq_true, if_false, bind_assoc, pure_bind]
    unfold compile
    rw [bind_assoc, bind_assoc]
    refine Agrees.bind (agrees_updateWorld hI fun w => ?_) fun _ => ?_
    · exact ⟨fun seat => by cases seat <;> rfl, Nat.le_refl _⟩
    · unfold Program.preprocess
      cases Program.body job.text with
      | error e => exact .fail_bind _
      | ok body => exact hInstall _ Program.lineOffset fun _ => ⟨_, rfl⟩

end

section

variable {b : Bool}

/-- Nothing has to be kept on no machine. -/
theorem upheld_never : RenderUpheld fun _ _ => False where
  grows h _ := h
  handling _ h := h
  opens _ h := h
  closes h := h
  assigns _ _ h := h
  turns _ _ h := h
  touches _ _ h := h

theorem spoilt_makeUnit {I : List Address → Machine World → Prop} {call call' : Caller World}
    (hCall : call.Agrees I b call') (job : Making) : (makeUnit call' job).StaysSpoilt b := by
  have hSpoilt : Caller.Agrees (fun _ _ => False) b call' call' := fun _ v args lines =>
    ⟨fun _ h => h.elim, (hCall [] v args lines).spoilt⟩
  have hMake : Run.Agrees (fun _ _ => False) b [] (makeUnit call' job) (makeUnit call' job) := by
    refine agrees_makeUnit upheld_never hSpoilt ?_
    intro key hKey program lineOffset u m m' hm
    exact hm.elim
  exact hMake.spoilt

/-- A run that spoils the machine. -/
def spoilMachine {α : Type} (b : Bool) : Work α := do
  modify fun m => { m with strict := b }
  Run.fail noSourceFault

/-- A maker that spoils the machine. -/
def spoil (b : Bool) : Maker := fun _ _ => spoilMachine b

theorem strict_spoil (call : Caller World) (job : Making) (m : Machine World) :
    ((spoil b call job).perform m).2.strict = b := rfl

theorem perform_unless (make : Maker) (p : Making → Machine World → Bool) (other : Maker)
    (call : Caller World) (job : Making) (m : Machine World) :
    (make.unless p other call job).perform m =
      (if p job m then other call job else make call job).perform m :=
  (yields_get m).perform_bind _

/-- A maker that leaves some units to another agrees with one that leaves no fewer to the one that
spoils the machine. -/
theorem agrees_unless {I : List Address → Machine World → Prop}
    {p q : Making → Machine World → Bool} (other : Maker)
    (hMarked : ∀ {G job m}, I G m → (lookup job.seat job.key?).Yields m none m → p job m = true →
      q job m = true)
    (hMake : ∀ {call call' : Caller World} {G job m}, call.Agrees I b call' → I G m →
      q job m = false → (makeUnit call job).AgreesAt (I G) b (makeUnit call' job) m) :
    (makeUnit.unless p other).Agrees I b (makeUnit.unless q (spoil b)) where
  sound {call call' G job m} hCall hm hMissed := by
    rw [AgreesAt, perform_unless, perform_unless]
    cases hq : q job m with
    | true =>
      rw [if_pos rfl]
      exact .inr (strict_spoil call' job m)
    | false =>
      have hp : ¬ p job m = true := fun hp =>
        Bool.false_ne_true (hq.symm.trans (hMarked hm hMissed hp))
      rw [if_neg hp, if_neg Bool.false_ne_true]
      exact hMake hCall hm hq
  spoilt {call call'} job hCall := by
    intro m hm
    rw [perform_unless]
    split
    · exact strict_spoil call' job m
    · exact spoilt_makeUnit hCall job m hm

end

/-! ## All that is done -/

section

variable {I : List Address → Machine World → Prop} {b : Bool} {G : List Address}
  {m m' : Machine World} {k k' : Means}

theorem agrees_event (hI : RenderUpheld I) (h : k.Agrees I b k') (e : Event) :
    (e.performBy k).Agrees I b G (e.performBy k') := by
  cases e with
  | render seat options overrides =>
    exact agrees_renderBy hI h.make (agrees_callAt hI h callDepth) options overrides
  | setDefaults options => exact (agrees_setDefaults hI options).bind fun _ => hI.pure _
  | object o => exact hI.newObject o
  | files tree =>
    refine Agrees.bind (agrees_updateWorld hI fun w => ?_) fun _ => hI.pure _
    exact ⟨fun seat => by cases seat <;> rfl, Nat.le_refl _⟩

end

variable {start : Machine World} {deeds : List Deed} {G : List Address}

end Stencil.Render
