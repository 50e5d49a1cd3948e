import Stencil.Proofs.Render.AgreeingRenders
import Stencil.Proofs.Render.Making

/-!
# Renders that run nothing

A render that only answers with the program of a template runs nothing, and neither does one that
fails before its unit is there. The latter leaves all engines as they are. The former looks for the
unit of the file all the same, and a unit that it finds is the one used last from then on: the
engine keeps what it kept, but what it gives up next may be something else.

* `engine_of_spares`: what runs without an engine leaves the engines alone.
* `engines_of_preprocessOnly`: a render that only answers with the program.
* `engine_of_refused`: a render of something that is not there, is no template, or whose program is
  no script.
-/

namespace Stencil.Render

open Script Script.Run Store

variable {call : Caller World} {seat : Seat} {o : Options Value} {m : Machine World}

theorem engine_of_spares {α : Type} {r : Work α}
    (h : ∀ mark, r.Spares (World.Serves fun _ => False) mark False []) (m : Machine World)
    (other : Seat) : (r.perform m).2.world.engine other = m.world.engine other :=
  (h m.mark m (Upheld.fits_mark m)).machine.world.unused other id

theorem spares_program (text : List Char) (mark : Mark) :
    (do return .text (← compile text) : Work Value).Spares (World.Serves fun _ => False) mark False
      [] :=
  (spares_compile text).bind fun _ => spares_pure _

/-- Engines after a render, which may have used the unit of a file. -/
structure Engines.Idle (seat : Seat) (used? : Option Identity) (w w' : World) : Prop where
  others : ∀ other, other ≠ seat → w'.engine other = w.engine other
  engine : w'.engine seat =
    { w.engine seat with units := used?.elim (w.engine seat).units (w.engine seat).units.touch }
  used : ∀ key ∈ used?, ((w.engine seat).units.get? key).isSome = true

theorem idle_of_same {w w' : World} (h : ∀ other, w'.engine other = w.engine other) :
    Engines.Idle seat none w w' := ⟨fun other _ => h other, h seat, nofun⟩

theorem idle_touched {w : World} {key : Identity} {u : CompiledUnit}
    (h : (w.engine seat).units.get? key = some u) :
    Engines.Idle seat (some key) w (w.touch seat key) := by
  refine ⟨fun other hOther => World.engine_updateEngine_of_ne hOther _ _, ?_, ?_⟩
  · exact World.engine_updateEngine seat _ w
  · rintro _ ⟨⟩
    rw [h]
    rfl

theorem Engines.Idle.trans_same {used? : Option Identity} {w w' w'' : World}
    (h : Engines.Idle seat used? w w') (hSame : ∀ other, w''.engine other = w'.engine other) :
    Engines.Idle seat used? w w'' :=
  ⟨fun other hOther => (hSame other).trans (h.others other hOther), (hSame seat).trans h.engine,
    h.used⟩

/-- A look-up, and then a run that does without the engines. -/
theorem idle_lookup_bind {α : Type} {key? : Option Identity} {next : Option CompiledUnit → Work α}
    (h : ∀ kept? mark, (next kept?).Spares (World.Serves fun _ => False) mark False [])
    (m : Machine World) :
    ∃ used?, (∀ key ∈ used?, key? = some key) ∧
      Engines.Idle seat used? m.world ((lookup seat key? >>= next).perform m).2.world := by
  rcases lookup_cases seat key? m with ⟨key, u, hKey, hHeld, hLookup⟩ | hLookup
  · refine ⟨some key, by rintro _ ⟨⟩; exact hKey, ?_⟩
    rw [hLookup.perform_bind]
    exact (idle_touched hHeld).trans_same (engine_of_spares (h _) _)
  · refine ⟨none, nofun, ?_⟩
    rw [hLookup.perform_bind]
    exact idle_of_same (engine_of_spares (h _) _)

/-- Whether a render is one of a file that is there and has some identity. -/
def IsOfFile (o : Options Value) (m : Machine World) (key : Identity) : Prop :=
  o.inputString = none ∧ ∃ name source, o.inputFile = some name ∧
    openSource m.world.files name o.path = .ok source ∧ source.identity? = some key

/-- **A render that only answers with the program** leaves all engines as they are, but for the
order in which its engine has used its units: the unit of the file, if it is kept, is the one used
last. -/
theorem engines_of_preprocessOnly (hOutput : o.preprocessOnly = true) (call : Caller World)
    (seat : Seat) (m : Machine World) :
    ∃ used?, (∀ key ∈ used?, IsOfFile o m key) ∧
      Engines.Idle seat used? m.world ((renderMerged call seat o).perform m).2.world := by
  have hProgram (key? : Option Identity) (kept? : Option CompiledUnit) (text fileName : List Char) :
      renderSource call seat o key? kept? text fileName = do return .text (← compile text) := by
    unfold renderSource
    rw [if_pos hOutput]
  unfold renderMerged
  split
  · refine ⟨none, nofun, idle_of_same (engine_of_spares (fun mark => ?_) m)⟩
    rw [hProgram]
    exact spares_program _ mark
  · rename_i name hText hFile
    unfold renderFile
    rw [(show (Run.world : Work World).Yields m m.world m from rfl).perform_bind]
    cases hOpen : openSource m.world.files name o.path with
    | error f => exact ⟨none, nofun, idle_of_same fun _ => rfl⟩
    | ok source =>
      refine (idle_lookup_bind (fun kept? mark => ?_) m).imp fun used? h =>
        ⟨fun key hKey => ⟨hText, name, source, hFile, hOpen, h.1 key hKey⟩, h.2⟩
      have hRender (text : List Char) :
          (withName name (renderSource call seat o source.identity? kept? text
            source.path.written)).Spares (World.Serves fun _ => False) mark False [] := by
        rw [hProgram]
        exact spares_withName name (spares_program text mark)
      split
      · exact (spares_unsettle_new fun f => object?_text).bind hRender
      · exact hRender []
  · exact ⟨none, nofun, idle_of_same fun _ => rfl⟩

/-! ## What cannot be run -/

/-- Whether a unit was loaded to its end is seen from the variables and objects alone. -/
theorem yields_isCompiled_world {u : CompiledUnit} {b : Bool} (h : (isCompiled u).Yields m b m)
    (w : World) : (isCompiled u).Yields { m with world := w } b { m with world := w } := by
  have hFlag (m : Machine World) : (globalOf? u Program.compiledFlag).Yields m
      (((m.frames[u.globals]?).getD []).lookup Program.compiledFlag).join m := rfl
  unfold isCompiled at h ⊢
  replace h := ((hFlag m).perform_bind _).symm.trans h
  refine ((hFlag _).perform_bind _).trans ?_
  dsimp only
  cases hValue : (((m.frames[u.globals]?).getD []).lookup Program.compiledFlag).join with
  | none =>
    rw [hValue] at h
    cases h
    rfl
  | some v =>
    rw [hValue] at h
    cases h
    rfl

theorem missed_world {key? : Option Identity} {w : World}
    (hEngine : w.engine seat = m.world.engine seat) (h : (lookup seat key?).Yields m none m) :
    (lookup seat key?).Yields { m with world := w } none { m with world := w } := by
  cases key? with
  | none => rfl
  | some key =>
    have hSeat (m : Machine World) : (engineAt seat).Yields m (m.world.engine seat) m := rfl
    unfold lookup at h ⊢
    replace h := ((hSeat m).perform_bind _).symm.trans h
    refine (hSeat _).bind ?_
    dsimp only at h ⊢
    rw [hEngine]
    cases hUnit : (m.world.engine seat).units.get? key with
    | none => rfl
    | some u =>
      rw [hUnit] at h
      obtain ⟨b, hCompiled⟩ := exists_yields_isCompiled u m
      refine (yields_isCompiled_world hCompiled w).bind ?_
      replace h := (hCompiled.perform_bind _).symm.trans h
      cases b with
      | false => rfl
      | true => cases h

/-- A machine in which one more template was to be compiled. -/
def compiling (m : Machine World) : Machine World :=
  { m with world := { m.world with compiles := m.world.compiles + 1 } }

theorem engine_compiling (m : Machine World) (seat : Seat) :
    (compiling m).world.engine seat = m.world.engine seat := by
  cases seat <;> rfl

theorem perform_compile (text : List Char) (m : Machine World) :
    (compile text).perform m = ((Program.preprocess text).mapError templateFault, compiling m) := by
  unfold compile
  rw [(yields_updateWorld _ m).perform_bind]
  cases Program.preprocess text <;> rfl

/-- Whether a text cannot be run: it is no template, or what is to be loaded is no script. -/
def Unusable (raw : Bool) (text : List Char) : Prop :=
  ∀ program, (if raw then .ok text else Program.preprocess text) = .ok program →
    '\x00' ∈ program ∨ ∃ line, parse program = .error line

theorem load_unusable {program : List Char}
    (h : '\x00' ∈ program ∨ ∃ line, parse program = .error line) (call : Caller World)
    (namespaceId : String) (fileName : List Char) (lineOffset : Int) (m : Machine World) :
    ∃ f m', (load call namespaceId program fileName lineOffset).perform m = (.error f, m') ∧
      ∀ other, m'.world.engine other = m.world.engine other := by
  unfold load
  by_cases hNull : program.contains '\x00'
  · rw [if_pos hNull]
    exact ⟨_, m, rfl, fun _ => rfl⟩
  · rw [if_neg hNull]
    obtain hNull' | ⟨line, hParse⟩ := h
    · exact absurd (List.contains_iff_mem.mpr hNull') hNull
    · rw [hParse]
      exact ⟨_, _, rfl, fun _ => rfl⟩

theorem install_unusable {program : List Char}
    (h : '\x00' ∈ program ∨ ∃ line, parse program = .error line) {key? : Option Identity}
    (hMissed : (lookup seat key?).Yields m none m) (call : Caller World) (fileName : List Char)
    (lineOffset : Int) :
    ∃ f m', (install call seat key? program fileName lineOffset).perform m = (.error f, m') ∧
      ∀ other, m'.world.engine other = m.world.engine other := by
  have hName : ∃ namespaceId m', (newNamespaceId key?).Yields m namespaceId m' ∧
      ∀ other, m'.world.engine other = m.world.engine other := by
    cases key? with
    | some key => exact ⟨_, m, rfl, fun _ => rfl⟩
    | none => exact ⟨_, _, rfl, fun other => by cases other <;> rfl⟩
  obtain ⟨namespaceId, m₁, hNamed, hEngine⟩ := hName
  obtain ⟨f, m', hLoad, hEngine'⟩ :=
    load_unusable h call namespaceId fileName lineOffset (loading m₁)
  refine ⟨f, m', ?_, fun other => ?_⟩
  · unfold install
    rw [hMissed.perform_bind]
    dsimp only
    rw [hNamed.perform_bind, (yields_updateWorld _ m₁).perform_bind]
    exact perform_bind_error hLoad _
  · rw [hEngine', ← hEngine other]
    cases other <;> rfl

/-- Nothing is made of a text that cannot be run. -/
theorem makeUnit_unusable (job : Making) (h : Unusable job.raw job.text)
    (hMissed : (lookup job.seat job.key?).Yields m none m) (call : Caller World) :
    ∃ f m', (makeUnit call job).perform m = (.error f, m') ∧
      ∀ other, m'.world.engine other = m.world.engine other := by
  have hInstall {program : List Char} (offset : Int) {m₁ : Machine World}
      (hProgram : (programOf job.raw job.text).Yields m (program, offset) m₁)
      (hBad : '\x00' ∈ program ∨ ∃ line, parse program = .error line)
      (hEngine : ∀ other, m₁.world.engine other = m.world.engine other)
      (hMissed₁ : (lookup job.seat job.key?).Yields m₁ none m₁) :
      ∃ f m', (makeUnit call job).perform m = (.error f, m') ∧
        ∀ other, m'.world.engine other = m.world.engine other := by
    obtain ⟨f, m', hRun, hSame⟩ := install_unusable hBad hMissed₁ call job.fileName offset
    exact ⟨f, m', (hProgram.perform_bind _).trans hRun,
      fun other => (hSame other).trans (hEngine other)⟩
  cases hRaw : job.raw with
  | true =>
    rw [hRaw] at h
    have hProgram : (programOf job.raw job.text).Yields m (job.text, 0) m := by
      rw [hRaw]
      rfl
    exact hInstall 0 hProgram (h _ rfl) (fun _ => rfl) hMissed
  | false =>
    rw [hRaw] at h
    have hCompile := perform_compile job.text m
    have hProgram : programOf job.raw job.text =
        (do return (← compile job.text, Program.lineOffset)) := by
      rw [hRaw]
      rfl
    cases hText : Program.preprocess job.text with
    | error e =>
      rw [hText] at hCompile
      refine ⟨templateFault e, compiling m, ?_, engine_compiling m⟩
      unfold makeUnit
      rw [hProgram]
      exact perform_bind_error (perform_bind_error hCompile _) _
    | ok program =>
      rw [hText] at hCompile
      replace hCompile : (compile job.text).Yields m program (compiling m) := hCompile
      refine hInstall Program.lineOffset ?_ (h _ hText) (engine_compiling m)
        (missed_world (engine_compiling m job.seat) hMissed)
      rw [hProgram]
      exact hCompile.bind .pure

theorem engine_of_unusable {text : List Char} {key? : Option Identity}
    (h : Unusable o.raw text) (hMissed : (lookup seat key?).Yields m none m) (call : Caller World)
    (fileName : List Char) (other : Seat) :
    ((renderSource call seat o key? none text fileName).perform m).2.world.engine other =
      m.world.engine other := by
  rw [← renderSourceBy_makeUnit]
  unfold renderSourceBy
  split
  · exact engine_of_spares (spares_program text) m other
  · obtain ⟨f, m', hMake, hEngine⟩ :=
      makeUnit_unusable ⟨seat, o.raw, key?, text, fileName⟩ h hMissed call
    rw [perform_bind_error hMake]
    exact hEngine other

/-- Whether a render fails before its unit is there: nothing is named, there is no such file, it
cannot be read, or what it holds cannot be run. -/
def Refused (seat : Seat) (o : Options Value) (m : Machine World) : Prop :=
  match o.inputString, o.inputFile with
  | some text, _ => Unusable o.raw text
  | none, some name =>
    ∀ source, openSource m.world.files name o.path = .ok source →
      (lookup seat source.identity?).Yields m none m ∧
      ∀ text, source.text o.encoding = .ok text → Unusable o.raw text
  | none, none => True

theorem engine_withName {α : Type} {name : List Char} {r : Work α} (m : Machine World)
    (other : Seat) :
    ((withName name r).perform m).2.world.engine other =
      (r.perform m).2.world.engine other := by
  rcases hRun : r.perform m with ⟨x, m₁⟩
  cases x with
  | ok a =>
    have hYields : (withName name r).Yields m a m₁ := Yields.tryCatch hRun
    exact congrArg (fun x => x.2.world.engine other) hYields
  | error f =>
    -- The name is put in front as if the run had done nothing but fail.
    have hFails : (Run.fail f : Work α).perform m₁ = (.error f, m₁) := rfl
    have hSame : (withName name r).perform m =
        (withName name (Run.fail f : Work α)).perform m₁ := by
      unfold withName
      rw [perform_tryCatch_error hRun, perform_tryCatch_error hFails]
    rw [hSame]
    refine engine_of_spares (fun mark => spares_withName name ?_) m₁ other
    exact fun m _ => .fail False.elim

/-- **A render that fails before its unit is there** leaves all engines as they are. -/
theorem engine_of_refused (h : Refused seat o m) (call : Caller World) (other : Seat) :
    ((renderMerged call seat o).perform m).2.world.engine other = m.world.engine other := by
  unfold Refused at h
  unfold renderMerged
  split
  case h_1 text _ hText =>
    rw [hText] at h
    have hMissed : (lookup seat none).Yields m none m := .pure
    exact engine_of_unusable h hMissed call textFileName other
  case h_2 name hText hFile =>
    rw [hText, hFile] at h
    unfold renderFile
    rw [(show (Run.world : Work World).Yields m m.world m from rfl).perform_bind]
    cases hOpen : openSource m.world.files name o.path with
    | error f => rfl
    | ok source =>
      obtain ⟨hMissed, hText⟩ := h source hOpen
      rw [(show (unsettle (.ok source) : Work Source).Yields m source m from rfl).perform_bind,
        hMissed.perform_bind]
      rw [Option.isNone_none, Bool.true_or, if_pos rfl]
      cases hRead : source.text o.encoding with
      | error f => rfl
      | ok text =>
        rw [(show (unsettle (.ok text) : Work (List Char)).Yields m text m from rfl).perform_bind,
          engine_withName]
        exact engine_of_unusable (hText text hRead) hMissed call _ other
  case h_3 => rfl

end Stencil.Render
