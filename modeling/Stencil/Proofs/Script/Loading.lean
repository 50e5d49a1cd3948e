import Stencil.Proofs.Script.EntryPoint

/-!
# Loading and executing a program that only substitutes

Loading such a program imports what its preamble imports and defines its entry point. Nothing that
was there before changes, and from then on the unit is there to be executed on any parameters.

* `Keeps`: what stays as it is while objects and variables are added.
* `Loaded`: a unit that is there. `load_program`: the unit of the program.
* `execute_unit`: what the unit answers.
-/

namespace Stencil.Script

open Program Run

variable {W : Type} {m m' : Machine W}

/-! ## Imports -/

theorem run_importWarnings (call : Caller W) (ctx : Context) (m : Machine W) :
    (runStmt call ctx (.importModule 1 ["warnings"] (some "_warnings"))).Yields m .next
      (m.assign ctx.target "_warnings" (.module .warnings)) := rfl

theorem run_importCategory (call : Caller W) (ctx : Context) (m : Machine W) :
    (runStmt call ctx (.importFrom 3 ["plate", "exceptions"]
      [("UndefinedValueWarning", "_UndefinedValueWarning")])).Yields m .next
      (m.assign ctx.target "_UndefinedValueWarning" (.errorClass .undefinedValueWarning)) := rfl

theorem frame_assign {a : Address} {f : Frame} (h : m.frames[a]? = some f) (name : String)
    (v : Value) : (m.assign a name v).frames[a]? = some (setVariable.assign name (some v) f) := by
  have hModify : (m.frames.modify a fun f => setVariable.assign name (some v) f)[a]? =
      some (setVariable.assign name (some v) f) := by
    rw [Array.getElem?_modify, if_pos rfl, h]
    rfl
  exact hModify

/-! ## What stays -/

/-- Whether a machine differs from another at most by new objects and variables. -/
structure Keeps (m m' : Machine W) : Prop extends Machine.Preserves m m' where
  warnings : m'.warnings = m.warnings
  issued : m'.issued = m.issued
  world : m'.world = m.world

namespace Keeps

variable {m'' : Machine W}

theorem refl (m : Machine W) : Keeps m m := ⟨Machine.Preserves.refl m, rfl, rfl, rfl⟩

theorem trans (h : Keeps m m') (h' : Keeps m' m'') : Keeps m m'' where
  toPreserves := h.toPreserves.trans h'.toPreserves
  warnings := h'.warnings.trans h.warnings
  issued := h'.issued.trans h.issued
  world := h'.world.trans h.world

theorem withObject (h : Keeps m m') (object : Object) : Keeps m (m'.withObject object) :=
  ⟨h.toPreserves.withObject object, h.warnings, h.issued, h.world⟩

theorem withFrame (h : Keeps m m') (f : Frame) : Keeps m (m'.withFrame f) :=
  ⟨h.toPreserves.withFrame f, h.warnings, h.issued, h.world⟩

theorem assign (h : Keeps m m') {a : Address} (ha : m.frames.size ≤ a) (name : String) (v : Value) :
    Keeps m (m'.assign a name v) := ⟨h.toPreserves.assign ha name v, h.warnings, h.issued, h.world⟩

end Keeps

/-! ## Loading -/

theorem yields_globalOf {u : CompiledUnit} {name : String} {v? : Option Value}
    (h : m.binding? u.globals name = some v?) : (globalOf? u name).Yields m v? m := by
  have hJoin : (((m.frames[u.globals]?).getD []).lookup name).join = v? := congrArg Option.join h
  refine (yields_frame u.globals m).bind ?_
  rw [hJoin]
  exact .pure

/-- The machine in which a program has been loaded whose entry point has some statements. -/
def Machine.loaded (m : Machine W) (u : CompiledUnit) (row : Nat) (stmts : List Stmt) : Machine W :=
  (((((m.withFrame (moduleVariables u.namespaceId u.fileName)).assign
    u.globals "_warnings" (.module .warnings)).assign
    u.globals "_UndefinedValueWarning" (.errorClass .undefinedValueWarning)).define
    u.globals entryPoint (.function (u.main row stmts))).assign
    u.globals compiledFlag (.bool true))

/-- Whether a unit is there whose entry point makes some emissions. -/
def Loaded (u : CompiledUnit) (es : List Emission) (m : Machine W) : Prop :=
  ∃ entry row stmts, List.Forall₂ IsCall es stmts ∧
    m.heap[entry]? = some (.function (u.main row stmts)) ∧
    ∀ name, m.binding? u.globals name = (u.variables entry).lookup name

section

variable {u : CompiledUnit} {es : List Emission}

/-- A unit stays as long as everything does. -/
theorem Loaded.preserved (h : Loaded u es m) (hm : m.Preserves m') : Loaded u es m' := by
  obtain ⟨entry, row, stmts, hCalls, hEntry, hGlobals⟩ := h
  have hLt : u.globals < m.frames.size := Machine.lt_of_binding? (hGlobals "_warnings")
  exact ⟨entry, row, stmts, hCalls, hm.heap _ _ hEntry,
    fun name => (hm.frames _ hLt name).trans (hGlobals name)⟩

theorem Loaded.isCompiled (h : Loaded u es m) : (isCompiled u).Yields m true m := by
  obtain ⟨entry, row, stmts, -, -, hGlobals⟩ := h
  have hFlag : (globalOf? u compiledFlag).Yields m (some (.bool true)) m :=
    yields_globalOf (hGlobals compiledFlag)
  exact hFlag.bind ((yields_heap m).bind .pure)

theorem keeps_loaded (h : u.globals = m.frames.size) (row : Nat) (stmts : List Stmt) :
    Keeps m (m.loaded u row stmts) := by
  have hNew : m.frames.size ≤ u.globals := Nat.le_of_eq h.symm
  exact (((((Keeps.refl m).withFrame _).assign hNew _ _).assign hNew _ _).withObject _ |>.assign
    hNew _ _).assign hNew _ _

theorem loaded_loaded (h : u.globals = m.frames.size) (row : Nat) {stmts : List Stmt}
    (hCalls : List.Forall₂ IsCall es stmts) : Loaded u es (m.loaded u row stmts) := by
  refine ⟨m.heap.size, row, stmts, hCalls, m.heap_withObject_self _, fun name => ?_⟩
  have hNew : (m.withFrame (moduleVariables u.namespaceId u.fileName)).frames[u.globals]? =
      some (moduleVariables u.namespaceId u.fileName) := by
    rw [h]
    exact Array.getElem?_push_size
  have hFrame : (m.loaded u row stmts).frames[u.globals]? = some (u.variables m.heap.size) :=
    frame_assign (frame_define (frame_assign (frame_assign hNew "_warnings"
      (.module .warnings)) "_UndefinedValueWarning" (.errorClass .undefinedValueWarning)) entryPoint
      (.function (u.main row stmts))) compiledFlag (.bool true)
  rw [Machine.binding?, hFrame]
  rfl

end

/-- **Loading the program of a template that only substitutes** runs its imports and defines its
entry point. -/
theorem load_program (call : Caller W) (namespaceId : String) (fileName : List Char)
    (lineOffset : Int) {program : List Char} (hClean : Clean program) {row : Nat}
    {es : List Emission} {stmts : List Stmt} (hCalls : List.Forall₂ IsCall es stmts)
    (hParse : parse program = .ok (programStmts row (helperStmts ++ stmts))) (m : Machine W) :
    ∃ u m', (load call namespaceId program fileName lineOffset).Yields m u m' ∧
      u.lineOffset = lineOffset ∧ Loaded u es m' ∧ Keeps m m' := by
  let u : CompiledUnit := ⟨namespaceId, fileName, m.frames.size, lineOffset⟩
  have hRun : (runBlock call u.context (programStmts row (helperStmts ++ stmts))).Yields
      (m.withFrame (moduleVariables namespaceId fileName)) .next (m.loaded u row stmts) :=
    runBlock_next (run_importWarnings call u.context _)
      (runBlock_next (run_importCategory call u.context _)
        (runBlock_next (run_function 6 mainSignature (mainBody row stmts) _)
          (runBlock_next (run_assign (eval_bool true _)) (runBlock_nil _))))
  have hNoNull : ¬ program.contains '\x00' = true := by
    rw [List.contains_iff_mem]
    exact hClean.2
  refine ⟨u, m.loaded u row stmts, ?_, rfl, loaded_loaded rfl row hCalls, keeps_loaded rfl row stmts⟩
  unfold load
  rw [if_neg hNoNull]
  refine (yields_newFrame (moduleVariables namespaceId fileName) m).bind ?_
  rw [hParse]
  exact hRun.settle.bind .pure

/-- Options as an object, with their parameters as another. -/
theorem newOptions_keeps (o : Options Value) (m : Machine W) :
    ∃ a p path m', (newOptions o).Yields m (.ref a) m' ∧
      m'.heap[a]? = some (.options o p path) ∧
      m'.heap[p]? = some (.dict (o.params.map fun p => (.text p.1, p.2))) ∧ Keeps m m' := by
  let m₁ := m.withObject (.dict (o.params.map fun p => (.text p.1, p.2)))
  let m₂ := m₁.withObject (.list (o.path.map .text))
  let m₃ := m₂.withObject (.options o m.heap.size m₁.heap.size)
  have hOptions : (newOptions o).Yields m (.ref m₂.heap.size) m₃ :=
    (yields_allocate _ m).bind ((yields_allocate _ m₁).bind (yields_newObject _ m₂))
  refine ⟨_, m.heap.size, m₁.heap.size, m₃, hOptions, m₂.heap_withObject_self _, ?_, ?_⟩
  · exact Machine.heap_withObject (Machine.heap_withObject (m.heap_withObject_self _) _) _
  · exact (((Keeps.refl m).withObject _).withObject _).withObject _

/-! ## Executing -/

section

variable {s : Scene W} {row : Nat} {stmts : List Stmt}

/-- The entry point of a unit is found among its global variables. -/
theorem Ready.perform_callEntry (h : Ready s row stmts) (call : Caller W) :
    (callEntry call s.unit s.options (.ref s.params)).perform s.before =
      (call (.ref s.entry) ⟨[s.options, .ref s.params], []⟩ []).perform s.before := by
  have hFound : (globalOf? s.unit entryPoint).Yields s.before (some (.ref s.entry)) s.before :=
    yields_globalOf (h.globals entryPoint)
  have hCallable : (Value.ref s.entry).callable s.before.heap = true := by
    simp only [Value.callable, h.entry]
  refine (hFound.perform_bind _).trans (((yields_heap s.before).perform_bind _).trans ?_)
  rw [if_pos hCallable]

/-- What the unit of a template that only substitutes answers. -/
theorem execute_unit (host : Host W) (depth : Nat) (h : Ready s row stmts) {es : List Emission}
    (hCalls : List.Forall₂ IsCall es stmts) (hAdmits : ∀ e ∈ es, s.Admits (emitted? s.values e))
    {o : Output} (ho : o = es.foldl (Output.emit s.values) ⟨[], s.before.warnings, s.before.issued⟩) :
    ∃ m', (execute (callAt host (depth + 4)) s.unit s.options (.ref s.params)).Yields s.before
        (.text o.texts.flatten) m' ∧ Shows s o m' := by
  obtain ⟨m', hCall, hShows⟩ := call_main host depth h hCalls hAdmits ho
  have hEntered : (callEntry (callAt host (depth + 4)) s.unit s.options (.ref s.params)).Yields
      s.before (.text o.texts.flatten) m' := (h.perform_callEntry _).trans hCall
  exact ⟨m', hEntered.settle.bind .pure, hShows⟩

end

end Stencil.Script
