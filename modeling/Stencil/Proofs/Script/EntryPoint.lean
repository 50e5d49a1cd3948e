import Stencil.Proofs.Script.Helper

/-!
# Running an entry point

The entry point of a template that only substitutes sets the scene, runs the statements of its
emissions one after the other, and answers with the texts that have been put out.

* `Ready.shows`: the scene is set.
* `Shows.run_calls`: the statements of emissions change the output emission by emission.
* `call_main`: what the entry point answers, and the warnings that it has issued.
-/

namespace Stencil.Script

open Program Run

variable {W α β : Type} {m m' m'' : Machine W} (host : Host W) (depth : Nat)

/-! ## Emissions -/

section

variable {s : Scene W} {o : Output}

theorem Shows.run_call (h : Shows s o m) {e : Emission} (hAdmits : s.Admits (emitted? s.values e))
    (row : Nat) :
    ∃ m', (runStmt (callAt host (depth + 3)) s.context (callStmt row e)).Yields m .next m' ∧
      Shows s (o.emit s.values e) m' := by
  have hRead : ∀ {name : String} {v : Value}, s.localVariables.lookup name = some (some v) →
      (readName s.context name).Yields m v m := fun hv =>
    h.read_main [] rfl (fun b hb => absurd hb List.not_mem_nil) hv
  have hArgs : (evalArgs (callAt host (depth + 3)) s.context row
      [.mk .positional (.text e.argument)] ⟨[], []⟩).Yields m ⟨[.text e.argument], []⟩ m :=
    evalArgs_positional (eval_text _ m) (evalArgs_nil _ _ m)
  have hOne : 1 < roundLimit := by decide
  cases e with
  | echo text =>
    have hTexts : [some text].length < roundLimit := hOne
    obtain ⟨m', hCall, hShows⟩ :=
      h.call_echo host (depth + 1) hTexts (List.forall_mem_singleton.mpr hAdmits) row []
    exact ⟨m', run_expr (eval_call (eval_name (hRead rfl)) hArgs hCall), hShows⟩
  | get name =>
    have hNames : [name].length < roundLimit := hOne
    obtain ⟨m', hCall, hShows⟩ :=
      h.call_get host depth hNames (List.forall_mem_singleton.mpr hAdmits) [row]
    exact ⟨m', run_expr (eval_call (eval_name (hRead rfl)) hArgs hCall), hShows⟩

/-- The statements of some emissions do to the output what the emissions do, in order. -/
theorem Shows.run_calls {es : List Emission} {stmts : List Stmt}
    (hCalls : List.Forall₂ IsCall es stmts) (h : Shows s o m)
    (hAdmits : ∀ e ∈ es, s.Admits (emitted? s.values e)) :
    ∃ m', (runBlock (callAt host (depth + 3)) s.context stmts).Yields m .next m' ∧
      Shows s (es.foldl (Output.emit s.values) o) m' := by
  induction hCalls generalizing o m with
  | nil => exact ⟨m, runBlock_nil m, h⟩
  | @cons e stmt es stmts hCall _ ih =>
    obtain ⟨row, rfl⟩ := hCall
    obtain ⟨m₁, hFirst, h₁⟩ := h.run_call host depth (hAdmits e List.mem_cons_self) row
    obtain ⟨m₂, hRest, h₂⟩ := ih h₁ fun next hNext => hAdmits next (List.mem_cons_of_mem e hNext)
    exact ⟨m₂, runBlock_next hFirst hRest, h₂⟩

end

/-! ## The answer -/

theorem yields_mapM {f : α → Run W β} {g : α → β} {l : List α}
    (h : ∀ a ∈ l, (f a).Yields m (g a) m) : (l.mapM f).Yields m (l.map g) m := by
  induction l with
  | nil => exact .pure
  | cons a l ih =>
    have hRest := ih fun b hb => h b (List.mem_cons_of_mem a hb)
    rw [List.mapM_cons]
    exact (h a List.mem_cons_self).bind (hRest.bind .pure)

theorem intercalate_nil (texts : List (List α)) : List.intercalate [] texts = texts.flatten := by
  induction texts with
  | nil => rfl
  | cons text texts ih =>
    cases texts with
    | nil => rfl
    | cons next texts =>
      rw [List.flatten_cons, ← ih]
      rfl

/-- Texts joined with nothing between them. -/
theorem joinTexts_texts (texts : List (List Char)) (m : Machine W) :
    (joinTexts [] (texts.map .text)).Yields m (.text texts.flatten) m := by
  have hMap : (texts.map Value.text).zipIdx.map (fun p => textOf p.1) = texts := by
    have hFst : (fun p : Value × Nat => textOf p.1) = textOf ∘ Prod.fst := rfl
    rw [hFst, ← List.map_map, List.zipIdx_map_fst, List.map_map]
    exact List.map_id texts
  have hJoined : List.intercalate [] ((texts.map Value.text).zipIdx.map fun p => textOf p.1) =
      texts.flatten := by
    rw [hMap, intercalate_nil]
  rw [← hJoined]
  refine Yields.bind (yields_mapM (g := fun p => textOf p.1) fun p hp => ?_) .pure
  obtain ⟨v, i⟩ := p
  obtain ⟨text, -, rfl⟩ := List.mem_map.mp (List.fst_mem_of_mem_zipIdx hp)
  exact .pure

theorem applyMethod_join {a : Address} {texts : List (List Char)}
    (h : m.heap[a]? = some (.list (texts.map .text))) :
    (applyMethod .join (.text []) ⟨[.ref a], []⟩).Yields m (.text texts.flatten) m := by
  have hSelf : (object? (.text [])).Yields m none m := yields_object? rfl
  have hType : (typeOf (.text [])).Yields m "str" m := yields_typeOf (.text []) m
  refine hSelf.bind (hType.bind ((yields_noNamed _ _ m).bind ?_))
  exact (items?_list h).bind (joinTexts_texts texts m)

/-- The `return` of an entry point answers with all that has been put out. -/
theorem Shows.answer {s : Scene W} {o : Output} (h : Shows s o m) (row : Nat) :
    ∃ m', (runStmt (callAt host (depth + 1)) s.context (returnStmt row)).Yields m
        (.return (.text o.texts.flatten)) m' ∧ Shows s o m' := by
  let m₁ := m.withObject (.method .join (.text []))
  have h₁ : Shows s o m₁ := h.withObject _
  have hOut : (readName s.context "_out").Yields m₁ (.ref s.out) m₁ :=
    h₁.read_main [] rfl (fun b hb => absurd hb List.not_mem_nil) rfl
  exact ⟨m₁, run_return (eval_call (eval_member (eval_text [] m) (memberOf_join [] m))
    (evalArgs_positional (eval_name hOut) (evalArgs_nil _ _ m₁))
    (call_method (m.heap_withObject_self _) (applyMethod_join h₁.out) _)), h₁⟩

/-! ## The helpers -/

/-- Gives a variable a new object as its value. -/
def Machine.define (m : Machine W) (a : Address) (name : String) (object : Object) : Machine W :=
  (m.withObject object).assign a name (.ref m.heap.size)

theorem Machine.Preserves.define (h : m.Preserves m') {a : Address} (ha : m.frames.size ≤ a)
    (name : String) (object : Object) : m.Preserves (m'.define a name object) :=
  (h.withObject object).assign ha name _

theorem heap_define {b : Address} {object : Object} (h : m.heap[b]? = some object) (a : Address)
    (name : String) (new : Object) : (m.define a name new).heap[b]? = some object :=
  Machine.heap_withObject h new

theorem size_define (m : Machine W) (a : Address) (name : String) (object : Object) :
    (m.define a name object).heap.size = m.heap.size + 1 := Array.size_push object

theorem heap_define_self (m : Machine W) (a : Address) (name : String) (object : Object) :
    (m.define a name object).heap[m.heap.size]? = some object := m.heap_withObject_self object

theorem frame_define {a : Address} {f : Frame} (h : m.frames[a]? = some f) (name : String)
    (object : Object) : (m.define a name object).frames[a]? =
      some (setVariable.assign name (some (.ref m.heap.size)) f) := by
  have hModify : (m.frames.modify a fun f =>
      setVariable.assign name (some (.ref m.heap.size)) f)[a]? =
        some (setVariable.assign name (some (.ref m.heap.size)) f) := by
    rw [Array.getElem?_modify, if_pos rfl, h]
    rfl
  exact hModify

/-- The machine in which the helpers have been defined. -/
def Machine.withHelpers (m : Machine W) (ctx : Context) : Machine W :=
  let helper := fun name rest body => Object.function (ctx.closure (helperSignature name rest) body)
  ((((m.define ctx.target "_out" (.list [])).define
    ctx.target "_echo" (helper "_echo" "values" echoBody)).define
    ctx.target "_echoifdef" (helper "_echoifdef" "values" echoIfDefinedBody)).define
    ctx.target "_get" (helper "_get" "names" getBody)).define
    ctx.target "_getifdef" (helper "_getifdef" "names" getIfDefinedBody)

theorem run_helpers (call : Caller W) (ctx : Context) (m : Machine W) :
    (runBlock call ctx helperStmts).Yields m .next (m.withHelpers ctx) :=
  runBlock_next (run_assign (eval_emptyList 7 m))
    (runBlock_next (run_function 9 _ echoBody _) (runBlock_next (run_function 20 _ _ _)
      (runBlock_next (run_function 23 _ _ _) (runBlock_next (run_function 26 _ _ _)
        (runBlock_nil _)))))

/-! ## The entry point -/

theorem assignedIn_append (names : List String) (first second : List Stmt) :
    assignedIn names (first ++ second) = assignedIn (assignedIn names first) second := by
  induction first generalizing names with
  | nil => rfl
  | cons s first ih => exact ih (assignedBy names s)

theorem assignedIn_calls {es : List Emission} {stmts : List Stmt} (h : List.Forall₂ IsCall es stmts)
    (names : List String) : assignedIn names stmts = names := by
  induction h with
  | nil => rfl
  | cons hCall _ ih =>
    obtain ⟨row, rfl⟩ := hCall
    exact ih

/-- The body of an entry point. -/
def mainBody (row : Nat) (stmts : List Stmt) : List Stmt := helperStmts ++ stmts ++ [returnStmt row]

/-- Statements of emissions assign nothing. -/
theorem localNames_main {es : List Emission} {stmts : List Stmt} (h : List.Forall₂ IsCall es stmts)
    (row : Nat) : localNames mainSignature (mainBody row stmts) =
      ["_options", "_params", "_out", "_echo", "_echoifdef", "_get", "_getifdef"] := by
  rw [localNames, mainBody, assignedIn_append, assignedIn_append, assignedIn_calls h]
  rfl

/-- The context of a module. -/
def CompiledUnit.context (u : CompiledUnit) : Context := ⟨u.globals, [], "", []⟩

/-- The entry point as a function. -/
def CompiledUnit.main (u : CompiledUnit) (row : Nat) (stmts : List Stmt) : Closure :=
  u.context.closure mainSignature (mainBody row stmts)

/-- The variables of the entry point when it is called. -/
def Scene.parameters (s : Scene W) : Frame :=
  [("_options", some s.options), ("_params", some (.ref s.params)), ("_out", none),
    ("_echo", none), ("_echoifdef", none), ("_get", none), ("_getifdef", none)]

/-- What an entry point with some statements needs in order to be called. -/
structure Ready (s : Scene W) (row : Nat) (stmts : List Stmt) : Prop where
  globals : ∀ name,
    s.before.binding? s.unit.globals name = (s.unit.variables s.entry).lookup name
  params : s.before.heap[s.params]? = some (.dict (textEntries s.values))
  entry : s.before.heap[s.entry]? = some (.function (s.unit.main row stmts))

theorem Ready.shows {s : Scene W} {row : Nat} {stmts : List Stmt} (h : Ready s row stmts) :
    Shows s ⟨[], s.before.warnings, s.before.issued⟩
      ((s.before.withFrame s.parameters).withHelpers s.context) := by
  let helper := fun name rest body => Object.function (s.helper name rest body)
  let m₀ := s.before.withFrame s.parameters
  let m₁ := m₀.define s.main "_out" (.list [])
  let m₂ := m₁.define s.main "_echo" (helper "_echo" "values" echoBody)
  let m₃ := m₂.define s.main "_echoifdef" (helper "_echoifdef" "values" echoIfDefinedBody)
  let m₄ := m₃.define s.main "_get" (helper "_get" "names" getBody)
  let m₅ := m₄.define s.main "_getifdef" (helper "_getifdef" "names" getIfDefinedBody)
  have hSize₀ : m₀.heap.size = s.out := rfl
  have hSize₁ : m₁.heap.size = s.out + 1 := (size_define ..).trans (congrArg (· + 1) hSize₀)
  have hSize₂ : m₂.heap.size = s.out + 2 := (size_define ..).trans (congrArg (· + 1) hSize₁)
  have hSize₃ : m₃.heap.size = s.out + 3 := (size_define ..).trans (congrArg (· + 1) hSize₂)
  have hSize₄ : m₄.heap.size = s.out + 4 := (size_define ..).trans (congrArg (· + 1) hSize₃)
  -- All that is new stands behind what was there before.
  have hNew : s.before.frames.size ≤ s.main := Nat.le_refl _
  have hOld : s.before.Preserves m₅ := ((((((Machine.Preserves.refl s.before).withFrame
    s.parameters).define hNew _ _).define hNew _ _).define hNew _ _).define hNew _ _).define hNew _ _
  have hFrame₀ : m₀.frames[s.main]? = some s.parameters := Array.getElem?_push_size
  have hFrame₅ : m₅.frames[s.main]? = some s.localVariables := by
    have hFrame := frame_define (frame_define (frame_define (frame_define (frame_define hFrame₀
      "_out" (.list [])) "_echo" (helper "_echo" "values" echoBody))
      "_echoifdef" (helper "_echoifdef" "values" echoIfDefinedBody))
      "_get" (helper "_get" "names" getBody)) "_getifdef"
      (helper "_getifdef" "names" getIfDefinedBody)
    rw [hSize₀, hSize₁, hSize₂, hSize₃, hSize₄] at hFrame
    exact hFrame
  refine ⟨hOld, rfl, fun name => ?_, fun name => ?_, ?_, ?_, ?_, hOld.heap _ _ h.params, rfl, rfl⟩
  · have hGlobals : s.unit.globals < s.before.frames.size :=
      Machine.lt_of_binding? (h.globals "_warnings")
    exact (hOld.frames _ hGlobals name).trans (h.globals name)
  · show ((m₅.frames[s.main]?).getD []).lookup name = _
    rw [hFrame₅]
    rfl
  · have hList := heap_define_self m₀ s.main "_out" (.list [])
    exact heap_define (heap_define (heap_define (heap_define hList _ _ _) _ _ _) _ _ _) _ _ _
  · have hEcho := heap_define_self m₁ s.main "_echo" (helper "_echo" "values" echoBody)
    rw [hSize₁] at hEcho
    exact heap_define (heap_define (heap_define hEcho _ _ _) _ _ _) _ _ _
  · have hGet := heap_define_self m₃ s.main "_get" (helper "_get" "names" getBody)
    rw [hSize₃] at hGet
    exact heap_define hGet _ _ _

/-! ## Calling an entry point -/

section

variable {s : Scene W} {es : List Emission} {stmts : List Stmt} {row : Nat}

theorem bind_main (s : Scene W) (row : Nat) (stmts : List Stmt) (m : Machine W) :
    ((s.unit.main row stmts).parameters.bind ⟨[s.options, .ref s.params], []⟩).Yields m
      [("_options", s.options), ("_params", .ref s.params)] m := rfl

theorem variables_main (s : Scene W) (row : Nat) (hCalls : List.Forall₂ IsCall es stmts) :
    (s.unit.main row stmts).locals.map (fun name =>
      (name, [("_options", s.options), ("_params", Value.ref s.params)].lookup name)) =
        s.parameters := by
  show (localNames mainSignature (mainBody row stmts)).map _ = _
  rw [localNames_main hCalls]
  rfl

/-- **What the entry point of a template that only substitutes answers**: the texts that its
emissions put out, one after the other. -/
theorem call_main (h : Ready s row stmts) (hCalls : List.Forall₂ IsCall es stmts)
    (hAdmits : ∀ e ∈ es, s.Admits (emitted? s.values e)) {o : Output}
    (ho : o = es.foldl (Output.emit s.values) ⟨[], s.before.warnings, s.before.issued⟩) :
    ∃ m', (callAt host (depth + 4) (.ref s.entry) ⟨[s.options, .ref s.params], []⟩ []).Yields
        s.before (.text o.texts.flatten) m' ∧ Shows s o m' := by
  have hHelpers :=
    run_helpers (callAt host (depth + 3)) s.context (s.before.withFrame s.parameters)
  obtain ⟨m₁, hRun, h₁⟩ := h.shows.run_calls host depth hCalls hAdmits
  obtain ⟨m₂, hReturn, h₂⟩ := h₁.answer host (depth + 2) row
  have hBody := runBlock_append (runBlock_append hHelpers hRun) (runBlock_return hReturn [])
  rw [← ho] at hBody h₂
  refine ⟨m₂, call_function h.entry (enter_return (bind_main s row stmts s.before) ?_), h₂⟩
  rw [variables_main s row hCalls]
  exact hBody

end

end Stencil.Script
