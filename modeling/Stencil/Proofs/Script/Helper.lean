import Stencil.Proofs.Script.Scene

/-!
# What the helpers do

`_echo` goes through its arguments and puts out each of them, or warns if there is nothing to put
out. `_get` looks its arguments up among the parameters and hands the values on to `_echo`. Both
take any number of arguments.

* `Shows.call_echo`: a call of `_echo`.
* `Shows.call_get`: a call of `_get`.
-/

namespace Stencil.Script

open Program Run

variable {W : Type} {s : Scene W} {o : Output} {m : Machine W} {ctx : Context} {a : Address}
  {line : Nat} {lines : List Nat}

/-- A text that may be missing, as a value. -/
def textValue : Option (List Char) → Value
  | some text => .text text
  | none => .none

/-! ## Entering a helper -/

/-- The machine in which a helper has been entered: the arguments are a tuple of their own, and the
helper has variables of its own. -/
def Machine.entered (m : Machine W) (positional : List Value) (rest : String)
    (names : List String) : Machine W :=
  (m.withObject (.tuple positional)).withFrame (names.map fun n =>
    (n, [(rest, Value.ref m.heap.size)].lookup n))

theorem binding?_entered (m : Machine W) (positional : List Value) (rest : String)
    (names : List String) :
    (m.entered positional rest (rest :: names)).binding? m.frames.size rest =
      some (some (.ref m.heap.size)) := by
  have hFrame := Machine.binding?_withFrame_self (m.withObject (.tuple positional))
    ((rest :: names).map fun n => (n, [(rest, Value.ref m.heap.size)].lookup n)) rest
  refine hFrame.trans ?_
  rw [List.map_cons, Frame.lookup_cons, if_pos rfl, List.lookup_cons_self]

/-- The tuple of the arguments can be visited. -/
theorem cursor_entered (m : Machine W) (positional : List Value) (rest : String)
    (names : List String) :
    (cursor (.ref m.heap.size)).Yields (m.entered positional rest names) (.values positional)
      (m.entered positional rest names) := cursor_tuple (m.heap_withObject_self _)

theorem Shows.entered (h : Shows s o m) (positional : List Value) (rest : String)
    (names : List String) : Shows s o (m.entered positional rest names) :=
  (h.withObject _).withFrame _

theorem Shows.inside_entered (h : Shows s o m) (positional : List Value) (rest : String)
    (names : List String) : Inside s m.frames.size names (m.entered positional rest names) :=
  (h.withObject _).inside names _

/-- Where a helper runs that is called. -/
def Scene.inner (s : Scene W) (m : Machine W) (name : String) (lines : List Nat) : Context :=
  ⟨s.unit.globals, [m.frames.size, s.main], "_main.<locals>." ++ name ++ ".<locals>.", lines⟩

/-- A call of a helper whose body goes on to its end. -/
theorem call_helper (host : Host W) (depth : Nat) {b : Address} {name rest : String}
    {body : List Stmt} (h : m.heap[b]? = some (.function (s.helper name rest body))) {m' : Machine W}
    {positional : List Value} (hBody : (runBlock (callAt host depth) (s.inner m name lines)
        body).Yields
      (m.entered positional rest (s.helper name rest body).locals) .next m') :
    (callAt host (depth + 1) (.ref b) ⟨positional, []⟩ lines).Yields m .none m' :=
  call_function h (enter_next (bind_rest _ rest positional m) hBody)

/-! ## Putting out values -/

section

variable (host : Host W) (depth : Nat)

/-- The function that warns, and what it is told about a value that is not there. -/
theorem Shows.eval_warn (call : Caller W) (h : Shows s o m) (hGlobals : ctx.globals = s.unit.globals)
    (hScopes : ctx.scopes = [a, s.main]) (hInside : Inside s a ["values", "value"] m) :
    (evalExpr call ctx (.member 12 (.name 12 "_warnings") "warn")).Yields m (.builtin .warn) m ∧
      (evalArgs call ctx 12
        [.mk .positional (.text "use of undefined value in template output".toList),
          .mk .positional (.name 14 "_UndefinedValueWarning"),
          .mk (.named "stacklevel") (.int 2)] ⟨[], []⟩).Yields m
        ⟨undefinedValue.2 ++ [.errorClass undefinedValue.1], [("stacklevel", .int 2)]⟩ m := by
  have hGlobal : ∀ {name : String} {v : Value}, name ∉ ["values", "value"] →
      s.localVariables.lookup name = none → (s.unit.variables s.entry).lookup name = some (some v) →
      (readName ctx name).Yields m v m := by
    intro name v hName hMain hv
    refine readName_global (h.read_noScope [a] hScopes (hInside.unseen hName) hMain) ?_
    rw [hGlobals, h.globals]
    exact hv
  have hModule : (readName ctx "_warnings").Yields m (.module .warnings) m :=
    hGlobal (by decide) rfl rfl
  have hCategory : (readName ctx "_UndefinedValueWarning").Yields m
      (.errorClass .undefinedValueWarning) m := hGlobal (by decide) rfl rfl
  exact ⟨eval_member (eval_name hModule) (memberOf_module rfl m),
    evalArgs_positional (eval_text _ m) (evalArgs_positional (eval_name hCategory)
      (evalArgs_named (eval_int 2 m) List.not_mem_nil (evalArgs_nil _ _ m)))⟩

/-- A value that is not there is warned about, on the line of the call. -/
theorem Shows.run_warn (h : Shows s o m) (hLenient : s.before.strict = false)
    (hGlobals : ctx.globals = s.unit.globals) (hScopes : ctx.scopes = [a, s.main])
    (hLines : ctx.lines = line :: lines) (hInside : Inside s a ["values", "value"] m) :
    (runStmt (callAt host (depth + 1)) ctx warnStmt).Yields m .next
      (m.warned undefinedValue.1 undefinedValue.2 line) := by
  obtain ⟨hFunction, hArgs⟩ := h.eval_warn (callAt host (depth + 1)) hGlobals hScopes hInside
  have hWarn : (applyWarn ⟨undefinedValue.2 ++ [.errorClass undefinedValue.1],
      [("stacklevel", .int 2)]⟩ (12 :: ctx.lines)).Yields m .none
      (m.warned undefinedValue.1 undefinedValue.2 line) := by
    rw [hLines]
    exact (yields_warn (h.old.strict.trans hLenient) undefinedValue.1 undefinedValue.2 line).bind .pure
  exact run_expr (eval_call hFunction hArgs (call_warn hWarn))

/-- A text is added to the texts. -/
theorem Shows.run_append (h : Shows s o m) (hGlobals : ctx.globals = s.unit.globals)
    (hScopes : ctx.scopes = [a, s.main]) (hInside : Inside s a ["values", "value"] m)
    {text : List Char} (hValue : m.binding? a "value" = some (some (.text text))) :
    (runStmt (callAt host (depth + 1)) ctx appendStmt).Yields m .next
      ((m.withObject (.method .append (.ref s.out))).putObject s.out
        (.list (o.texts.map .text ++ [.text text]))) := by
  have hOut : (readName ctx "_out").Yields m (.ref s.out) m :=
    h.read_main [a] hScopes (hInside.unseen (by decide)) rfl
  have hMember := memberOf_append h.out
  -- The function that appends is an object of its own.
  let m₁ := m.withObject (.method .append (.ref s.out))
  have h₁ : Shows s o m₁ := h.withObject _
  have hInside₁ : Inside s a ["values", "value"] m₁ := hInside.withObject _
  have hStr : (readName ctx "str").Yields m₁ (.builtin .str) m₁ := by
    refine readName_builtin (h₁.read_noScope [a] hScopes (hInside₁.unseen (by decide)) rfl) ?_ rfl
    rw [hGlobals, h₁.globals]
    rfl
  have hValue₁ : m₁.binding? a "value" = some (some (.text text)) := hValue
  have hText : (readName ctx "value").Yields m₁ (.text text) m₁ := by
    refine readName_local ?_
    rw [hScopes]
    exact readScopes_here hValue₁ true [s.main]
  have hCallStr : (evalExpr (callAt host (depth + 1)) ctx
      (.call 18 (.name 18 "str") [.mk .positional (.name 18 "value")])).Yields m₁ (.text text) m₁ :=
    eval_call (eval_name hStr) (evalArgs_positional (eval_name hText) (evalArgs_nil _ _ m₁))
      (call_str text _ m₁)
  have hAppend := applyMethod_append h₁.out (.text text)
  exact run_expr (eval_call (eval_member (eval_name hOut) hMember)
    (evalArgs_positional hCallStr (evalArgs_nil _ _ m₁))
    (call_method (m.heap_withObject_self _) hAppend _))

/-- The variable of the loop over the values to put out. -/
theorem Inside.write_value (hInside : Inside s a ["values", "value"] m)
    (hScopes : ctx.scopes = [a, s.main]) (v : Value) :
    (writeName ctx "value" v).Yields m () (m.assign a "value" v) ∧
      (m.assign a "value" v).binding? a "value" = some (some v) := by
  have hTarget : ctx.target = a := by
    rw [Context.target, hScopes]
    rfl
  refine ⟨?_, by rw [Machine.binding?_assign_self hInside.exist, if_pos rfl]⟩
  rw [writeName, hTarget]
  exact yields_setVariable a "value" v m

/-- The test of a round: whether there is nothing to put out. -/
theorem eval_missing (call : Caller W) (hScopes : ctx.scopes = [a, s.main])
    {text? : Option (List Char)}
    (hKnown : m.binding? a "value" = some (some (textValue text?))) :
    (evalExpr call ctx (.compare 11 (.name 11 "value") [.mk .same .none])).Yields m
      (.bool text?.isNone) m := by
  have hValue : (readName ctx "value").Yields m (textValue text?) m := by
    refine readName_local ?_
    rw [hScopes]
    exact readScopes_here hKnown true [s.main]
  have hSame : (textValue text?).same m.heap .none = text?.isNone := by
    cases text? with
    | none => rfl
    | some text => rfl
  exact hSame ▸ eval_isNone (eval_name hValue)

/-- A round of the loop over the values to put out. -/
theorem Shows.run_echoRound (h : Shows s o m) (hGlobals : ctx.globals = s.unit.globals)
    (hScopes : ctx.scopes = [a, s.main]) (hLines : ctx.lines = line :: lines)
    (hInside : Inside s a ["values", "value"] m) {text? : Option (List Char)}
    (hAdmits : s.Admits text?) :
    ∃ m', (do
        writeName ctx "value" (textValue text?)
        runBlock (callAt host (depth + 1)) ctx echoRound : Run W Flow).Yields m .next m' ∧
      Shows s (o.echo line text?) m' ∧ Inside s a ["values", "value"] m' := by
  obtain ⟨hWrite, hKnown⟩ := hInside.write_value hScopes (textValue text?)
  have hTest := eval_missing (callAt host (depth + 1)) hScopes hKnown
  have h₁ : Shows s o (m.assign a "value" (textValue text?)) := h.assign hInside _ _
  have hInside₁ : Inside s a ["values", "value"] (m.assign a "value" (textValue text?)) :=
    hInside.assign (by decide) _
  cases text? with
  | none =>
    have hLenient : s.before.strict = false := eq_false_of_ne_true fun hStrict => hAdmits hStrict rfl
    have hWarn := h₁.run_warn host depth hLenient hGlobals hScopes hLines hInside₁
    exact ⟨_, hWrite.bind (runBlock_next (run_choose hTest (runBlock_next hWarn (runBlock_nil _)))
      (runBlock_nil _)), h₁.warned line, hInside₁.warned _ _ line⟩
  | some text =>
    have hAppend := h₁.run_append host depth hGlobals hScopes hInside₁ hKnown
    exact ⟨_, hWrite.bind (runBlock_next (run_choose hTest (runBlock_next hAppend (runBlock_nil _)))
      (runBlock_nil _)), (h₁.withObject _).append text line, (hInside₁.withObject _).putObject _ _⟩

/-- What a call with some values that may be missing puts out. -/
def Output.echoAll (line : Nat) (o : Output) (texts : List (Option (List Char))) : Output :=
  texts.foldl (Output.echo line) o

/-- A call of `_echo` puts out its arguments. -/
theorem Shows.call_echo (h : Shows s o m) {texts : List (Option (List Char))}
    (hTexts : texts.length < roundLimit) (hAdmits : ∀ text? ∈ texts, s.Admits text?) (line : Nat)
    (lines : List Nat) :
    ∃ m', (callAt host (depth + 2) (.ref (s.out + 1)) ⟨texts.map textValue, []⟩
        (line :: lines)).Yields m .none m' ∧ Shows s (o.echoAll line texts) m' := by
  let ctx : Context := s.inner m "_echo" (line :: lines)
  let m₁ := m.entered (texts.map textValue) "values" ["values", "value"]
  have hValues : (readName ctx "values").Yields m₁ (.ref m.heap.size) m₁ :=
    readName_local (readScopes_here (binding?_entered m _ "values" ["value"]) true [s.main])
  -- What is left of the texts completes the output.
  let Inv : List Value → Machine W → Prop := fun vs n =>
    ∃ left o', vs = left.map textValue ∧ (∀ text? ∈ left, s.Admits text?) ∧
      o'.echoAll line left = o.echoAll line texts ∧ Shows s o' n ∧
      Inside s m.frames.size ["values", "value"] n
  have hRound : ∀ v rest n, Inv (v :: rest) n → ∃ n', (do
      writeName ctx "value" v
      runBlock (callAt host (depth + 1)) ctx echoRound : Run W Flow).Yields n .next n' ∧
        Inv rest n' := by
    rintro v rest n ⟨left, o', hMap, hAll, hLeft, hShows, hIn⟩
    cases left with
    | nil => cases hMap
    | cons text? left =>
      obtain ⟨rfl, rfl⟩ := List.cons_eq_cons.mp hMap
      obtain ⟨n', hRun, hShows', hIn'⟩ := hShows.run_echoRound host depth (rfl : ctx.globals = _)
        rfl rfl hIn (hAll text? List.mem_cons_self)
      exact ⟨n', hRun, left, o'.echo line text?, rfl,
        fun next? hNext => hAll next? (List.mem_cons_of_mem text? hNext), hLeft, hShows', hIn'⟩
  have hStart : Inv (texts.map textValue) m₁ :=
    ⟨texts, o, rfl, hAdmits, rfl, h.entered _ _ _, h.inside_entered _ _ _⟩
  have hRounds : (texts.map textValue).length < roundLimit := by
    rw [List.length_map]
    exact hTexts
  obtain ⟨m₂, hLoop, left, o', hMap, -, hLeft, h₂, -⟩ :=
    forEach_values (ctx.step 10) hRound hRounds hStart
  obtain rfl : left = [] := List.map_eq_nil_iff.mp hMap.symm
  obtain rfl : o' = o.echoAll line texts := hLeft
  have hBody : (runBlock (callAt host (depth + 1)) ctx echoBody).Yields m₁ .next m₂ :=
    runBlock_next (run_each (eval_name hValues) (cursor_entered m _ _ _) hLoop) (runBlock_nil m₂)
  exact ⟨m₂, call_helper host (depth + 1) h.echo hBody, h₂⟩

/-! ## Putting out parameters -/

theorem lookup?_textEntries (heap : Heap) (values : Entries (List Char)) (name : List Char) :
    (Value.lookup? heap (.text name) (textEntries values)).getD .none =
      textValue (values.get? name) := by
  induction values with
  | nil => rfl
  | cons p values ih =>
    obtain ⟨n, v⟩ := p
    have hSame : (Value.text n).isSameItem heap (.text name) = decide (n = name) := rfl
    rw [Entries.get?_cons, textEntries, List.map_cons, Value.lookup?, List.find?_cons, hSame]
    by_cases hn : n = name
    · rw [decide_eq_true hn, if_pos hn.symm]
      rfl
    · rw [decide_eq_false hn, if_neg (Ne.symm hn)]
      exact ih

/-- The value of a parameter that is asked for. -/
theorem Shows.eval_ask (h : Shows s o m) {b : Address} (hScopes : ctx.scopes = [b, a, s.main])
    (hInside : Inside s a ["names"] m) (hInner : Inside s b ["name"] m) {name : List Char}
    (hName : m.binding? b "name" = some (some (.text name))) :
    (evalExpr (callAt host (depth + 1)) ctx askExpr).Yields m (textValue (s.values.get? name))
      (m.withObject (.method .get (.ref s.params))) := by
  have hParams : (readName ctx "_params").Yields m (.ref s.params) m := by
    refine h.read_main [b, a] hScopes (fun c hc => ?_) rfl
    rcases List.mem_cons.mp hc with rfl | hc
    · exact hInner.foreign "_params" (by decide)
    · exact hInside.unseen (by decide) c hc
  -- The function that looks a name up is an object of its own.
  let m₁ := m.withObject (.method .get (.ref s.params))
  have h₁ : Shows s o m₁ := h.withObject _
  have hName₁ : m₁.binding? b "name" = some (some (.text name)) := hName
  have hText : (readName ctx "name").Yields m₁ (.text name) m₁ := by
    refine readName_local ?_
    rw [hScopes]
    exact readScopes_here hName₁ true [a, s.main]
  have hGet := applyMethod_get h₁.params name
  rw [lookup?_textEntries] at hGet
  exact eval_call (eval_member (eval_name hParams) (memberOf_get h.params))
    (evalArgs_positional (eval_name hText) (evalArgs_nil _ _ m₁))
    (call_method (m.heap_withObject_self _) hGet _)

/-- A round in which a parameter is looked up. -/
theorem Shows.run_askRound (h : Shows s o m) {b : Address} (hScopes : ctx.scopes = [b, a, s.main])
    (hNe : a ≠ b) (hInside : Inside s a ["names"] m) (hInner : Inside s b ["name"] m)
    (name : List Char) :
    ∃ m', (do
        setVariable b "name" (some (.text name))
        return some (← evalExpr (callAt host (depth + 1)) ctx askExpr) :
          Run W (Option Value)).Yields m (some (textValue (s.values.get? name))) m' ∧
      Shows s o m' ∧ Inside s a ["names"] m' ∧ Inside s b ["name"] m' := by
  let m₁ := m.assign b "name" (.text name)
  have h₁ : Shows s o m₁ := h.assign hInner "name" (.text name)
  have hInside₁ : Inside s a ["names"] m₁ := hInside.assign_other hNe "name" (.text name)
  have hInner₁ : Inside s b ["name"] m₁ := hInner.assign (by decide) (.text name)
  have hKnown : m₁.binding? b "name" = some (some (.text name)) := by
    rw [Machine.binding?_assign_self hInner.exist, if_pos rfl]
  have hAsk := h₁.eval_ask host depth hScopes hInside₁ hInner₁ hKnown
  exact ⟨_, (yields_setVariable b "name" (.text name) m).bind (hAsk.bind .pure),
    h₁.withObject _, hInside₁.withObject _, hInner₁.withObject _⟩

/-- The text that a value is. -/
def textOf : Value → List Char
  | .text s => s
  | _ => []

/-- The list of the values of parameters that are asked for. -/
theorem Shows.eval_asked (h : Shows s o m) (hScopes : ctx.scopes = [a, s.main])
    (hInside : Inside s a ["names"] m) {v : Value} {names : List (List Char)}
    (hItems : (readName ctx "names").Yields m v m)
    (hCursor : (cursor v).Yields m (.values (names.map .text)) m)
    (hNames : names.length < roundLimit) :
    ∃ b m', (evalExpr (callAt host (depth + 1)) ctx
        (.listFor askLine askExpr "name" (.name askLine "names") [])).Yields m (.ref b) m' ∧
      m'.heap[b]? = some (.list ((names.map s.values.get?).map textValue)) ∧ Shows s o m' := by
  -- The list has a variable of its own.
  let inner : Context :=
    { ctx with scopes := m.frames.size :: ctx.scopes, lines := askLine :: ctx.lines }
  have hInnerScopes : inner.scopes = [m.frames.size, a, s.main] :=
    congrArg (m.frames.size :: ·) hScopes
  let m₁ := m.withFrame [("name", none)]
  let found (v : Value) : Value := textValue (s.values.get? (textOf v))
  let Inv : List Value → Machine W → Prop := fun vs n =>
    ∃ left : List (List Char), vs = left.map .text ∧ Shows s o n ∧ Inside s a ["names"] n ∧
      Inside s m.frames.size ["name"] n
  have hRound : ∀ v rest n, Inv (v :: rest) n → ∃ n', (do
      setVariable m.frames.size "name" (some v)
      return some (← evalExpr (callAt host (depth + 1)) inner askExpr) :
        Run W (Option Value)).Yields n (some (found v)) n' ∧ Inv rest n' := by
    rintro v rest n ⟨left, hMap, hShows, hOuter, hOwn⟩
    cases left with
    | nil => cases hMap
    | cons name left =>
      obtain ⟨rfl, rfl⟩ := List.cons_eq_cons.mp hMap
      obtain ⟨n', hRun, hShows', hOuter', hOwn'⟩ := hShows.run_askRound host depth hInnerScopes
        (Nat.ne_of_lt hInside.exist) hOuter hOwn name
      exact ⟨n', hRun, left, rfl, hShows', hOuter', hOwn'⟩
  have hStart : Inv (names.map .text) m₁ :=
    ⟨names, rfl, h.withFrame _, hInside.withFrame _, h.inside ["name"] fun _ => none⟩
  have hRounds : (names.map Value.text).length < roundLimit := by
    rw [List.length_map]
    exact hNames
  obtain ⟨m₂, hCollect, -, -, h₂, -⟩ := collect_values hRound hRounds hStart
  have hFound : (names.map Value.text).map found = (names.map s.values.get?).map textValue := by
    rw [List.map_map, List.map_map]
    rfl
  rw [hFound] at hCollect
  exact ⟨_, _, eval_listFor (eval_name hItems) hCursor hCollect, m₂.heap_withObject_self _,
    h₂.withObject _⟩

/-- What `_get` hands on to `_echo`: the values of the parameters with the names that it gets. -/
theorem Shows.enter_get (h : Shows s o m) {names : List (List Char)}
    (hNames : names.length < roundLimit) (lines : List Nat) :
    ∃ m', (evalExpr (callAt host (depth + 1)) (s.inner m "_get" lines)
        (.name askLine "_echo")).Yields (m.entered (names.map .text) "names" ["names"])
          (.ref (s.out + 1)) (m.entered (names.map .text) "names" ["names"]) ∧
      (evalArgs (callAt host (depth + 1)) (s.inner m "_get" lines) askLine
        [.mk .starred (.listFor askLine askExpr "name" (.name askLine "names") [])]
        ⟨[], []⟩).Yields (m.entered (names.map .text) "names" ["names"])
          ⟨(names.map s.values.get?).map textValue, []⟩ m' ∧ Shows s o m' := by
  let ctx : Context := s.inner m "_get" lines
  let m₁ := m.entered (names.map .text) "names" ["names"]
  have h₁ : Shows s o m₁ := h.entered _ _ _
  have hInside : Inside s m.frames.size ["names"] m₁ := h.inside_entered _ _ _
  have hItems : (readName ctx "names").Yields m₁ (.ref m.heap.size) m₁ :=
    readName_local (readScopes_here (binding?_entered m _ "names" []) true [s.main])
  have hEcho : (readName ctx "_echo").Yields m₁ (.ref (s.out + 1)) m₁ :=
    h₁.read_main [m.frames.size] rfl (hInside.unseen (by decide)) rfl
  obtain ⟨b, m₂, hList, hFound, h₂⟩ := h₁.eval_asked host depth (rfl : ctx.scopes = _) hInside
    hItems (cursor_entered m _ _ _) hNames
  exact ⟨m₂, eval_name hEcho,
    evalArgs_starred hList (addStarred_list hFound ⟨[], []⟩) (evalArgs_nil _ _ m₂), h₂⟩

/-- A call of `_get` puts out the values of the parameters with the names that it gets. -/
theorem Shows.call_get (h : Shows s o m) {names : List (List Char)}
    (hNames : names.length < roundLimit)
    (hAdmits : ∀ name ∈ names, s.Admits (s.values.get? name)) (lines : List Nat) :
    ∃ m', (callAt host (depth + 3) (.ref (s.out + 3)) ⟨names.map .text, []⟩ lines).Yields m .none m' ∧
      Shows s (o.echoAll askLine (names.map s.values.get?)) m' := by
  obtain ⟨m₂, hEcho, hArgs, h₂⟩ := h.enter_get host (depth + 1) hNames lines
  have hValues : (names.map s.values.get?).length < roundLimit := by
    rw [List.length_map]
    exact hNames
  have hAll : ∀ text? ∈ names.map s.values.get?, s.Admits text? := by
    intro text? hText
    obtain ⟨name, hName, rfl⟩ := List.mem_map.mp hText
    exact hAdmits name hName
  obtain ⟨m₃, hCall, h₃⟩ := h₂.call_echo host depth hValues hAll askLine lines
  have hBody : (runBlock (callAt host (depth + 2)) (s.inner m "_get" lines) getBody).Yields
      (m.entered (names.map .text) "names" ["names"]) .next m₃ :=
    runBlock_next (run_expr (eval_call hEcho hArgs hCall)) (runBlock_nil m₃)
  exact ⟨m₃, call_helper host (depth + 2) h.get hBody, h₃⟩

end

end Stencil.Script
