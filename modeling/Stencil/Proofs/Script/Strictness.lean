import Stencil.Proofs.Script.Failing
import Stencil.Proofs.Script.Loading

/-!
# Warnings that are exceptions

Where warnings are exceptions, `_echo` fails at the first value that is not there, and with it fail
`_get`, the entry point and the unit. The innermost function that the exception leaves is `_echo`,
which stands in front of the template, so the unit reports the template's first line, on whichever
line the value was asked for.

* `Shows.call_echo_refuses`, `Shows.call_get_refuses`: what the helpers do.
* `execute_refuses`: what the unit reports.
-/

namespace Stencil.Script

open Program Run

variable {W : Type} {s : Scene W} {o : Output} {m : Machine W} {ctx : Context} {a : Address}
  {line : Nat} {lines : List Nat} (host : Host W) (depth : Nat)

/-- The line of `_echo` on which it warns. -/
def warnLine : Nat := 12

/-- Whether a fault is the exception of a value that is not there, and `_echo` is the innermost
function of a program that it has left. -/
abbrev Refuses (globals : Address) : Fault → Prop :=
  Fault.IsFrom globals warnLine undefinedValue.1 (.args undefinedValue.2)

/-! ## The helpers -/

theorem call_helper_fails {b : Address} {name rest : String} {body : List Stmt}
    (h : m.heap[b]? = some (.function (s.helper name rest body))) {P : Fault → Prop}
    {positional : List Value} (hBody : (runBlock (callAt host depth) (s.inner m name lines)
        body).Fails (m.entered positional rest (s.helper name rest body).locals) P) :
    (callAt host (depth + 1) (.ref b) ⟨positional, []⟩ lines).Fails m P :=
  call_function_fails h (enter_fails (bind_rest _ rest positional m) hBody)

theorem Shows.run_warn_refuses (h : Shows s o m) (hStrict : s.before.strict = true)
    (hGlobals : ctx.globals = s.unit.globals) (hScopes : ctx.scopes = [a, s.main])
    (hInside : Inside s a ["values", "value"] m) :
    (runStmt (callAt host (depth + 1)) ctx warnStmt).Fails m (Refuses s.unit.globals) := by
  obtain ⟨hFunction, hArgs⟩ := h.eval_warn (callAt host (depth + 1)) hGlobals hScopes hInside
  have hWarn := warn_fails (h.old.strict.trans hStrict) undefinedValue.1 undefinedValue.2
    (warningLine 2 (12 :: ctx.lines))
  refine run_expr_fails (eval_call_fails hFunction hArgs (call_warn_fails (hWarn.bind _)) ?_)
  rintro f rfl
  rw [Context.step, hGlobals]
  exact Fault.isFrom_new ..

/-- A round of the loop over the values to put out, if there is nothing to put out. -/
theorem Shows.run_echoRound_refuses (h : Shows s o m) (hStrict : s.before.strict = true)
    (hGlobals : ctx.globals = s.unit.globals) (hScopes : ctx.scopes = [a, s.main])
    (hInside : Inside s a ["values", "value"] m) :
    (do
      writeName ctx "value" (textValue none)
      runBlock (callAt host (depth + 1)) ctx echoRound : Run W Flow).Fails m
        (Refuses s.unit.globals) := by
  obtain ⟨hWrite, hKnown⟩ := hInside.write_value hScopes (textValue none)
  have hTest := eval_missing (callAt host (depth + 1)) hScopes hKnown
  have h₁ : Shows s o (m.assign a "value" (textValue none)) := h.assign hInside _ _
  have hInside₁ : Inside s a ["values", "value"] (m.assign a "value" (textValue none)) :=
    hInside.assign (by decide) _
  have hWarn := h₁.run_warn_refuses host depth hStrict hGlobals hScopes hInside₁
  exact hWrite.bind_fails (runBlock_fails (run_choose_fails hTest (runBlock_fails hWarn [])) [])

/-- A call of `_echo` with a value that is not there. -/
theorem Shows.call_echo_refuses (h : Shows s o m) (hStrict : s.before.strict = true)
    {texts : List (Option (List Char))} (hTexts : texts.length < roundLimit)
    (hMissing : none ∈ texts) (line : Nat) (lines : List Nat) :
    (callAt host (depth + 2) (.ref (s.out + 1)) ⟨texts.map textValue, []⟩ (line :: lines)).Fails m
      (Refuses s.unit.globals) := by
  let ctx : Context := s.inner m "_echo" (line :: lines)
  let m₁ := m.entered (texts.map textValue) "values" ["values", "value"]
  have hValues : (readName ctx "values").Yields m₁ (.ref m.heap.size) m₁ :=
    readName_local (readScopes_here (binding?_entered m _ "values" ["value"]) true [s.main])
  -- The value that is not there is among those that are left.
  let Inv : List Value → Machine W → Prop := fun vs n =>
    ∃ (left : List (Option (List Char))) (o' : Output), vs = left.map textValue ∧ none ∈ left ∧
      Shows s o' n ∧ Inside s m.frames.size ["values", "value"] n
  have hRound : ∀ v rest n, Inv (v :: rest) n → (do
      writeName ctx "value" v
      runBlock (callAt host (depth + 1)) ctx echoRound : Run W Flow).Fails n
        (Refuses s.unit.globals) ∨ ∃ n', (do
      writeName ctx "value" v
      runBlock (callAt host (depth + 1)) ctx echoRound : Run W Flow).Yields n .next n' ∧
        Inv rest n' := by
    rintro v rest n ⟨left, o', hMap, hLeft, hShows, hIn⟩
    cases left with
    | nil => cases hMap
    | cons text? left =>
      obtain ⟨rfl, rfl⟩ := List.cons_eq_cons.mp hMap
      cases text? with
      | none =>
        exact .inl (hShows.run_echoRound_refuses host depth hStrict (rfl : ctx.globals = _) rfl hIn)
      | some text =>
        have hAdmits : s.Admits (some text) := fun _ => Option.some_ne_none text
        obtain ⟨n', hRun, hShows', hIn'⟩ :=
          hShows.run_echoRound host depth (rfl : ctx.globals = _) rfl rfl hIn hAdmits
        have hRest : none ∈ left := (List.mem_cons.mp hLeft).resolve_left (Option.some_ne_none text).symm
        exact .inr ⟨n', hRun, left, _, rfl, hRest, hShows', hIn'⟩
  have hEnd : ∀ n, ¬ Inv [] n := by
    rintro n ⟨left, o', hMap, hLeft, -⟩
    obtain rfl : left = [] := List.map_eq_nil_iff.mp hMap.symm
    cases hLeft
  have hRounds : (texts.map textValue).length < roundLimit := by
    rw [List.length_map]
    exact hTexts
  have hStart : Inv (texts.map textValue) m₁ :=
    ⟨texts, o, rfl, hMissing, h.entered _ _ _, h.inside_entered _ _ _⟩
  have hLoop := forEach_fails (ctx.step 10) hRound hEnd hRounds hStart
  have hBody : (runBlock (callAt host (depth + 1)) ctx echoBody).Fails m₁
      (Refuses s.unit.globals) :=
    runBlock_fails (run_each_fails (eval_name hValues) (cursor_entered m _ _ _) hLoop) []
  exact call_helper_fails host (depth + 1) h.echo hBody

/-- A call of `_get` for a parameter that is not there. -/
theorem Shows.call_get_refuses (h : Shows s o m) (hStrict : s.before.strict = true)
    {names : List (List Char)} (hNames : names.length < roundLimit)
    (hMissing : ∃ name ∈ names, s.values.get? name = none) (lines : List Nat) :
    (callAt host (depth + 3) (.ref (s.out + 3)) ⟨names.map .text, []⟩ lines).Fails m
      (Refuses s.unit.globals) := by
  obtain ⟨m₂, hEcho, hArgs, h₂⟩ := h.enter_get host (depth + 1) hNames lines
  have hValues : (names.map s.values.get?).length < roundLimit := by
    rw [List.length_map]
    exact hNames
  have hNone : none ∈ names.map s.values.get? := by
    obtain ⟨name, hName, hGet⟩ := hMissing
    exact List.mem_map.mpr ⟨name, hName, hGet⟩
  have hCall := h₂.call_echo_refuses host depth hStrict hValues hNone askLine lines
  have hBody : (runBlock (callAt host (depth + 2)) (s.inner m "_get" lines) getBody).Fails
      (m.entered (names.map .text) "names" ["names"]) (Refuses s.unit.globals) :=
    runBlock_fails (run_expr_fails (eval_call_fails hEcho hArgs hCall
      fun f hf => hf.through _)) []
  exact call_helper_fails host (depth + 2) h.get hBody

/-! ## The entry point -/

/-- An emission that has nothing to put out. -/
theorem Shows.run_call_refuses (h : Shows s o m) (hStrict : s.before.strict = true) {e : Emission}
    (hMissing : emitted? s.values e = none) (row : Nat) :
    (runStmt (callAt host (depth + 3)) s.context (callStmt row e)).Fails m
      (Refuses s.unit.globals) := by
  cases e with
  | echo text => cases hMissing
  | get name =>
    have hGet : (readName s.context "_get").Yields m (.ref (s.out + 3)) m :=
      h.read_main [] rfl (fun b hb => absurd hb List.not_mem_nil) rfl
    have hArgs : (evalArgs (callAt host (depth + 3)) s.context row
        [.mk .positional (.text name)] ⟨[], []⟩).Yields m ⟨[.text name], []⟩ m :=
      evalArgs_positional (eval_text _ m) (evalArgs_nil _ _ m)
    have hOne : 1 < roundLimit := by decide
    have hNames : [name].length < roundLimit := hOne
    have hCall := h.call_get_refuses host depth hStrict hNames
      ⟨name, List.mem_singleton_self name, hMissing⟩ [row]
    exact run_expr_fails (eval_call_fails (eval_name hGet) hArgs hCall fun f hf => hf.through _)

/-- The statements of some emissions fail at the first one that has nothing to put out. -/
theorem Shows.run_calls_refuses {es : List Emission} {stmts : List Stmt}
    (hCalls : List.Forall₂ IsCall es stmts) (h : Shows s o m) (hStrict : s.before.strict = true)
    (hMissing : ∃ e ∈ es, emitted? s.values e = none) (rest : List Stmt) :
    (runBlock (callAt host (depth + 3)) s.context (stmts ++ rest)).Fails m
      (Refuses s.unit.globals) := by
  induction hCalls generalizing o m with
  | nil =>
    obtain ⟨e, he, -⟩ := hMissing
    cases he
  | @cons e stmt es stmts hCall _ ih =>
    obtain ⟨row, rfl⟩ := hCall
    by_cases hNone : emitted? s.values e = none
    · exact runBlock_fails (h.run_call_refuses host depth hStrict hNone row) (stmts ++ rest)
    · obtain ⟨missing, hMem, hMissing⟩ := hMissing
      have hRest : missing ∈ es :=
        (List.mem_cons.mp hMem).resolve_left fun hEq => hNone (hEq ▸ hMissing)
      obtain ⟨m₁, hFirst, h₁⟩ := h.run_call host depth (fun _ => hNone) row
      exact runBlock_next_fails hFirst (ih h₁ ⟨missing, hRest, hMissing⟩)

section

variable {row : Nat} {es : List Emission} {stmts : List Stmt}

theorem call_main_refuses (h : Ready s row stmts) (hCalls : List.Forall₂ IsCall es stmts)
    (hStrict : s.before.strict = true) (hMissing : ∃ e ∈ es, emitted? s.values e = none) :
    (callAt host (depth + 4) (.ref s.entry) ⟨[s.options, .ref s.params], []⟩ []).Fails s.before
      (Refuses s.unit.globals) := by
  have hHelpers :=
    run_helpers (callAt host (depth + 3)) s.context (s.before.withFrame s.parameters)
  have hRun := h.shows.run_calls_refuses host depth hCalls hStrict hMissing [returnStmt row]
  have hBody := runBlock_append_fails hHelpers hRun
  rw [← List.append_assoc] at hBody
  refine call_function_fails h.entry (enter_fails (bind_main s row stmts s.before) ?_)
  rw [variables_main s row hCalls]
  exact hBody

/-- The report on a value that is not there. -/
def refusal (line : Int) : List Char :=
  ("UndefinedValueWarning on line " ++ toString line ++
    ": use of undefined value in template output").toList

theorem headline_refuses {globals : Address} {f : Fault} (hf : Refuses globals f) (heap : Heap)
    (object? : Option Address) (line : Int) :
    headline heap { f with object? } (onLine (some line)) = refusal line := by
  obtain ⟨kind, detail, trace, _⟩ := f
  obtain rfl : kind = undefinedValue.1 := hf.kind
  obtain rfl : detail = .args undefinedValue.2 := hf.detail
  have hMessage : (⟨undefinedValue.1, .args undefinedValue.2, trace, object?⟩ : Fault).message heap =
      "use of undefined value in template output".toList := rfl
  rw [headline, hMessage, refusal]
  simp [onLine, undefinedValue, ErrorClass.name]

/-- Whether a fault is the report of a unit on a value that is not there. -/
structure ReportsMissing (line : Int) (f : Fault) : Prop where
  kind : f.kind = .templateRuntimeError
  detail : ∃ original, f.detail = .located (refusal line) (some line) original none

/-- **What a unit reports where warnings are exceptions**, if a parameter that its template asks for
is not there: the line of `_echo`, as if it were a line of the template. -/
theorem execute_refuses (h : Ready s row stmts) (hCalls : List.Forall₂ IsCall es stmts)
    (hStrict : s.before.strict = true) (hMissing : ∃ e ∈ es, emitted? s.values e = none) {line : Int}
    (hLine : s.unit.templateLine warnLine = line) :
    (execute (callAt host (depth + 4)) s.unit s.options (.ref s.params)).Fails s.before
      (ReportsMissing line) := by
  have hEntered : (callEntry (callAt host (depth + 4)) s.unit s.options (.ref s.params)).Fails
      s.before (Refuses s.unit.globals) := by
    obtain ⟨f, m', hRun, hf⟩ := call_main_refuses host depth h hCalls hStrict hMissing
    exact ⟨f, m', (h.perform_callEntry _).trans hRun, hf⟩
  obtain ⟨f, object?, m₁, hSettle, hf⟩ := hEntered.settle
  -- The exception is none about a template, and an ordinary one.
  have hOther : ¬ (({ f with object? } : Fault).isPlate ||
      !({ f with object? } : Fault).kind.isWithin .exception) = true := by
    show ¬ (f.kind.isWithin .plateError || !f.kind.isWithin .exception) = true
    rw [hf.kind]
    decide
  have hFault : runtimeFault m₁.heap s.unit { f with object? } = .new .templateRuntimeError
      (.located (refusal line) (some line) ({ f with object? } : Fault).value none) := by
    have hFailing : s.unit.failingLine? { f with object? } = some line := by
      show (f.lineIn? s.unit.globals).map (fun line => s.unit.templateLine line) = _
      rw [hf.line]
      exact congrArg some hLine
    rw [runtimeFault, hFailing, headline_refuses hf]
  refine hSettle.bind_fails ?_
  simp only
  rw [if_neg hOther]
  refine (yields_heap m₁).bind_fails ?_
  rw [hFault]
  exact ⟨_, m₁, rfl, rfl, _, rfl⟩

end

end Stencil.Script
