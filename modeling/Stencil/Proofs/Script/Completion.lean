import Stencil.Proofs.Script.LastLine
import Stencil.Proofs.Script.SparingCalls

/-!
# Programs that are loaded to their end

A program whose statements are where they may be runs all the statements of its module, one after
the other, unless one fails: no loop is left that is not run, and nothing is returned. So a program
of a template that is loaded without a fault has run its last statement.

* `Flow.Fits`: how statements can end, given what surrounds them. `gives_runBlock`: they end so.
* `loadInto`: a load, once the variables of the module are there.
* `hasLoaded_of_load`: the unit of a template tells that it has been loaded.
-/

namespace Stencil.Script

open Run Program

variable {W α β : Type} {m m' : Machine W}

namespace Run.Gives

variable {r : Run W α} {P Q : α → Prop}

theorem bind {next : α → Run W β} {R : β → Prop} (h : r.Gives P)
    (hNext : ∀ a, P a → (next a).Gives R) : (r >>= next).Gives R := by
  intro m b m'' hYields
  obtain ⟨a, m', hFirst, hRest⟩ := exists_yields_of_bind hYields
  exact hNext a (h m a m' hFirst) m' b m'' hRest

theorem fail (f : Fault) : (Run.fail f : Run W α).Gives P := nofun

theorem tryCatch {handle : Fault → Run W α} (h : r.Gives P) (hHandle : ∀ f, (handle f).Gives P) :
    (tryCatch r handle).Gives P := by
  intro m a m' hYields
  rcases hRun : r.perform m with ⟨x, m₁⟩
  cases x with
  | ok b =>
    have hCaught : (MonadExcept.tryCatch r handle).Yields m b m₁ := Yields.tryCatch hRun
    cases Eq.trans (Eq.symm hCaught) hYields
    exact h m a m' hRun
  | error f =>
    exact hHandle f m₁ a m' ((perform_tryCatch_error hRun handle).symm.trans hYields)

theorem settle (h : r.Gives P) : (settle r).Gives fun x => ∀ a, x = .ok a → P a := by
  refine tryCatch (h.bind fun a ha => gives_pure fun b hb => ?_) fun f => ?_
  · cases hb
    exact ha
  · exact gives_bind _ fun g => gives_pure nofun

theorem whileHandling (f : Fault) (h : r.Gives P) : (whileHandling f r).Gives P := by
  intro m a m' hYields
  rw [Yields, Spares.perform_whileHandling] at hYields
  rcases hRun : r.perform { m with handling := f :: m.handling } with ⟨x, m₁⟩
  rw [hRun] at hYields
  cases hYields
  exact h _ a m₁ hRun

theorem ite {c : Prop} [Decidable c] {r' : Run W α} (h : r.Gives P) (h' : r'.Gives P) :
    (if c then r else r').Gives P := by
  split
  · exact h
  · exact h'

end Run.Gives

/-- Whether statements can end in a way where they stand. -/
def Flow.Fits (s : Surroundings) : Flow → Prop
  | .next => True
  | .break | .continue => s.inLoop = true
  | .return _ => s.inFunction = true

variable {call : Caller W} {ctx : Context} {s : Surroundings}

theorem gives_forEach {step : Step} {body : Value → Run W Flow}
    (h : ∀ v, (body v).Gives (Flow.Fits { s with inLoop := true })) (rounds : Nat) (c : Cursor) :
    (forEach step body rounds c).Gives (Flow.Fits { s with inLoop := true }) := by
  induction rounds generalizing c with
  | zero => exact .fail _
  | succ rounds ih =>
    unfold forEach
    refine gives_bind _ fun item? => ?_
    split
    · exact gives_pure trivial
    · refine (h _).bind fun flow hFlow => ?_
      cases flow with
      | next => exact ih _
      | «continue» => exact ih _
      | «break» => exact gives_pure rfl
      | «return» v => exact gives_pure hFlow

theorem gives_whileTrue {test : Run W Bool} {body : Run W Flow}
    (h : body.Gives (Flow.Fits { s with inLoop := true })) (rounds : Nat) :
    (whileTrue test body rounds).Gives (Flow.Fits { s with inLoop := true }) := by
  induction rounds with
  | zero => exact .fail _
  | succ rounds ih =>
    unfold whileTrue
    refine gives_bind _ fun holds => .ite (h.bind fun flow hFlow => ?_) (gives_pure trivial)
    cases flow with
    | next => exact ih
    | «continue» => exact ih
    | «break» => exact gives_pure rfl
    | «return» v => exact gives_pure hFlow

theorem gives_raiseAgain (f : Fault) {P : α → Prop} : (raiseAgain f : Run W α).Gives P :=
  gives_bind _ fun _ => .fail _

theorem gives_runFinally {outcome : Except Fault Flow} {finally_ : Run W Flow}
    (hOutcome : ∀ flow, outcome = .ok flow → flow.Fits s) (h : finally_.Gives (Flow.Fits s)) :
    (runFinally outcome finally_).Gives (Flow.Fits s) := by
  cases outcome with
  | ok flow =>
    refine h.bind fun other hOther => ?_
    cases other with
    | next => exact gives_pure (hOutcome flow rfl)
    | _ => exact gives_pure hOther
  | error f =>
    refine (h.whileHandling f).bind fun other hOther => ?_
    cases other with
    | next => exact gives_raiseAgain f
    | _ => exact gives_pure hOther

/-- What comes after a loop, unless the loop was left early. -/
theorem gives_afterLoop {loop afterwards : Run W Flow}
    (hLoop : loop.Gives (Flow.Fits { s with inLoop := true }))
    (h : afterwards.Gives (Flow.Fits s)) :
    (do
      match ← loop with
      | .next => afterwards
      | .return v => return .return v
      | _ => return .next : Run W Flow).Gives (Flow.Fits s) := by
  refine hLoop.bind fun flow hFlow => ?_
  cases flow with
  | next => exact h
  | «return» v => exact gives_pure hFlow
  | _ => exact gives_pure trivial

mutual

theorem gives_runStmt {s : Surroundings} :
    (stmt : Stmt) → misplacedBy? s stmt = none → (runStmt call ctx stmt).Gives (Flow.Fits s)
  | .pass, _ => gives_pure trivial
  | .expr _ _, _ => gives_bind _ fun _ => gives_pure trivial
  | .assign _ _ _, _ => gives_bind _ fun _ => gives_bind _ fun _ => gives_pure trivial
  | .augment _ _ _ _, _ =>
    gives_bind _ fun _ => gives_bind _ fun _ => gives_bind _ fun _ => gives_bind _ fun _ =>
      gives_pure trivial
  | .choose _ arms otherwise, h => by
    obtain ⟨hArms, hOtherwise⟩ := Option.or_eq_none_iff.mp h
    refine (gives_runArms arms hArms).bind fun flow? hFlow => ?_
    cases flow? with
    | none => exact gives_runBlock otherwise hOtherwise
    | some flow => exact gives_pure (hFlow flow rfl)
  | .loop _ (.each target items) body afterwards, h => by
    obtain ⟨hBody, hAfterwards⟩ := Option.or_eq_none_iff.mp h
    rw [runStmt]
    refine gives_bind _ fun v => gives_bind _ fun c => ?_
    exact gives_afterLoop
      (gives_forEach (fun _ => gives_bind _ fun _ => gives_runBlock body hBody) _ c)
      (gives_runBlock afterwards hAfterwards)
  | .loop _ (.while test) body afterwards, h => by
    obtain ⟨hBody, hAfterwards⟩ := Option.or_eq_none_iff.mp h
    rw [runStmt]
    exact gives_afterLoop (gives_whileTrue (gives_runBlock body hBody) _)
      (gives_runBlock afterwards hAfterwards)
  | .break _, h => gives_pure (not_not.mp fun hOutside => nomatch (if_neg hOutside).symm.trans h)
  | .continue _, h => gives_pure (not_not.mp fun hOutside => nomatch (if_neg hOutside).symm.trans h)
  | .function _ _ _, _ => gives_bind _ fun _ => gives_bind _ fun _ => gives_pure trivial
  | .return _ none, h =>
    gives_pure (not_not.mp fun hOutside => nomatch (if_neg hOutside).symm.trans h)
  | .return _ (some _), h =>
    gives_bind _ fun _ =>
      gives_pure (not_not.mp fun hOutside => nomatch (if_neg hOutside).symm.trans h)
  | .raise _ none, _ => by
    rw [runStmt]
    refine gives_bind _ fun m => ?_
    split
    · exact gives_raiseAgain _
    · exact .tryCatch (.fail _) fun _ => .fail _
  | .raise _ (some _), _ =>
    gives_bind _ fun _ => .tryCatch (gives_bind _ fun _ => .fail _) fun _ => .fail _
  | .attempt _ body handlers afterwards finally_, h => by
    obtain ⟨hBody, h⟩ := Option.or_eq_none_iff.mp h
    obtain ⟨hHandlers, h⟩ := Option.or_eq_none_iff.mp h
    obtain ⟨hAfterwards, hFinally⟩ := Option.or_eq_none_iff.mp h
    rw [runStmt]
    refine Gives.bind (Gives.settle (P := Flow.Fits s) ?_) fun outcome hOutcome =>
      gives_runFinally hOutcome (gives_runBlock finally_ hFinally)
    refine (gives_runBlock body hBody).settle.bind fun outcome hOutcome => ?_
    split
    · exact gives_runBlock afterwards hAfterwards
    · exact gives_pure (hOutcome _ rfl)
    · exact gives_runHandlers _ handlers hHandlers
  | .importModule _ _ _, _ => by
    rw [runStmt]
    refine gives_bind _ fun v => ?_
    split
    · exact gives_bind _ fun _ => gives_pure trivial
    · exact gives_bind _ fun _ => gives_bind _ fun _ => gives_pure trivial
  | .importFrom _ _ _, _ => gives_bind _ fun _ => gives_pure trivial

theorem gives_runBlock {s : Surroundings} :
    (stmts : List Stmt) → misplacedIn? s stmts = none →
      (runBlock call ctx stmts).Gives (Flow.Fits s)
  | [], _ => gives_pure trivial
  | stmt :: rest, h => by
    obtain ⟨hStmt, hRest⟩ := Option.or_eq_none_iff.mp h
    refine (gives_runStmt stmt hStmt).bind fun flow hFlow => ?_
    cases flow with
    | next => exact gives_runBlock rest hRest
    | _ => exact gives_pure hFlow

theorem gives_runArms {s : Surroundings} :
    (arms : List Arm) → misplacedInArms? s arms = none →
      (runArms call ctx arms).Gives fun flow? => ∀ flow, flow? = some flow → flow.Fits s
  | [], _ => gives_pure nofun
  | .mk _ _ body :: rest, h => by
    obtain ⟨hBody, hRest⟩ := Option.or_eq_none_iff.mp h
    refine gives_bind _ fun v => gives_bind _ fun heap => .ite ?_ (gives_runArms rest hRest)
    refine (gives_runBlock body hBody).bind fun flow hFlow => gives_pure ?_
    rintro _ ⟨⟩
    exact hFlow

theorem gives_runHandlers {s : Surroundings} (f : Fault) :
    (handlers : List Handler) → misplacedInHandlers? s handlers = none →
      (runHandlers call ctx f handlers).Gives (Flow.Fits s)
  | [], _ => gives_raiseAgain f
  | .mk line kind as? body :: rest, h => by
    rw [misplacedInHandlers?] at h
    split at h
    · cases h
    obtain ⟨hBody, hRest⟩ := Option.or_eq_none_iff.mp h
    have hRun : (Run.whileHandling f (runBlock call ctx body)).Gives (Flow.Fits s) :=
      (gives_runBlock body hBody).whileHandling f
    refine gives_bind _ fun takes => .ite ?_ (gives_runHandlers f rest hRest)
    split
    · exact hRun
    · refine gives_bind _ fun _ => hRun.settle.bind fun outcome hOutcome => gives_bind _ fun _ => ?_
      cases outcome with
      | ok flow => exact gives_pure (hOutcome flow rfl)
      | error g => exact .fail g

end

/-! ## Programs that are loaded -/

/-- Nothing leaves a module but its end, so its last statements are run last. -/
theorem exists_yields_of_append {init last : List Stmt} {flow : Flow}
    (hPlaced : misplaced? init = none)
    (h : (runBlock call ctx (init ++ last)).Yields m flow m') :
    ∃ m₁, (runBlock call ctx last).Yields m₁ flow m' := by
  induction init generalizing m with
  | nil => exact ⟨m, h⟩
  | cons stmt init ih =>
    obtain ⟨hStmt, hInit⟩ := Option.or_eq_none_iff.mp hPlaced
    obtain ⟨first, m₁, hFirst, hRest⟩ := exists_yields_of_bind h
    have hFits := gives_runStmt stmt hStmt m first m₁ hFirst
    cases first with
    | next => exact ih hInit hRest
    | _ => cases hFits

/-- Whether a unit tells that it has been loaded. -/
def Machine.HasLoaded (m : Machine W) (u : CompiledUnit) : Prop :=
  m.binding? u.globals compiledFlag = some (some (.bool true))

theorem yields_of_settle {r : Run W α} {a : α} (h : (settle r).Yields m (.ok a) m') :
    r.Yields m a m' := by
  rcases hRun : r.perform m with ⟨x, m₁⟩
  cases x with
  | ok b =>
    cases Eq.trans (Eq.symm (Yields.settle hRun)) h
    exact hRun
  | error f =>
    have hFails : r.Fails m fun _ => True := ⟨f, m₁, hRun, trivial⟩
    obtain ⟨g, object?, m₂, hSettle, -⟩ := hFails.settle
    cases Eq.trans (Eq.symm hSettle) h

/-- Loads a program as a unit that has its variables. -/
def loadInto (call : Caller W) (program : List Char) (u : CompiledUnit) : Run W CompiledUnit := do
  match parse program with
  | .error line => Run.fail (syntaxFault (u.templateLine line))
  | .ok statements =>
    match ← settle (runBlock call ⟨u.globals, [], "", []⟩ statements) with
    | .ok _ => return u
    | .error f =>
      if f.kind.isWithin .exception then
        Run.fail (.new .templateCompileError
          (.located (headline (← Run.heap) f "") (u.failingLine? f) .none none))
      else Run.fail f

theorem load_eq (call : Caller W) (namespaceId : String) (program fileName : List Char)
    (lineOffset : Int) (hNull : ¬ program.contains '\x00' = true) :
    load call namespaceId program fileName lineOffset =
      newFrame (moduleVariables namespaceId fileName) >>= fun globals =>
        loadInto call program ⟨namespaceId, fileName, globals, lineOffset⟩ := if_neg hNull

/-- A unit that has been loaded has the name that was given to it, and the statements of its program
have been run. -/
theorem unit_of_load {program : List Char} {namespaceId : String} {fileName : List Char}
    {lineOffset : Int} {u : CompiledUnit}
    (h : (load call namespaceId program fileName lineOffset).Yields m u m') :
    u = ⟨namespaceId, fileName, m.frames.size, lineOffset⟩ ∧
      ∃ stmts flow, parse program = .ok stmts ∧
        (runBlock call ⟨u.globals, [], "", []⟩ stmts).Yields
          (m.withFrame (moduleVariables namespaceId fileName)) flow m' := by
  by_cases hNull : program.contains '\x00' = true
  · unfold load at h
    rw [if_pos hNull] at h
    obtain ⟨_, _, hRaise, -⟩ := exists_yields_of_bind h
    cases hRaise
  rw [load_eq call namespaceId program fileName lineOffset hNull] at h
  obtain ⟨globals, m₁, hFrame, h⟩ := exists_yields_of_bind h
  cases hFrame
  unfold loadInto at h
  split at h
  · cases h
  case h_2 stmts hParse =>
    obtain ⟨outcome, m₂, hRun, h⟩ := exists_yields_of_bind h
    cases outcome with
    | ok flow =>
      cases h
      exact ⟨rfl, stmts, flow, hParse, yields_of_settle hRun⟩
    | error f =>
      dsimp only at h
      split at h
      · obtain ⟨_, _, -, hFail⟩ := exists_yields_of_bind h
        cases hFail
      · cases h

theorem runBlock_of_load {program : List Char} {namespaceId : String} {fileName : List Char}
    {lineOffset : Int} {u : CompiledUnit}
    (h : (load call namespaceId program fileName lineOffset).Yields m u m') :
    u.globals = m.frames.size ∧ ∃ stmts flow, parse program = .ok stmts ∧
      (runBlock call ⟨u.globals, [], "", []⟩ stmts).Yields
        (m.withFrame (moduleVariables namespaceId fileName)) flow m' :=
  ⟨congrArg CompiledUnit.globals (unit_of_load h).1, (unit_of_load h).2⟩

/-- A unit that is loaded from the program of a template has told so. -/
theorem hasLoaded_of_load {program : List Char} {namespaceId : String} {fileName : List Char}
    {lineOffset : Int} {u : CompiledUnit}
    (h : (load call namespaceId (program ++ epilogue) fileName lineOffset).Yields m u m')
    (hSize : m.frames.size < m'.frames.size) : m'.HasLoaded u := by
  obtain ⟨hGlobals, stmts, flow, hParse, hRun⟩ := runBlock_of_load h
  obtain ⟨⟨row, init, rfl⟩, hPlaced⟩ := parse_completes hParse
  rw [misplaced?, misplacedIn?_append] at hPlaced
  obtain ⟨m₁, hLast⟩ := exists_yields_of_append (Option.or_eq_none_iff.mp hPlaced).1 hRun
  cases hLast
  rw [Machine.HasLoaded, hGlobals]
  have hFrame : m.frames.size < m₁.frames.size := by
    simpa using hSize
  exact (Machine.binding?_assign_self hFrame compiledFlag compiledFlag (.bool true)).trans
    (if_pos rfl)

end Stencil.Script
