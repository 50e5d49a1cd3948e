import Stencil.Proofs.Script.Yielding

/-!
# Runs that fail

`r.Fails m P` says that the run `r` of the machine `m` ends with a fault that has the property `P`.
Nothing comes after a part that fails, so there is one rule for each place at which a part of a run
can stand.

* `Fails.bind`, `Yields.bind_fails`, `Fails.through`, `Fails.settle`: runs made of runs.
* `forEach_fails`: a loop that cannot come to its end.
* `Fault.IsFrom`: which program a fault has left, and on which line.
-/

namespace Stencil.Script

variable {W α β : Type} {P Q : Fault → Prop}

namespace Run

/-- Whether a run of a machine ends with a fault that has a property. -/
def Fails (r : Run W α) (m : Machine W) (P : Fault → Prop) : Prop :=
  ∃ f m', r.perform m = (.error f, m') ∧ P f

variable {r : Run W α} {m m' : Machine W} {a : α}

/-- A fault that is caught is an object from then on. -/
theorem yields_keep (f : Fault) (m : Machine W) :
    ∃ object? m', (keep f).Yields m { f with object? } m' := by
  obtain ⟨kind, detail, trace, object?⟩ := f
  cases object? with
  | some a => exact ⟨some a, _, rfl⟩
  | none => exact ⟨some m.heap.size, _, rfl⟩

theorem Yields.bind_fails {next : α → Run W β} (hr : r.Yields m a m')
    (hNext : (next a).Fails m' P) : (r >>= next).Fails m P := by
  obtain ⟨f, m'', hRun, hf⟩ := hNext
  exact ⟨f, m'', (hr.perform_bind next).trans hRun, hf⟩

namespace Fails

theorem bind (h : r.Fails m P) (next : α → Run W β) : (r >>= next).Fails m P := by
  obtain ⟨f, m', hRun, hf⟩ := h
  replace hRun : StateT.run (ExceptT.run r) m = (.error f, m') := hRun
  refine ⟨f, m', ?_, hf⟩
  show StateT.run (ExceptT.run (r >>= next)) m = _
  rw [ExceptT.run_bind, StateT.run_bind, hRun]
  rfl

/-- A fault that is caught is handled where it was caught. -/
theorem perform_tryCatch (h : r.Fails m P) (handle : Fault → Run W α) :
    ∃ f m', (tryCatch r handle).perform m = (handle f).perform m' ∧ P f := by
  obtain ⟨f, m', hRun, hf⟩ := h
  replace hRun : StateT.run r m = (.error f, m') := hRun
  refine ⟨f, m', ?_, hf⟩
  show StateT.run (ExceptT.run (ExceptT.tryCatch r handle)) m = _
  simp only [ExceptT.tryCatch, ExceptT.run_mk, StateT.run_bind]
  rw [hRun]
  rfl

theorem through (h : r.Fails m P) {s : Step} (hStep : ∀ f, P f → Q (f.through s)) :
    (through s r).Fails m Q := by
  obtain ⟨f, m', hRun, hf⟩ := h.perform_tryCatch fun f => fail (f.through s)
  exact ⟨f.through s, m', hRun, hStep f hf⟩

theorem settle (h : r.Fails m P) :
    ∃ f object? m', (settle r).Yields m (.error { f with object? }) m' ∧ P f := by
  have hOk : (do return .ok (← r) : Run W (Except Fault α)).Fails m P := h.bind _
  obtain ⟨f, m₁, hRun, hf⟩ := hOk.perform_tryCatch fun f => do return .error (← keep f)
  obtain ⟨object?, m₂, hKeep⟩ := yields_keep f m₁
  exact ⟨f, object?, m₂, hRun.trans (hKeep.bind .pure), hf⟩

end Fails

end Run

open Run

variable {m m' : Machine W}

/-! ## Where a fault comes from -/

theorem Fault.lineIn?_through {f : Fault} {globals : Address} {line : Nat}
    (h : f.lineIn? globals = some line) (s : Step) : (f.through s).lineIn? globals = some line := by
  obtain ⟨last, hLast, hLine⟩ := Option.map_eq_some_iff.mp h
  have hThrough : ((f.through s).trace.filter (·.globals = globals)).getLast? = some last := by
    rw [Fault.through, List.filter_cons]
    split
    case isTrue =>
      rw [List.getLast?_cons, hLast]
      rfl
    case isFalse => exact hLast
  rw [Fault.lineIn?, hThrough]
  exact congrArg some hLine

/-- Whether a fault is an exception of some class with some detail, and the innermost function of a
program that it has left stood on some line. -/
structure Fault.IsFrom (globals : Address) (line : Nat) (kind : ErrorClass) (detail : Detail)
    (f : Fault) : Prop where
  kind : f.kind = kind
  detail : f.detail = detail
  line : f.lineIn? globals = some line

theorem Fault.IsFrom.through {globals : Address} {line : Nat} {kind : ErrorClass} {detail : Detail}
    {f : Fault} (h : f.IsFrom globals line kind detail) (s : Step) :
    (f.through s).IsFrom globals line kind detail := ⟨h.kind, h.detail, f.lineIn?_through h.line s⟩

theorem Fault.isFrom_new (globals : Address) (line : Nat) (kind : ErrorClass) (detail : Detail) :
    ((Fault.new kind detail).through ⟨globals, line⟩).IsFrom globals line kind detail := by
  refine ⟨rfl, rfl, ?_⟩
  have hTrace : [(⟨globals, line⟩ : Step)].filter (·.globals = globals) = [⟨globals, line⟩] := by
    simp
  show (([(⟨globals, line⟩ : Step)].filter (·.globals = globals)).getLast?).map (·.line) = _
  rw [hTrace]
  rfl

/-! ## Warnings -/

theorem warn_fails (h : m.strict = true) (kind : ErrorClass) (message : List Value) (line : Nat) :
    (warn kind message line).Fails m (· = .new kind (.args message)) := by
  refine (yields_get m).bind_fails ?_
  rw [h, if_pos rfl]
  exact ⟨_, m, rfl, rfl⟩

/-! ## Loops -/

/-- A loop over some values fails if each round fails or goes on, and what holds with the values
that are left cannot hold with none left. -/
theorem forEach_fails {Inv : List Value → Machine W → Prop} (step : Step) {body : Value → Run W Flow}
    (hBody : ∀ v rest m, Inv (v :: rest) m →
      (body v).Fails m P ∨ ∃ m', (body v).Yields m .next m' ∧ Inv rest m')
    (hEnd : ∀ m, ¬ Inv [] m) {rounds : Nat} {vs : List Value} (hRounds : vs.length < rounds)
    {m : Machine W} (h : Inv vs m) : (forEach step body rounds (.values vs)).Fails m P := by
  induction vs generalizing rounds m with
  | nil => exact absurd h (hEnd m)
  | cons v rest ih =>
    obtain ⟨rounds, rfl⟩ := Nat.exists_eq_succ_of_ne_zero (Nat.ne_of_gt (Nat.zero_lt_of_lt hRounds))
    refine ((next?_values_cons v rest m).through step).bind_fails ?_
    rcases hBody v rest m h with hFails | ⟨m', hRound, hInv⟩
    · exact hFails.bind _
    · exact hRound.bind_fails (ih (Nat.lt_of_succ_lt_succ hRounds) hInv)

/-! ## Expressions and statements -/

section

variable {call : Caller W} {ctx : Context}

theorem eval_call_fails {line : Nat} {function : Expr} {args : List Arg} {f : Value} {bound : Args}
    {m₁ m₂ : Machine W} (hFunction : (evalExpr call ctx function).Yields m f m₁)
    (hArgs : (evalArgs call ctx line args ⟨[], []⟩).Yields m₁ bound m₂)
    (hCall : (call f bound (line :: ctx.lines)).Fails m₂ P)
    (hStep : ∀ f, P f → Q (f.through (ctx.step line))) :
    (evalExpr call ctx (.call line function args)).Fails m Q :=
  hFunction.bind_fails (hArgs.bind_fails (hCall.through hStep))

theorem run_expr_fails {line : Nat} {e : Expr} (h : (evalExpr call ctx e).Fails m P) :
    (runStmt call ctx (.expr line e)).Fails m P := h.bind _

theorem runBlock_fails {s : Stmt} (h : (runStmt call ctx s).Fails m P) (rest : List Stmt) :
    (runBlock call ctx (s :: rest)).Fails m P := h.bind _

theorem runBlock_next_fails {s : Stmt} {rest : List Stmt}
    (hs : (runStmt call ctx s).Yields m .next m') (hRest : (runBlock call ctx rest).Fails m' P) :
    (runBlock call ctx (s :: rest)).Fails m P := hs.bind_fails hRest

theorem runBlock_append_fails {first second : List Stmt}
    (hFirst : (runBlock call ctx first).Yields m .next m')
    (hSecond : (runBlock call ctx second).Fails m' P) :
    (runBlock call ctx (first ++ second)).Fails m P := by
  obtain ⟨f, m'', hRun, hf⟩ := hSecond
  exact ⟨f, m'', (perform_append hFirst second).trans hRun, hf⟩

theorem run_choose_fails {line armLine : Nat} {test : Expr} {yes no : List Stmt}
    (hTest : (evalExpr call ctx test).Yields m (.bool true) m')
    (hBlock : (runBlock call ctx yes).Fails m' P) :
    (runStmt call ctx (.choose line [.mk armLine test yes] no)).Fails m P := by
  have hArms : (runArms call ctx [.mk armLine test yes]).Fails m P :=
    hTest.bind_fails ((yields_heap m').bind_fails (hBlock.bind _))
  exact hArms.bind _

theorem run_each_fails {line : Nat} {target : String} {items : Expr} {body : List Stmt} {v : Value}
    {c : Cursor} (hItems : (evalExpr call ctx items).Yields m v m) (hCursor : (cursor v).Yields m c m)
    (hRounds : (forEach (ctx.step line) (fun v => do
      writeName ctx target v
      runBlock call ctx body) roundLimit c).Fails m P) :
    (runStmt call ctx (.loop line (.each target items) body [])).Fails m P :=
  hItems.bind_fails ((hCursor.through (ctx.step line)).bind_fails (hRounds.bind _))

end

/-! ## Calls -/

section

variable {host : Host W} {depth : Nat}

theorem call_function_fails {a : Address} {f : Closure} (h : m.heap[a]? = some (.function f))
    {args : Args} {lines : List Nat} (hEnter : (enter (callAt host depth) f args lines).Fails m P) :
    (callAt host (depth + 1) (.ref a) args lines).Fails m P :=
  Yields.bind_fails (yields_object? h) hEnter

theorem call_warn_fails {args : Args} {lines : List Nat} (h : (applyWarn args lines).Fails m P) :
    (callAt host (depth + 1) (.builtin .warn) args lines).Fails m P :=
  (yields_object? rfl).bind_fails h

end

theorem enter_fails {call : Caller W} {f : Closure} {args : Args} {lines : List Nat}
    {bound : List (String × Value)} (hBind : (f.parameters.bind args).Yields m bound m')
    (hBody : (runBlock call
        ⟨f.globals, m'.frames.size :: f.scopes, f.path ++ ".<locals>.", lines⟩ f.body).Fails
      (m'.withFrame (f.locals.map fun name => (name, bound.lookup name))) P) :
    (enter call f args lines).Fails m P :=
  hBind.bind_fails ((yields_newFrame _ m').bind_fails (hBody.bind _))

end Stencil.Script
