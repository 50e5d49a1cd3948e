import Stencil.Proofs.Script.SparingOperations

/-!
# Scripts spare what was there

Expressions, statements and calls spare what was there before them if the calls that they make do.
From this, by induction on how deep calls may be nested, all calls do, whatever the host adds to
them; and so do the loading of programs and the running of units.

* `Host.Spares.callAt`: calls, nested up to some depth.
* `spares_load`, `spares_execute`: programs and units.
* `spares_counted`: a run that is counted as long as it goes on.
-/

namespace Stencil.Script

open Run

variable {W α : Type} {S : W → W → Prop} {mark : Mark} {p : Prop} {fs : List Fault}
  [IsPreorder W S]

def Caller.Spares (S : W → W → Prop) (mark : Mark) (p : Prop) (call : Caller W) : Prop :=
  ∀ v args lines, (call v args lines).Spares S mark p []

variable {call : Caller W} {ctx : Context}

omit [IsPreorder W S] in
theorem Caller.Spares.spares (h : call.Spares S mark p) (v : Value) (args : Args)
    (lines : List Nat) : (call v args lines).Spares S mark p fs :=
  (h v args lines).mono (List.nil_subset fs)

/-! ## Parts of expressions -/

theorem spares_readScopes (name : String) (own : Bool) (scopes : List Address) :
    (readScopes name own scopes : Run W (Option Value)).Spares S mark p fs := by
  induction scopes generalizing own with
  | nil => exact spares_pure _
  | cons a outer ih =>
    unfold readScopes
    grind

@[grind ←] theorem spares_readName (ctx : Context) (name : String) :
    (readName ctx name : Run W Value).Spares S mark p fs := by
  unfold readName
  refine (spares_readScopes name true ctx.scopes).bind fun v? => ?_
  grind

@[grind ←] theorem spares_outOfRounds : (outOfRounds : Run W α).Spares S mark p fs :=
  spares_raise _ _

theorem spares_forEach {step : Step} {body : Value → Run W Flow}
    (hBody : ∀ v, (body v).Spares S mark p fs) (rounds : Nat) (c : Cursor) :
    (forEach step body rounds c).Spares S mark p fs := by
  induction rounds generalizing c with
  | zero => exact spares_outOfRounds
  | succ rounds ih =>
    unfold forEach
    refine ((Cursor.spares_next? c).through step).bind fun item? => ?_
    split
    · exact spares_pure _
    · refine (hBody _).bind fun flow => ?_
      cases flow with
      | next => exact ih _
      | «continue» => exact ih _
      | «break» => exact spares_pure _
      | «return» v => exact spares_pure _

theorem spares_whileTrue {test : Run W Bool} {body : Run W Flow}
    (hTest : test.Spares S mark p fs) (hBody : body.Spares S mark p fs) (rounds : Nat) :
    (whileTrue test body rounds).Spares S mark p fs := by
  induction rounds with
  | zero => exact spares_outOfRounds
  | succ rounds ih =>
    unfold whileTrue
    refine hTest.bind fun holds => ?_
    split
    · refine hBody.bind fun flow => ?_
      cases flow with
      | next => exact ih
      | «continue» => exact ih
      | «break» => exact spares_pure _
      | «return» v => exact spares_pure _
    · exact spares_pure _

theorem spares_collect {f : Value → Run W (Option Value)} (hf : ∀ v, (f v).Spares S mark p fs)
    (rounds : Nat) (c : Cursor) : (collect f rounds c).Spares S mark p fs := by
  induction rounds generalizing c with
  | zero => exact spares_outOfRounds
  | succ rounds ih =>
    unfold collect
    refine (Cursor.spares_next? c).bind fun item? => ?_
    split
    · exact spares_pure _
    · refine (hf _).bind fun w? => ?_
      split
      · exact (ih _).bind fun _ => spares_pure _
      · exact ih _

theorem spares_addStarred (args : Args) (v : Value) :
    (addStarred args v : Run W Args).Spares S mark p fs := by
  unfold addStarred
  grind

theorem spares_addItems (items : List Value) (v : Value) :
    (addItems items v : Run W (List Value)).Spares S mark p fs := by
  unfold addItems
  grind

@[grind ←] theorem spares_addNamed (args : Args) (name : String) (v : Value) :
    (addNamed args name v : Run W Args).Spares S mark p fs := by
  unfold addNamed
  grind

theorem spares_addSpread (args : Args) (v : Value) :
    (addSpread args v : Run W Args).Spares S mark p fs := by
  unfold addSpread
  refine (spares_object? v).bind fun o => ?_
  split
  · refine Spares.foldlM (fun args e => ?_) _ _
    grind
  · exact (spares_typeOf v).bind fun _ => spares_typeError _

theorem spares_addEntries (entries : List (Value × Value)) (v : Value) :
    (addEntries entries v : Run W (List (Value × Value))).Spares S mark p fs := by
  unfold addEntries
  grind

@[grind ←] theorem spares_addEntry (entries : List (Value × Value)) (key v : Value) :
    (addEntry entries key v : Run W (List (Value × Value))).Spares S mark p fs := by
  unfold addEntry
  grind

theorem spares_addPairs (entries pairs : List (Value × Value)) :
    (addPairs entries pairs : Run W (List (Value × Value))).Spares S mark p fs :=
  Spares.foldlM (fun all e => spares_addEntry all e.1 e.2) pairs entries

/-! ## Expressions -/

mutual

theorem spares_evalExpr (hCall : call.Spares S mark p) (ctx : Context) :
    (e : Expr) → (evalExpr call ctx e).Spares S mark p fs
  | .none | .bool _ | .int _ | .decimal _ _ | .text _ => spares_pure _
  | .name _ name => (spares_readName ctx name).through _
  | .list line items => (spares_evalItems hCall ctx line items []).bind fun _ => .newObject _
  | .tuple line items => (spares_evalItems hCall ctx line items []).bind fun _ => .newObject _
  | .dict line entries =>
    (spares_evalEntries hCall ctx line entries [] []).bind fun _ => .newObject _
  | .index _ base key =>
    (spares_evalExpr hCall ctx base).bind fun _ => (spares_evalExpr hCall ctx key).bind fun _ =>
      (spares_item _ _).through _
  | .member _ base name =>
    (spares_evalExpr hCall ctx base).bind fun _ => (spares_memberOf _ name).through _
  | .call line function args =>
    (spares_evalExpr hCall ctx function).bind fun _ =>
      (spares_evalArgs hCall ctx line args ⟨[], []⟩).bind fun _ => (hCall.spares _ _ _).through _
  | .negate _ e => (spares_evalExpr hCall ctx e).bind fun _ => (spares_negate _).through _
  | .plus _ e => (spares_evalExpr hCall ctx e).bind fun _ => (spares_positive _).through _
  | .not e => (spares_evalExpr hCall ctx e).bind fun _ => spares_heap.bind fun _ => spares_pure _
  | .and left right =>
    (spares_evalExpr hCall ctx left).bind fun _ => spares_heap.bind fun _ =>
      .ite (spares_evalExpr hCall ctx right) (spares_pure _)
  | .or left right =>
    (spares_evalExpr hCall ctx left).bind fun _ => spares_heap.bind fun _ =>
      .ite (spares_pure _) (spares_evalExpr hCall ctx right)
  | .choose test yes no =>
    (spares_evalExpr hCall ctx test).bind fun _ => spares_heap.bind fun _ =>
      .ite (spares_evalExpr hCall ctx yes) (spares_evalExpr hCall ctx no)
  | .binary _ _ left right =>
    (spares_evalExpr hCall ctx left).bind fun _ => (spares_evalExpr hCall ctx right).bind fun _ =>
      (spares_arithmetic _ _ _ _).through _
  | .compare line first links =>
    (spares_evalExpr hCall ctx first).bind fun v => spares_evalLinks hCall ctx line v links
  | .listFor line element target items tests => by
    refine (spares_evalExpr hCall ctx items).bind fun v => ?_
    refine ((spares_cursor v).through _).bind fun c => ?_
    refine .newFrame_bind fun frame hFrame => ?_
    refine Spares.bind (Spares.through _ (spares_collect (fun v => ?_) _ c)) fun _ => .newObject _
    refine (spares_setVariable hFrame target _).bind fun _ => ?_
    refine (spares_evalTests hCall _ tests).bind fun holds => ?_
    exact .ite ((spares_evalExpr hCall _ element).bind fun _ => spares_pure _) (spares_pure _)

theorem spares_evalArgs (hCall : call.Spares S mark p) (ctx : Context) (line : Nat) :
    (args : List Arg) → (bound : Args) → (evalArgs call ctx line args bound).Spares S mark p fs
  | [], _ => spares_pure _
  | .mk kind e :: rest, bound => by
    refine (spares_evalExpr hCall ctx e).bind fun v => ?_
    cases kind with
    | positional => exact spares_evalArgs hCall ctx line rest _
    | starred =>
      exact ((spares_addStarred bound v).through _).bind fun _ =>
        spares_evalArgs hCall ctx line rest _
    | named name =>
      exact ((spares_addNamed bound name v).through _).bind fun _ =>
        spares_evalArgs hCall ctx line rest _
    | spread =>
      exact ((spares_addSpread bound v).through _).bind fun _ =>
        spares_evalArgs hCall ctx line rest _

theorem spares_evalItems (hCall : call.Spares S mark p) (ctx : Context) (line : Nat) :
    (args : List Arg) → (items : List Value) →
      (evalItems call ctx line args items).Spares S mark p fs
  | [], _ => spares_pure _
  | .mk kind e :: rest, items => by
    refine (spares_evalExpr hCall ctx e).bind fun v => ?_
    cases kind with
    | starred =>
      exact ((spares_addItems items v).through _).bind fun _ =>
        spares_evalItems hCall ctx line rest _
    | _ => exact spares_evalItems hCall ctx line rest _

theorem spares_evalEntries (hCall : call.Spares S mark p) (ctx : Context) (line : Nat) :
    (entries : List Entry) → (waiting all : List (Value × Value)) →
      (evalEntries call ctx line entries waiting all).Spares S mark p fs
  | [], waiting, all => (spares_addPairs all waiting).through _
  | .pair key e :: rest, _, all =>
    (spares_evalExpr hCall ctx key).bind fun _ => (spares_evalExpr hCall ctx e).bind fun _ =>
      spares_evalEntries hCall ctx line rest _ all
  | .spread e :: rest, waiting, all =>
    ((spares_addPairs all waiting).through _).bind fun all =>
      (spares_evalExpr hCall ctx e).bind fun v =>
        ((spares_addEntries all v).through _).bind fun all =>
          spares_evalEntries hCall ctx line rest [] all

theorem spares_evalLinks (hCall : call.Spares S mark p) (ctx : Context) (line : Nat)
    (left : Value) : (links : List Link) → (evalLinks call ctx line left links).Spares S mark p fs
  | [] => spares_pure _
  | .mk op e :: rest =>
    (spares_evalExpr hCall ctx e).bind fun right =>
      ((spares_compareValues op left right).through _).bind fun _ =>
        .ite (spares_evalLinks hCall ctx line right rest) (spares_pure _)

theorem spares_evalTests (hCall : call.Spares S mark p) (ctx : Context) :
    (tests : List Expr) → (evalTests call ctx tests).Spares S mark p fs
  | [] => spares_pure _
  | e :: rest =>
    (spares_evalExpr hCall ctx e).bind fun _ => spares_heap.bind fun _ =>
      .ite (spares_evalTests hCall ctx rest) (spares_pure _)

end

/-! ## Parts of statements -/

theorem spares_writeName (hTarget : mark.frames ≤ ctx.target) (name : String) (v : Value) :
    (writeName ctx name v : Run W Unit).Spares S mark p fs := spares_setVariable hTarget name _

theorem spares_augment (op : BinaryOp) (old v : Value) :
    (augment op old v : Run W Value).Spares S mark p fs := by
  intro m h
  unfold augment
  refine .read (yields_object? rfl) ?_
  split
  case h_1 a items hList =>
    refine SparesAt.bind (spares_items? v m h) fun more? m' _ hGrows => ?_
    split
    · exact (sparesAt_setList hList hGrows _).bind fun _ _ _ _ => .pure _
    · exact (spares_typeOf v).bind (fun _ => spares_typeError _) m' (h.grows hGrows)
  case h_2 a items hList =>
    split
    · refine SparesAt.bind (spares_repeatCount _ _ _ m h) fun n m' _ hGrows => ?_
      exact (sparesAt_setList hList hGrows _).bind fun _ _ _ _ => .pure _
    · exact spares_arithmetic _ _ _ v m h
  case h_3 => exact spares_arithmetic _ _ _ v m h

theorem spares_importPath (path : List String) :
    (importPath path : Run W Value).Spares S mark p fs := by
  unfold importPath
  grind

theorem spares_importMember (path : List String) (name : String) :
    (importMember path name : Run W Value).Spares S mark p fs := by
  unfold importMember
  refine (spares_importPath path).bind fun v => ?_
  grind

theorem spares_handledClass (v : Value) :
    (handledClass v : Run W ErrorClass).Spares S mark p fs := by
  unfold handledClass
  grind

theorem spares_handledClasses (v : Value) :
    (handledClasses v : Run W (List ErrorClass)).Spares S mark p fs := by
  unfold handledClasses
  refine (spares_object? v).bind fun o => ?_
  split
  · exact .mapM spares_handledClass _
  · exact (spares_handledClass v).bind fun _ => spares_pure _

/-- Whether all that a run may give has a property. -/
def Run.Gives (r : Run W α) (P : α → Prop) : Prop := ∀ m a m', r.Yields m a m' → P a

theorem gives_bind {β : Type} {P : β → Prop} (r : Run W α) {next : α → Run W β}
    (h : ∀ a, (next a).Gives P) : (r >>= next).Gives P := by
  intro m b m'' hYields
  obtain ⟨a, m', -, hNext⟩ := exists_yields_of_bind hYields
  exact h a m' b m'' hNext

theorem gives_pure {P : α → Prop} {a : α} (h : P a) : (pure a : Run W α).Gives P := by
  intro m _ m' hYields
  cases hYields
  exact h

theorem gives_typeError_bind {β : Type} {P : β → Prop} (message : String) (next : α → Run W β) :
    (typeError message >>= next).Gives P := by
  intro m b m'' hYields
  obtain ⟨a, m', hFails, -⟩ := exists_yields_of_bind hYields
  cases hFails

/-- A new exception is no object yet. -/
theorem gives_makeFault (c : ErrorClass) (args : Args) :
    (makeFault c args : Run W Fault).Gives (·.object? = none) := by
  unfold makeFault
  split
  · refine gives_bind _ fun bound => gives_bind _ fun heap => ?_
    split <;> exact gives_pure rfl
  · unfold makeBuiltin
    dsimp only
    repeat' split
    all_goals first
      | exact gives_pure rfl
      | exact gives_typeError_bind _ _

theorem spares_raiseValue (v : Value) :
    (do Run.fail (← faultOf v) : Run W α).Spares S mark p fs := by
  intro m h
  unfold faultOf
  rw [bind_assoc]
  refine .read (yields_object? rfl) ?_
  split
  case h_1 c =>
    refine SparesAt.bind (spares_makeFault c _ m h) fun f m' hYields _ => .fail fun _ a ha => ?_
    rw [gives_makeFault c _ m f m' hYields] at ha
    cases ha
  case h_2 a f hObject =>
    refine .read (a := { f with object? := some a }) .pure (.fail fun _ b hb => ?_)
    cases hb
    exact ⟨f, hObject⟩
  case h_3 => exact .read .pure (.fail fun _ _ h => nomatch h)

theorem spares_runFinally {outcome : Except Fault Flow} {finally_ : Run W Flow}
    (hOutcome : ∀ f, outcome = .error f → f ∈ fs) (h : finally_.Spares S mark p fs) :
    (runFinally outcome finally_).Spares S mark p fs := by
  cases outcome with
  | ok flow =>
    refine h.bind fun other => ?_
    cases other <;> exact spares_pure _
  | error f =>
    have hf := hOutcome f rfl
    refine (h.whileHandling hf).bind fun other => ?_
    cases other with
    | next => exact spares_raiseAgain hf
    | _ => exact spares_pure _

/-! ## Statements -/

mutual

theorem spares_runStmt (hCall : call.Spares S mark p) (hTarget : mark.frames ≤ ctx.target) :
    (fs : List Fault) → (s : Stmt) → (runStmt call ctx s).Spares S mark p fs
  | _, .pass | _, .break _ | _, .continue _ | _, .return _ none => spares_pure _
  | _, .expr _ e => (spares_evalExpr hCall ctx e).bind fun _ => spares_pure _
  | _, .return _ (some e) => (spares_evalExpr hCall ctx e).bind fun _ => spares_pure _
  | _, .assign _ targets e =>
    (spares_evalExpr hCall ctx e).bind fun v =>
      (Spares.forM (fun name => spares_writeName hTarget name v) targets).bind fun _ =>
        spares_pure _
  | _, .augment _ target op e =>
    ((spares_readName ctx target).through _).bind fun old =>
      (spares_evalExpr hCall ctx e).bind fun v =>
        ((spares_augment op old v).through _).bind fun w =>
          (spares_writeName hTarget target w).bind fun _ => spares_pure _
  | fs, .choose _ arms otherwise => by
    rw [runStmt]
    refine (spares_runArms hCall hTarget fs arms).bind fun flow? => ?_
    split
    · exact spares_pure _
    · exact spares_runBlock hCall hTarget fs otherwise
  | fs, .loop _ (.each target items) body afterwards => by
    rw [runStmt]
    refine (spares_evalExpr hCall ctx items).bind fun v => ?_
    refine ((spares_cursor v).through _).bind fun c => ?_
    refine (spares_forEach (fun v => ?_) _ c).bind fun flow => ?_
    · exact (spares_writeName hTarget target v).bind fun _ =>
        spares_runBlock hCall hTarget fs body
    · split
      · exact spares_runBlock hCall hTarget fs afterwards
      · exact spares_pure _
      · exact spares_pure _
  | fs, .loop _ (.while test) body afterwards => by
    rw [runStmt]
    refine (spares_whileTrue ?_ (spares_runBlock hCall hTarget fs body) _).bind fun flow => ?_
    · exact (spares_evalExpr hCall ctx test).bind fun _ => spares_heap.bind fun _ => spares_pure _
    · split
      · exact spares_runBlock hCall hTarget fs afterwards
      · exact spares_pure _
      · exact spares_pure _
  | _, .function _ _ _ =>
    (Spares.newObject _).bind fun _ => (spares_writeName hTarget _ _).bind fun _ => spares_pure _
  | _, .raise _ none => by
    rw [runStmt]
    intro m h
    refine .read (yields_get m) ?_
    split
    case h_1 f rest hHandling =>
      refine sparesAt_raiseAgain fun hp => h.sound hp f ?_
      rw [hHandling]
      exact List.mem_append_right _ List.mem_cons_self
    case h_2 => exact (spares_raise _ _).through _ m h
  | _, .raise _ (some e) =>
    (spares_evalExpr hCall ctx e).bind fun v => (spares_raiseValue v).through _
  | fs, .attempt _ body handlers afterwards finally_ => by
    rw [runStmt]
    refine .settle_bind ?_ ?_ ?_
    · refine .settle_bind (spares_runBlock hCall hTarget fs body) (fun flow => ?_) fun f => ?_
      · cases flow with
        | next => exact spares_runBlock hCall hTarget fs afterwards
        | _ => exact spares_pure _
      · exact spares_runHandlers hCall hTarget (f :: fs) List.mem_cons_self handlers
    · intro flow
      refine spares_runFinally (fun f hf => ?_) (spares_runBlock hCall hTarget fs finally_)
      cases hf
    · intro f
      refine spares_runFinally (fun g hg => ?_) (spares_runBlock hCall hTarget (f :: fs) finally_)
      cases hg
      exact List.mem_cons_self
  | _, .importModule _ path as? => by
    rw [runStmt]
    refine ((spares_importPath path).through _).bind fun v => ?_
    split
    · exact (spares_writeName hTarget _ _).bind fun _ => spares_pure _
    · exact (spares_importPath _).bind fun _ =>
        (spares_writeName hTarget _ _).bind fun _ => spares_pure _
  | _, .importFrom _ path members => by
    rw [runStmt]
    refine Spares.bind (Spares.forM (fun member => ?_) members) fun _ => spares_pure _
    exact ((spares_importMember path member.1).through _).bind fun _ =>
      spares_writeName hTarget _ _

theorem spares_runBlock (hCall : call.Spares S mark p) (hTarget : mark.frames ≤ ctx.target) :
    (fs : List Fault) → (stmts : List Stmt) → (runBlock call ctx stmts).Spares S mark p fs
  | _, [] => spares_pure _
  | fs, s :: rest => by
    refine (spares_runStmt hCall hTarget fs s).bind fun flow => ?_
    cases flow with
    | next => exact spares_runBlock hCall hTarget fs rest
    | _ => exact spares_pure _

theorem spares_runArms (hCall : call.Spares S mark p) (hTarget : mark.frames ≤ ctx.target) :
    (fs : List Fault) → (arms : List Arm) → (runArms call ctx arms).Spares S mark p fs
  | _, [] => spares_pure _
  | fs, .mk _ test body :: rest =>
    (spares_evalExpr hCall ctx test).bind fun _ => spares_heap.bind fun _ =>
      .ite ((spares_runBlock hCall hTarget fs body).bind fun _ => spares_pure _)
        (spares_runArms hCall hTarget fs rest)

theorem spares_runHandlers (hCall : call.Spares S mark p) (hTarget : mark.frames ≤ ctx.target)
    {f : Fault} : (fs : List Fault) → f ∈ fs → (handlers : List Handler) →
      (runHandlers call ctx f handlers).Spares S mark p fs
  | _, hf, [] => spares_raiseAgain hf
  | fs, hf, .mk _ kind as? body :: rest => by
    refine Spares.bind (Spares.whileHandling ?_ hf) fun takes => ?_
    · split
      · exact spares_pure _
      · exact (spares_evalExpr hCall ctx _).bind fun v =>
          ((spares_handledClasses v).through _).bind fun _ => spares_pure _
    · refine .ite ?_ (spares_runHandlers hCall hTarget fs hf rest)
      split
      · exact (spares_runBlock hCall hTarget fs body).whileHandling hf
      · refine (spares_writeName hTarget _ _).bind fun _ => ?_
        refine .settle_bind ((spares_runBlock hCall hTarget fs body).whileHandling hf) ?_ ?_
        · exact fun flow => (spares_setVariable hTarget _ _).bind fun _ => spares_pure _
        · exact fun g => (spares_setVariable hTarget _ _).bind fun _ =>
            spares_fail_mem List.mem_cons_self

end

/-! ## Calls -/

theorem spares_enter (hCall : call.Spares S mark p) (f : Closure) (args : Args)
    (lines : List Nat) : (enter call f args lines).Spares S mark p fs := by
  unfold enter
  refine (f.parameters.spares_bind args).bind fun bound => ?_
  refine .newFrame_bind fun frame hFrame => ?_
  have hTarget : mark.frames ≤
      Context.target ⟨f.globals, frame :: f.scopes, f.path ++ ".<locals>.", lines⟩ := hFrame
  refine (spares_runBlock hCall hTarget fs f.body).bind fun flow => ?_
  cases flow <;> exact spares_pure _

/-- Whether what scripts can ask of the world spares what was there, if the calls of scripts do. -/
structure Host.Spares (S : W → W → Prop) (mark : Mark) (p : Prop) (host : Host W) : Prop where
  render : ∀ q call, Caller.Spares S mark p call → ∀ args,
    (host.render q call args).Spares S mark p []
  setDefaults : ∀ args, (host.setDefaults args).Spares S mark p []
  clear : ∀ args, (host.clear args).Spares S mark p []

theorem spares_loadDefaults (hCall : call.Spares S mark p) (args : Args) :
    (loadDefaults call args).Spares S mark p fs := by
  unfold loadDefaults
  refine (Parameters.spares_bind _ args).bind fun bound => ?_
  refine (spares_memberOf _ "exists").bind fun exists? => ?_
  refine (hCall.spares exists? _ _).bind fun found => ?_
  refine spares_heap.bind fun heap => ?_
  exact .ite (spares_typeError _) (spares_raise _ _)

theorem Host.Spares.callAt {host : Host W} (h : host.Spares S mark p) (depth : Nat) :
    (callAt host depth).Spares S mark p := by
  induction depth with
  | zero => exact fun _ _ _ => spares_raise _ _
  | succ depth ih =>
    intro v args lines
    unfold Script.callAt
    refine (spares_object? v).bind fun o => ?_
    split
    · exact h.render _ _ ih args
    · exact h.render _ _ ih _
    · exact h.setDefaults args
    · exact h.clear _
    · exact spares_loadDefaults ih args
    · exact spares_applyPlain _ args lines
    · exact (spares_makeFault _ args).bind fun _ => .newObject _
    · exact spares_enter ih _ args lines
    · exact spares_applyMethod _ _ args
    · exact (spares_typeOf v).bind fun _ => spares_typeError _

/-! ## Units -/

theorem spares_globalOf? (u : CompiledUnit) (name : String) :
    (globalOf? u name : Run W (Option Value)).Spares S mark p fs :=
  (spares_frame u.globals).bind fun _ => spares_pure _

theorem spares_isCompiled (u : CompiledUnit) : (isCompiled u : Run W Bool).Spares S mark p fs := by
  unfold isCompiled
  refine (spares_globalOf? u _).bind fun v? => ?_
  grind

theorem spares_load (hCall : call.Spares S mark p) (namespaceId : String)
    (program fileName : List Char) (lineOffset : Int) :
    (load call namespaceId program fileName lineOffset).Spares S mark p fs := by
  unfold load
  refine .ite (.raise_bind _ _ _) ?_
  refine .newFrame_bind fun globals hGlobals => ?_
  have hTarget : mark.frames ≤ Context.target ⟨globals, [], "", []⟩ := hGlobals
  dsimp only
  split
  · exact spares_fail_new _ _
  · refine .settle_bind (spares_runBlock hCall hTarget fs _) (fun _ => spares_pure _) fun f => ?_
    refine .ite ?_ (spares_fail_mem List.mem_cons_self)
    exact spares_heap.bind fun heap => spares_fail_new _ _

theorem spares_callEntry (hCall : call.Spares S mark p) (u : CompiledUnit)
    (options params : Value) : (callEntry call u options params).Spares S mark p fs := by
  unfold callEntry
  refine (spares_globalOf? u _).bind fun entry? => ?_
  split
  · refine spares_heap.bind fun heap => ?_
    exact .ite (hCall.spares _ _ _) (spares_fail_new _ _)
  · exact spares_fail_new _ _

theorem spares_execute (hCall : call.Spares S mark p) (u : CompiledUnit) (options params : Value) :
    (execute call u options params).Spares S mark p fs := by
  unfold execute
  refine .settle_bind (spares_callEntry hCall u options params) spares_pure fun f => ?_
  refine .ite (spares_fail_mem List.mem_cons_self) ?_
  exact spares_heap.bind fun heap => spares_fail_new _ _

/-- A counter is back where it was however the run ends, so all that matters of the world is what
the run does to it. -/
theorem spares_counted {change : (Nat → Nat) → W → W} {r : Run W α}
    (hChange : ∀ w w', S (change (· + 1) w) w' → S w (change (· - 1) w'))
    (hr : r.Spares S mark p fs) : (counted change r).Spares S mark p fs := by
  intro m h
  have hStart : Machine.Fits mark p fs { m with world := change (· + 1) m.world } :=
    ⟨h.objects, h.frames, h.sound⟩
  obtain ⟨outcome, m', hSettle, hGrows, hObject⟩ := Spares.exists_settled (hr _ hStart)
  have hPerform : (counted change r).perform m =
      (unsettle outcome).perform { m' with world := change (· - 1) m'.world } :=
    ((yields_modify _ m).perform_bind _).trans
      ((hSettle.perform_bind _).trans ((yields_modify _ m').perform_bind _))
  have hEnd : m.Grows S mark p { m' with world := change (· - 1) m'.world } :=
    { hGrows with world := hChange _ _ hGrows.world }
  refine .of_perform hPerform hEnd ?_
  cases outcome with
  | ok a => exact .pure a
  | error f => exact .fail (hObject f rfl)

end Stencil.Script
