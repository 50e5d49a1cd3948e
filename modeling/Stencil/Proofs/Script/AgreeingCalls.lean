import Stencil.Proofs.Script.Agreeing
import Stencil.Proofs.Script.Completion

/-!
# Scripts whose calls agree

If two ways to make calls agree, then whatever a script does agrees that makes its calls in the one
way or the other: its expressions and statements, the functions that it calls, and the units that
are loaded and executed. A part that makes no calls is the same run twice, and what such a run
spares is kept.

* `agrees_evalExpr`, `agrees_runBlock`: expressions and statements.
* `Host.Agrees.callAt`: calls agree if what scripts can ask of their world agrees.
* `agreesAt_load`: while a unit is loaded its variables are written, and no longer.
-/

namespace Stencil.Script

open Run

variable {W α β : Type} {S : W → W → Prop} {I : List Address → Machine W → Prop} {b : Bool}
  {G : List Address} {r r' : Run W α} {m m' : Machine W}

/-- Whether two ways to make calls agree, whatever blocks of variables are being written. -/
def Caller.Agrees (I : List Address → Machine W → Prop) (b : Bool) (call call' : Caller W) : Prop :=
  ∀ G v args lines, (call v args lines).Agrees I b G (call' v args lines)

variable [IsPreorder W S] {call call' : Caller W} {ctx : Context}

section

variable (hI : Upheld S I)

include hI

theorem agrees_collect {f f' : Value → Run W (Option Value)} (hf : ∀ v, (f v).Agrees I b G (f' v))
    (rounds : Nat) (c : Cursor) : (collect f rounds c).Agrees I b G (collect f' rounds c) := by
  induction rounds generalizing c with
  | zero => exact hI.fail _
  | succ rounds ih =>
    unfold collect
    refine (hI.agrees fun _ => Cursor.spares_next? c).bind fun item? => ?_
    split
    · exact hI.pure _
    · refine (hf _).bind fun w? => ?_
      split
      · exact (ih _).bind fun _ => hI.pure _
      · exact ih _

theorem agrees_forEach {step : Step} {body body' : Value → Run W Flow}
    (hBody : ∀ v, (body v).Agrees I b G (body' v)) (rounds : Nat) (c : Cursor) :
    (forEach step body rounds c).Agrees I b G (forEach step body' rounds c) := by
  induction rounds generalizing c with
  | zero => exact hI.fail _
  | succ rounds ih =>
    unfold forEach
    refine (hI.agrees fun _ => (Cursor.spares_next? c).through step).bind fun item? => ?_
    split
    · exact hI.pure _
    · refine (hBody _).bind fun flow => ?_
      cases flow with
      | next => exact ih _
      | «continue» => exact ih _
      | «break» => exact hI.pure _
      | «return» v => exact hI.pure _

theorem agrees_whileTrue {test test' : Run W Bool} {body body' : Run W Flow}
    (hTest : test.Agrees I b G test') (hBody : body.Agrees I b G body') (rounds : Nat) :
    (whileTrue test body rounds).Agrees I b G (whileTrue test' body' rounds) := by
  induction rounds with
  | zero => exact hI.fail _
  | succ rounds ih =>
    unfold whileTrue
    refine hTest.bind fun holds => .ite (hBody.bind fun flow => ?_) (hI.pure _)
    cases flow with
    | next => exact ih
    | «continue» => exact ih
    | «break» => exact hI.pure _
    | «return» v => exact hI.pure _

mutual

theorem agrees_evalExpr {G : List Address} (hCall : call.Agrees I b call') (ctx : Context) :
    (e : Expr) → (evalExpr call ctx e).Agrees I b G (evalExpr call' ctx e)
  | .none | .bool _ | .int _ | .decimal _ _ | .text _ => hI.pure _
  | .name _ name => hI.agrees fun _ => (spares_readName ctx name).through _
  | .list line items => (agrees_evalItems hCall ctx line items []).bind fun _ => hI.newObject _
  | .tuple line items => (agrees_evalItems hCall ctx line items []).bind fun _ => hI.newObject _
  | .dict line entries =>
    (agrees_evalEntries hCall ctx line entries [] []).bind fun _ => hI.newObject _
  | .index _ base key =>
    (agrees_evalExpr hCall ctx base).bind fun _ => (agrees_evalExpr hCall ctx key).bind fun _ =>
      hI.agrees fun _ => (spares_item _ _).through _
  | .member _ base name =>
    (agrees_evalExpr hCall ctx base).bind fun _ =>
      hI.agrees fun _ => (spares_memberOf _ name).through _
  | .call line function args =>
    (agrees_evalExpr hCall ctx function).bind fun _ =>
      (agrees_evalArgs hCall ctx line args ⟨[], []⟩).bind fun _ => hI.through (hCall _ _ _ _) _
  | .negate _ e =>
    (agrees_evalExpr hCall ctx e).bind fun _ => hI.agrees fun _ => (spares_negate _).through _
  | .plus _ e =>
    (agrees_evalExpr hCall ctx e).bind fun _ => hI.agrees fun _ => (spares_positive _).through _
  | .not e => (agrees_evalExpr hCall ctx e).bind fun _ => hI.heap.bind fun _ => hI.pure _
  | .and left right =>
    (agrees_evalExpr hCall ctx left).bind fun _ => hI.heap.bind fun _ =>
      .ite (agrees_evalExpr hCall ctx right) (hI.pure _)
  | .or left right =>
    (agrees_evalExpr hCall ctx left).bind fun _ => hI.heap.bind fun _ =>
      .ite (hI.pure _) (agrees_evalExpr hCall ctx right)
  | .choose test yes no =>
    (agrees_evalExpr hCall ctx test).bind fun _ => hI.heap.bind fun _ =>
      .ite (agrees_evalExpr hCall ctx yes) (agrees_evalExpr hCall ctx no)
  | .binary _ _ left right =>
    (agrees_evalExpr hCall ctx left).bind fun _ => (agrees_evalExpr hCall ctx right).bind fun _ =>
      hI.agrees fun _ => (spares_arithmetic _ _ _ _).through _
  | .compare line first links =>
    (agrees_evalExpr hCall ctx first).bind fun v => agrees_evalLinks hCall ctx line v links
  | .listFor line element target items tests => by
    refine (agrees_evalExpr hCall ctx items).bind fun v => ?_
    refine (hI.agrees fun _ => (spares_cursor v).through _).bind fun c => ?_
    refine hI.newFrame_bind fun frame => ?_
    refine Agrees.bind (hI.through (agrees_collect hI (fun v => ?_) _ c) _) fun _ => hI.newObject _
    refine (hI.setVariable List.mem_cons_self target _).bind fun _ => ?_
    refine (agrees_evalTests hCall _ tests).bind fun holds => ?_
    exact .ite ((agrees_evalExpr hCall _ element).bind fun _ => hI.pure _) (hI.pure _)

theorem agrees_evalArgs {G : List Address} (hCall : call.Agrees I b call') (ctx : Context)
    (line : Nat) :
    (args : List Arg) → (bound : Args) →
      (evalArgs call ctx line args bound).Agrees I b G (evalArgs call' ctx line args bound)
  | [], _ => hI.pure _
  | .mk kind e :: rest, bound => by
    refine (agrees_evalExpr hCall ctx e).bind fun v => ?_
    cases kind with
    | positional => exact agrees_evalArgs hCall ctx line rest _
    | starred =>
      exact (hI.agrees fun _ => (spares_addStarred bound v).through _).bind fun _ =>
        agrees_evalArgs hCall ctx line rest _
    | named name =>
      exact (hI.agrees fun _ => (spares_addNamed bound name v).through _).bind fun _ =>
        agrees_evalArgs hCall ctx line rest _
    | spread =>
      exact (hI.agrees fun _ => (spares_addSpread bound v).through _).bind fun _ =>
        agrees_evalArgs hCall ctx line rest _

theorem agrees_evalItems {G : List Address} (hCall : call.Agrees I b call') (ctx : Context)
    (line : Nat) :
    (args : List Arg) → (items : List Value) →
      (evalItems call ctx line args items).Agrees I b G (evalItems call' ctx line args items)
  | [], _ => hI.pure _
  | .mk kind e :: rest, items => by
    refine (agrees_evalExpr hCall ctx e).bind fun v => ?_
    cases kind with
    | starred =>
      exact (hI.agrees fun _ => (spares_addItems items v).through _).bind fun _ =>
        agrees_evalItems hCall ctx line rest _
    | _ => exact agrees_evalItems hCall ctx line rest _

theorem agrees_evalEntries {G : List Address} (hCall : call.Agrees I b call') (ctx : Context)
    (line : Nat) :
    (entries : List Entry) → (waiting all : List (Value × Value)) →
      (evalEntries call ctx line entries waiting all).Agrees I b G
        (evalEntries call' ctx line entries waiting all)
  | [], waiting, all => hI.agrees fun _ => (spares_addPairs all waiting).through _
  | .pair key e :: rest, _, all =>
    (agrees_evalExpr hCall ctx key).bind fun _ => (agrees_evalExpr hCall ctx e).bind fun _ =>
      agrees_evalEntries hCall ctx line rest _ all
  | .spread e :: rest, waiting, all =>
    (hI.agrees fun _ => (spares_addPairs all waiting).through _).bind fun all =>
      (agrees_evalExpr hCall ctx e).bind fun v =>
        (hI.agrees fun _ => (spares_addEntries all v).through _).bind fun all =>
          agrees_evalEntries hCall ctx line rest [] all

theorem agrees_evalLinks {G : List Address} (hCall : call.Agrees I b call') (ctx : Context)
    (line : Nat) (left : Value) : (links : List Link) →
      (evalLinks call ctx line left links).Agrees I b G (evalLinks call' ctx line left links)
  | [] => hI.pure _
  | .mk op e :: rest =>
    (agrees_evalExpr hCall ctx e).bind fun right =>
      (hI.agrees fun _ => (spares_compareValues op left right).through _).bind fun _ =>
        .ite (agrees_evalLinks hCall ctx line right rest) (hI.pure _)

theorem agrees_evalTests {G : List Address} (hCall : call.Agrees I b call') (ctx : Context) :
    (tests : List Expr) → (evalTests call ctx tests).Agrees I b G (evalTests call' ctx tests)
  | [] => hI.pure _
  | e :: rest =>
    (agrees_evalExpr hCall ctx e).bind fun _ => hI.heap.bind fun _ =>
      .ite (agrees_evalTests hCall ctx rest) (hI.pure _)

end

/-! ## Statements -/

omit [IsPreorder W S] in
theorem agrees_writeName (hTarget : ctx.target ∈ G) (name : String) (v : Value) :
    (writeName ctx name v : Run W Unit).Agrees I b G (writeName ctx name v) :=
  hI.setVariable hTarget name _

theorem agrees_runFinally (outcome : Except Fault Flow) {finally_ finally' : Run W Flow}
    (h : finally_.Agrees I b G finally') :
    (runFinally outcome finally_).Agrees I b G (runFinally outcome finally') := by
  cases outcome with
  | ok flow =>
    refine h.bind fun other => ?_
    cases other <;> exact hI.pure _
  | error f =>
    refine (hI.whileHandling h f).bind fun other => ?_
    cases other with
    | next => exact hI.raiseAgain f
    | _ => exact hI.pure _

/-- What comes after a loop, unless the loop was left early. -/
theorem agrees_afterLoop {loop loop' afterwards afterwards' : Run W Flow}
    (hLoop : loop.Agrees I b G loop') (h : afterwards.Agrees I b G afterwards') :
    (do
      match ← loop with
      | .next => afterwards
      | .return v => return .return v
      | _ => return .next : Run W Flow).Agrees I b G
    (do
      match ← loop' with
      | .next => afterwards'
      | .return v => return .return v
      | _ => return .next) := by
  refine hLoop.bind fun flow => ?_
  cases flow with
  | next => exact h
  | _ => exact hI.pure _

mutual

theorem agrees_runStmt (hCall : call.Agrees I b call') (hTarget : ctx.target ∈ G) :
    (s : Stmt) → (runStmt call ctx s).Agrees I b G (runStmt call' ctx s)
  | .pass | .break _ | .continue _ | .return _ none => hI.pure _
  | .expr _ e => (agrees_evalExpr hI hCall ctx e).bind fun _ => hI.pure _
  | .return _ (some e) => (agrees_evalExpr hI hCall ctx e).bind fun _ => hI.pure _
  | .assign _ targets e =>
    (agrees_evalExpr hI hCall ctx e).bind fun v =>
      (hI.forM (fun name => agrees_writeName hI hTarget name v) targets).bind fun _ => hI.pure _
  | .augment _ target op e =>
    (hI.agrees fun _ => (spares_readName ctx target).through _).bind fun old =>
      (agrees_evalExpr hI hCall ctx e).bind fun v =>
        (hI.agrees fun _ => (spares_augment op old v).through _).bind fun w =>
          (agrees_writeName hI hTarget target w).bind fun _ => hI.pure _
  | .choose _ arms otherwise => by
    rw [runStmt, runStmt]
    refine (agrees_runArms hCall hTarget arms).bind fun flow? => ?_
    split
    · exact hI.pure _
    · exact agrees_runBlock hCall hTarget otherwise
  | .loop _ (.each target items) body afterwards => by
    rw [runStmt, runStmt]
    refine (agrees_evalExpr hI hCall ctx items).bind fun v => ?_
    refine (hI.agrees fun _ => (spares_cursor v).through _).bind fun c => ?_
    refine agrees_afterLoop hI (agrees_forEach hI (fun v => ?_) _ c)
      (agrees_runBlock hCall hTarget afterwards)
    exact (agrees_writeName hI hTarget target v).bind fun _ => agrees_runBlock hCall hTarget body
  | .loop _ (.while test) body afterwards => by
    rw [runStmt, runStmt]
    refine agrees_afterLoop hI (agrees_whileTrue hI ?_ (agrees_runBlock hCall hTarget body) _)
      (agrees_runBlock hCall hTarget afterwards)
    exact (agrees_evalExpr hI hCall ctx test).bind fun _ => hI.heap.bind fun _ => hI.pure _
  | .function _ _ _ =>
    (hI.newObject _).bind fun _ => (agrees_writeName hI hTarget _ _).bind fun _ => hI.pure _
  | .raise _ none => by
    rw [runStmt, runStmt]
    refine Agrees.bind (hI.agrees fun _ => spares_of_read fun m => ⟨m, yields_get m⟩) fun m => ?_
    split
    · exact hI.raiseAgain _
    · exact hI.agrees fun _ => (spares_raise _ _).through _
  | .raise _ (some e) =>
    (agrees_evalExpr hI hCall ctx e).bind fun v =>
      hI.agrees fun _ => (spares_raiseValue v).through _
  | .attempt _ body handlers afterwards finally_ => by
    rw [runStmt, runStmt]
    refine Agrees.bind (hI.settle ?_) fun outcome =>
      agrees_runFinally hI outcome (agrees_runBlock hCall hTarget finally_)
    refine (hI.settle (agrees_runBlock hCall hTarget body)).bind fun outcome => ?_
    split
    · exact agrees_runBlock hCall hTarget afterwards
    · exact hI.pure _
    · exact agrees_runHandlers hCall hTarget _ handlers
  | .importModule _ path as? => by
    rw [runStmt, runStmt]
    refine (hI.agrees fun _ => (spares_importPath path).through _).bind fun v => ?_
    split
    · exact (agrees_writeName hI hTarget _ _).bind fun _ => hI.pure _
    · exact (hI.agrees fun _ => spares_importPath _).bind fun _ =>
        (agrees_writeName hI hTarget _ _).bind fun _ => hI.pure _
  | .importFrom _ path members => by
    rw [runStmt, runStmt]
    refine Agrees.bind (hI.forM (fun member => ?_) members) fun _ => hI.pure _
    exact (hI.agrees fun _ => (spares_importMember path member.1).through _).bind fun _ =>
      agrees_writeName hI hTarget _ _

theorem agrees_runBlock (hCall : call.Agrees I b call') (hTarget : ctx.target ∈ G) :
    (stmts : List Stmt) → (runBlock call ctx stmts).Agrees I b G (runBlock call' ctx stmts)
  | [] => hI.pure _
  | s :: rest => by
    refine (agrees_runStmt hCall hTarget s).bind fun flow => ?_
    cases flow with
    | next => exact agrees_runBlock hCall hTarget rest
    | _ => exact hI.pure _

theorem agrees_runArms (hCall : call.Agrees I b call') (hTarget : ctx.target ∈ G) :
    (arms : List Arm) → (runArms call ctx arms).Agrees I b G (runArms call' ctx arms)
  | [] => hI.pure _
  | .mk _ test body :: rest =>
    (agrees_evalExpr hI hCall ctx test).bind fun _ => hI.heap.bind fun _ =>
      .ite ((agrees_runBlock hCall hTarget body).bind fun _ => hI.pure _)
        (agrees_runArms hCall hTarget rest)

theorem agrees_runHandlers (hCall : call.Agrees I b call') (hTarget : ctx.target ∈ G) (f : Fault) :
    (handlers : List Handler) →
      (runHandlers call ctx f handlers).Agrees I b G (runHandlers call' ctx f handlers)
  | [] => hI.raiseAgain f
  | .mk _ kind as? body :: rest => by
    have hBody := hI.whileHandling (agrees_runBlock hCall hTarget body) f
    refine Agrees.bind (hI.whileHandling ?_ f) fun takes =>
      .ite ?_ (agrees_runHandlers hCall hTarget f rest)
    · split
      · exact hI.pure _
      · exact (agrees_evalExpr hI hCall ctx _).bind fun v =>
          (hI.agrees fun _ => (spares_handledClasses v).through _).bind fun _ => hI.pure _
    · split
      · exact hBody
      · refine (agrees_writeName hI hTarget _ _).bind fun _ => ?_
        refine (hI.settle hBody).bind fun outcome => ?_
        refine (hI.setVariable hTarget _ _).bind fun _ => ?_
        cases outcome with
        | ok flow => exact hI.pure _
        | error g => exact hI.fail g

end

/-! ## Calls -/

theorem agrees_enter (hCall : call.Agrees I b call') (f : Closure) (args : Args)
    (lines : List Nat) :
    (enter call f args lines).Agrees I b G (enter call' f args lines) := by
  unfold enter
  refine (hI.agrees fun _ => f.parameters.spares_bind args).bind fun bound => ?_
  refine hI.newFrame_bind fun frame => ?_
  have hTarget : Context.target ⟨f.globals, frame :: f.scopes, f.path ++ ".<locals>.", lines⟩ ∈
      frame :: G := List.mem_cons_self
  refine (agrees_runBlock hI hCall hTarget f.body).bind fun flow => ?_
  cases flow <;> exact hI.pure _

/-- Whether what scripts can ask of their world agrees, if the calls of scripts do. -/
structure Host.Agrees (I : List Address → Machine W → Prop) (b : Bool) (host host' : Host W) :
    Prop where
  render : ∀ q call call', Caller.Agrees I b call call' → ∀ G args,
    (host.render q call args).Agrees I b G (host'.render q call' args)
  setDefaults : ∀ G args, (host.setDefaults args).Agrees I b G (host'.setDefaults args)
  clear : ∀ G args, (host.clear args).Agrees I b G (host'.clear args)

theorem agrees_loadDefaults (hCall : call.Agrees I b call') (args : Args) :
    (loadDefaults call args).Agrees I b G (loadDefaults call' args) := by
  unfold loadDefaults
  refine (hI.agrees fun _ => Parameters.spares_bind _ args).bind fun bound => ?_
  refine (hI.agrees fun _ => spares_memberOf _ "exists").bind fun exists? => ?_
  refine (hCall G exists? _ _).bind fun found => hI.heap.bind fun heap => ?_
  exact .ite (hI.fail _) (hI.fail _)

theorem Host.Agrees.callAt {host host' : Host W} (h : host.Agrees I b host') (depth : Nat) :
    (callAt host depth).Agrees I b (callAt host' depth) := by
  induction depth with
  | zero => exact fun _ _ _ _ => hI.fail _
  | succ depth ih =>
    intro G v args lines
    unfold Script.callAt
    refine (hI.agrees fun _ => spares_object? v).bind fun o => ?_
    split
    · exact h.render _ _ _ ih G args
    · exact h.render _ _ _ ih G _
    · exact h.setDefaults G args
    · exact h.clear G _
    · exact agrees_loadDefaults hI ih args
    · exact hI.agrees fun _ => spares_applyPlain _ args lines
    · exact (hI.agrees fun _ => spares_makeFault _ args).bind fun _ => hI.newObject _
    · exact agrees_enter hI ih _ args lines
    · exact hI.agrees fun _ => spares_applyMethod _ _ args
    · exact hI.agrees fun _ => (spares_typeOf v).bind fun _ => spares_typeError _

/-! ## Units -/

theorem agrees_loadInto (hCall : call.Agrees I b call') (program : List Char) {u : CompiledUnit}
    (hGlobals : u.globals ∈ G) :
    (loadInto call program u).Agrees I b G (loadInto call' program u) := by
  have hTarget : Context.target ⟨u.globals, [], "", []⟩ ∈ G := hGlobals
  unfold loadInto
  cases parse program with
  | error line => exact hI.fail _
  | ok statements =>
    refine (hI.settle (agrees_runBlock hI hCall hTarget _)).bind fun outcome => ?_
    cases outcome with
    | ok flow => exact hI.pure _
    | error f => exact .ite (hI.heap.bind fun _ => hI.fail _) (hI.fail _)

theorem agrees_load (hCall : call.Agrees I b call') (namespaceId : String)
    (program fileName : List Char) (lineOffset : Int) :
    (load call namespaceId program fileName lineOffset).Agrees I b G
      (load call' namespaceId program fileName lineOffset) :=
  .ite (.fail_bind _)
    (hI.newFrame_bind fun _ => agrees_loadInto hI hCall program List.mem_cons_self)

/-- The variables of a unit that is loaded are open until it has been loaded. -/
theorem agreesAt_load (hCall : call.Agrees I b call') (namespaceId : String)
    {program : List Char} (fileName : List Char) (lineOffset : Int)
    (hNull : ¬ program.contains '\x00' = true) (hm : I G m) :
    (load call namespaceId program fileName lineOffset).AgreesAt (I (m.frames.size :: G)) b
      (load call' namespaceId program fileName lineOffset) m := by
  rw [load_eq call _ _ _ _ hNull, load_eq call' _ _ _ _ hNull, AgreesAt,
    (yields_newFrame _ m).perform_bind, (yields_newFrame _ m).perform_bind]
  exact (agrees_loadInto hI hCall program List.mem_cons_self).sound _ (hI.opens _ hm)

theorem agrees_load_bind (hCall : call.Agrees I b call') {namespaceId : String}
    {program fileName : List Char} {lineOffset : Int} {next next' : CompiledUnit → Run W β}
    (hNext : ∀ u m m', I G m → (load call namespaceId program fileName lineOffset).Yields m u m' →
      I (u.globals :: G) m' → (next u).AgreesAt (I G) b (next' u) m')
    (hSpoilt : ∀ u, (next' u).StaysSpoilt b) :
    (load call namespaceId program fileName lineOffset >>= next).Agrees I b G
      (load call' namespaceId program fileName lineOffset >>= next') := by
  constructor
  case sound =>
    intro m hm
    by_cases hNull : program.contains '\x00' = true
    · unfold load
      rw [if_pos hNull, if_pos hNull, bind_assoc, bind_assoc]
      exact (Agrees.fail_bind _).sound m hm
    · refine (agreesAt_load hI hCall namespaceId fileName lineOffset hNull hm).bind ?_
        (fun _ => hI.closes) hSpoilt
      intro u m' hLoad hm'
      rw [← (runBlock_of_load hLoad).1] at hm'
      exact hNext u m m' hm hLoad hm'
  case spoilt =>
    intro m hm
    exact strict_bind
      ((agrees_load (G := []) hI hCall namespaceId program fileName lineOffset).spoilt m hm) hSpoilt

theorem agrees_callEntry (hCall : call.Agrees I b call') (u : CompiledUnit)
    (options params : Value) :
    (callEntry call u options params).Agrees I b G (callEntry call' u options params) := by
  unfold callEntry
  refine (hI.agrees fun _ => spares_globalOf? u _).bind fun entry? => ?_
  split
  · exact hI.heap.bind fun heap => .ite (hCall _ _ _ _) (hI.fail _)
  · exact hI.fail _

theorem agrees_execute (hCall : call.Agrees I b call') (u : CompiledUnit) (options params : Value) :
    (execute call u options params).Agrees I b G (execute call' u options params) := by
  unfold execute
  refine (hI.settle (agrees_callEntry hI hCall u options params)).bind fun outcome => ?_
  split
  · exact hI.pure _
  · exact .ite (hI.fail _) (hI.heap.bind fun heap => hI.fail _)

theorem agrees_counted {change : (Nat → Nat) → W → W}
    (hChange : ∀ f m, I G m → I G { m with world := change f m.world }) (hr : r.Agrees I b G r') :
    (counted change r).Agrees I b G (counted change r') := by
  have hModify (f : Nat → Nat) : Run.Agrees I b G
      (modify fun m => { m with world := change f m.world } : Run W PUnit)
      (modify fun m => { m with world := change f m.world }) :=
    .of_same (fun m hm => hChange f m hm) fun _ => rfl
  refine (hModify _).bind fun _ => (hI.settle hr).bind fun outcome => (hModify _).bind fun _ => ?_
  cases outcome with
  | ok a => exact hI.pure a
  | error f => exact hI.fail f

end

end Stencil.Script
