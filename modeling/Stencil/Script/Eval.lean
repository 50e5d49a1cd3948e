import Stencil.Script.Call

/-!
# Running

Expressions are evaluated and statements are run by recursion on their structure. A call of a
function leaves that structure, so calls are made through a `Caller`, and the caller that runs the
bodies of functions, `callAt`, is defined by recursion on how deep calls may be nested.

Loops are bounded by `roundLimit`; a program that comes to it ends with an exception. Only the
expressions and statements of `Expr` and `Stmt` are run, since `parse` refuses programs with others.

- `evalExpr`, `runBlock`: values of expressions, effects of statements.
- `callAt`: calls of any value.
-/

namespace Stencil.Script

/-- A way to call a value. The lines are those of the call and of the calls around it, innermost
first. -/
abbrev Caller (W : Type) := Value → Args → List Nat → Run W Value

/-- Where some code runs. -/
structure Context where
  /-- The global variables of its program. -/
  globals : Address
  /-- The variables of the functions around it, innermost first; none outside of functions. -/
  scopes : List Address
  /-- What goes in front of the names of functions that it defines. -/
  path : String
  /-- The lines of the calls that led here, innermost first. -/
  lines : List Nat
  deriving Inhabited

namespace Context

/-- The step of a trace for a line. -/
def step (ctx : Context) (line : Nat) : Step := ⟨ctx.globals, line⟩

/-- The variables that an assignment changes. -/
def target (ctx : Context) : Address := ctx.scopes.headD ctx.globals

end Context

/-- How a statement ends. -/
inductive Flow where
  /-- The next statement follows. -/
  | next
  /-- The loop around it is left. -/
  | break
  /-- The loop around it goes on with its next round. -/
  | continue
  /-- The function around it is left with a value. -/
  | return (v : Value)
  deriving Inhabited

variable {W : Type}

/-! ## Variables -/

/-- The value of a name that is known everywhere. -/
def builtinValue? (name : String) : Option Value :=
  match name with
  | "len" => some (.builtin .len)
  | "str" => some (.builtin .str)
  | "range" => some (.builtin .range)
  | _ =>
    (ErrorClass.ofBuiltinName? name).map Value.errorClass

/-- The value of a name in the functions around some code, if it belongs to one of them. -/
def readScopes (name : String) : Bool → List Address → Run W (Option Value)
  | _, [] => return none
  | own, a :: outer => do
    match (← Run.frame a).lookup name with
    | some (some v) => return some v
    | some none =>
      if own then
        Run.raise .unboundLocalError ("cannot access local variable '" ++ name
          ++ "' where it is not associated with a value")
      else
        Run.raise .nameError ("cannot access free variable '" ++ name
          ++ "' where it is not associated with a value in enclosing scope")
    | none => readScopes name false outer

/-- The value of a name. -/
def readName (ctx : Context) (name : String) : Run W Value := do
  match ← readScopes name true ctx.scopes with
  | some v => return v
  | none =>
    match ((← Run.frame ctx.globals).lookup name).join with
    | some v => return v
    | none =>
      match builtinValue? name with
      | some v => return v
      | none => Run.raise .nameError ("name '" ++ name ++ "' is not defined")

/-- Gives a name a value. -/
def writeName (ctx : Context) (name : String) (v : Value) : Run W Unit :=
  Run.setVariable ctx.target name (some v)

/-! ## Loops -/

/-- The most rounds of a loop. -/
def roundLimit : Nat := 100000000

/-- What a loop ends with that comes to its last round. -/
def outOfRounds {α : Type} : Run W α :=
  Run.raise .recursionError "maximum number of rounds exceeded"

/-- Runs a body for the items that a cursor visits, until one of them leaves the loop. -/
def forEach (step : Step) (body : Value → Run W Flow) : Nat → Cursor → Run W Flow
  | 0, _ => outOfRounds
  | rounds + 1, c => do
    match ← Run.through step c.next? with
    | none => return .next
    | some (v, c) =>
      match ← body v with
      | .next | .continue => forEach step body rounds c
      | .break => return .break
      | .return v => return .return v

/-- Runs a body as long as a test holds, until the body leaves the loop. -/
def whileTrue (test : Run W Bool) (body : Run W Flow) : Nat → Run W Flow
  | 0 => outOfRounds
  | rounds + 1 => do
    if ← test then
      match ← body with
      | .next | .continue => whileTrue test body rounds
      | .break => return .break
      | .return v => return .return v
    else return .next

/-- The values that a function finds for the items that a cursor visits. -/
def collect (f : Value → Run W (Option Value)) : Nat → Cursor → Run W (List Value)
  | 0, _ => outOfRounds
  | rounds + 1, c => do
    match ← c.next? with
    | none => return []
    | some (v, c) =>
      match ← f v with
      | some w => return w :: (← collect f rounds c)
      | none => collect f rounds c

/-! ## Arguments and entries -/

/-- Adds the arguments in a sequence. -/
def addStarred (args : Args) (v : Value) : Run W Args := do
  match ← items? v with
  | some items => return { args with positional := args.positional ++ items }
  | none => Run.typeError ("argument after * must be an iterable, not " ++ (← Run.typeOf v))

/-- Adds the items of a sequence to those before them. -/
def addItems (items : List Value) (v : Value) : Run W (List Value) := do
  match ← items? v with
  | some more => return items ++ more
  | none => Run.typeError ("Value after * must be an iterable, not " ++ (← Run.typeOf v))

/-- Adds an argument with a name. -/
def addNamed (args : Args) (name : String) (v : Value) : Run W Args :=
  if (args.named.map (·.1)).contains name then
    Run.typeError ("got multiple values for keyword argument '" ++ name ++ "'")
  else return { args with named := args.named ++ [(name, v)] }

/-- Adds the arguments in a mapping. -/
def addSpread (args : Args) (v : Value) : Run W Args := do
  match ← Run.object? v with
  | some (.dict entries) =>
    entries.foldlM (fun args e =>
      match e.1 with
      | .text name => addNamed args (String.ofList name) e.2
      | _ => Run.typeError "keywords must be strings") args
  | _ => Run.typeError ("argument after ** must be a mapping, not " ++ (← Run.typeOf v))

/-- Adds the entries of a mapping to others. -/
def addEntries (entries : List (Value × Value)) (v : Value) : Run W (List (Value × Value)) := do
  match ← Run.object? v with
  | some (.dict more) =>
    let heap ← Run.heap
    return more.foldl (fun all e => Value.insert heap e.1 e.2 all) entries
  | _ => Run.typeError ("'" ++ (← Run.typeOf v) ++ "' object is not a mapping")

/-- Adds an entry to others. -/
def addEntry (entries : List (Value × Value)) (key v : Value) : Run W (List (Value × Value)) := do
  checkKey key
  return Value.insert (← Run.heap) key v entries

/-- Adds entries to others, one after the other. -/
def addPairs (entries pairs : List (Value × Value)) : Run W (List (Value × Value)) :=
  pairs.foldlM (fun all e => addEntry all e.1 e.2) entries

/-! ## Expressions -/

mutual

/-- The value of an expression. -/
def evalExpr (call : Caller W) (ctx : Context) : Expr → Run W Value
  | .none => return .none
  | .bool b => return .bool b
  | .int n => return .int n
  | .decimal digits exponent => return .float (Decimal.floatOfDecimal digits exponent)
  | .text s => return .text s
  | .name line name => Run.through (ctx.step line) (readName ctx name)
  | .list line items => do Run.newObject (.list (← evalItems call ctx line items []))
  | .tuple line items => do Run.newObject (.tuple (← evalItems call ctx line items []))
  | .dict line entries => do Run.newObject (.dict (← evalEntries call ctx line entries [] []))
  | .index line base key => do
    let base ← evalExpr call ctx base
    let key ← evalExpr call ctx key
    Run.through (ctx.step line) (item base key)
  | .member line base name => do
    let base ← evalExpr call ctx base
    Run.through (ctx.step line) (memberOf base name)
  | .call line function args => do
    let function ← evalExpr call ctx function
    let args ← evalArgs call ctx line args ⟨[], []⟩
    Run.through (ctx.step line) (call function args (line :: ctx.lines))
  | .negate line e => do
    let v ← evalExpr call ctx e
    Run.through (ctx.step line) (negate v)
  | .plus line e => do
    let v ← evalExpr call ctx e
    Run.through (ctx.step line) (positive v)
  | .not e => do
    let v ← evalExpr call ctx e
    return .bool (!v.truthy (← Run.heap))
  | .and left right => do
    let v ← evalExpr call ctx left
    if v.truthy (← Run.heap) then evalExpr call ctx right else return v
  | .or left right => do
    let v ← evalExpr call ctx left
    if v.truthy (← Run.heap) then return v else evalExpr call ctx right
  | .choose test yes no => do
    let v ← evalExpr call ctx test
    if v.truthy (← Run.heap) then evalExpr call ctx yes else evalExpr call ctx no
  | .binary line op left right => do
    let left ← evalExpr call ctx left
    let right ← evalExpr call ctx right
    Run.through (ctx.step line) (arithmetic op.sign op left right)
  | .compare line first links => do
    let first ← evalExpr call ctx first
    evalLinks call ctx line first links
  | .listFor line element target items tests => do
    let items ← evalExpr call ctx items
    let c ← Run.through (ctx.step line) (cursor items)
    let frame ← Run.newFrame [(target, none)]
    let inner := { ctx with scopes := frame :: ctx.scopes, lines := line :: ctx.lines }
    let values ← Run.through (ctx.step line) (collect (fun v => do
      Run.setVariable frame target (some v)
      if ← evalTests call inner tests then return some (← evalExpr call inner element)
      else return none) roundLimit c)
    Run.newObject (.list values)

/-- The values of arguments, added to those before them. -/
def evalArgs (call : Caller W) (ctx : Context) (line : Nat) : List Arg → Args → Run W Args
  | [], args => return args
  | .mk kind e :: rest, args => do
    let v ← evalExpr call ctx e
    let args ← match kind with
      | .positional => pure { args with positional := args.positional ++ [v] }
      | .starred => Run.through (ctx.step line) (addStarred args v)
      | .named name => Run.through (ctx.step line) (addNamed args name v)
      | .spread => Run.through (ctx.step line) (addSpread args v)
    evalArgs call ctx line rest args

/-- The items of a list or a tuple, added to those before them. -/
def evalItems (call : Caller W) (ctx : Context) (line : Nat) :
    List Arg → List Value → Run W (List Value)
  | [], items => return items
  | .mk kind e :: rest, items => do
    let v ← evalExpr call ctx e
    let items ← match kind with
      | .starred => Run.through (ctx.step line) (addItems items v)
      | _ => pure (items ++ [v])
    evalItems call ctx line rest items

/-- The entries of a mapping, added to those before them. Single entries are evaluated together with
those next to them, and only then added. -/
def evalEntries (call : Caller W) (ctx : Context) (line : Nat) :
    List Entry → List (Value × Value) → List (Value × Value) → Run W (List (Value × Value))
  | [], waiting, entries => Run.through (ctx.step line) (addPairs entries waiting)
  | .pair key e :: rest, waiting, entries => do
    let key ← evalExpr call ctx key
    let v ← evalExpr call ctx e
    evalEntries call ctx line rest (waiting ++ [(key, v)]) entries
  | .spread e :: rest, waiting, entries => do
    let entries ← Run.through (ctx.step line) (addPairs entries waiting)
    let v ← evalExpr call ctx e
    let entries ← Run.through (ctx.step line) (addEntries entries v)
    evalEntries call ctx line rest [] entries

/-- The value of a chain of comparisons, which ends at the first one that does not hold. -/
def evalLinks (call : Caller W) (ctx : Context) (line : Nat) (left : Value) :
    List Link → Run W Value
  | [] => return .bool true
  | .mk op e :: rest => do
    let right ← evalExpr call ctx e
    if ← Run.through (ctx.step line) (compareValues op left right) then
      evalLinks call ctx line right rest
    else return .bool false

/-- Whether all of some tests hold. -/
def evalTests (call : Caller W) (ctx : Context) : List Expr → Run W Bool
  | [] => return true
  | e :: rest => do
    let v ← evalExpr call ctx e
    if v.truthy (← Run.heap) then evalTests call ctx rest else return false

end

/-! ## Statements -/

/-- Changes a variable by an operation. A list that something is added to stays the same list. -/
def augment (op : BinaryOp) (old v : Value) : Run W Value := do
  match op, old, ← Run.object? old with
  | .add, .ref a, some (.list items) =>
    match ← items? v with
    | some more =>
      Run.setObject a (.list (items ++ more))
      return old
    | none => Run.typeError ("'" ++ (← Run.typeOf v) ++ "' object is not iterable")
  | .multiply, .ref a, some (.list items) =>
    match v.int? with
    | some n =>
      Run.setObject a (.list (repeatItems (← repeatCount none items.length n) items))
      return old
    | none => arithmetic (op.sign ++ "=") op old v
  | _, _, _ => arithmetic (op.sign ++ "=") op old v

/-- The module of a path. -/
def importPath (path : List String) : Run W Value := do
  match Module.ofName? (".".intercalate path) with
  | some m => return .module m
  | none =>
    Run.raise .moduleNotFoundError ("No module named '" ++ ".".intercalate path ++ "'")

/-- A member of a module. -/
def importMember (path : List String) (name : String) : Run W Value := do
  match ← importPath path with
  | .module m =>
    match m.member? name with
    | some v => return v
    | none =>
      Run.raise .importError ("cannot import name '" ++ name ++ "' from '" ++ m.name ++ "'")
  | v => return v

/-- A class that a handler takes. -/
def handledClass (v : Value) : Run W ErrorClass :=
  match v with
  | .errorClass c => return c
  | _ =>
    Run.typeError "catching classes that do not inherit from BaseException is not allowed"

/-- The classes that a handler takes. There may be several in a tuple. -/
def handledClasses (v : Value) : Run W (List ErrorClass) := do
  match ← Run.object? v with
  | some (.tuple items) => items.mapM handledClass
  | _ => return [← handledClass v]

/-- The result of a run, be it a fault or not. A fault is caught, and so it is an object from now
on. -/
def settle {α : Type} (r : Run W α) : Run W (Except Fault α) :=
  tryCatch (do return .ok (← r)) fun f => return .error (← Run.keep f)

/-- A result, be it a fault or not, as a run. -/
def unsettle {α : Type} : Except Fault α → Run W α
  | .ok a => return a
  | .error f => Run.fail f

/-- Raises an exception again that was caught. -/
def raiseAgain {α : Type} (f : Fault) : Run W α := do Run.fail (← Run.current f)

/-- Runs what has to be run after a block in any case. It may leave on a way of its own; if it does
not, the block's result stands. -/
def runFinally (outcome : Except Fault Flow) (finally_ : Run W Flow) : Run W Flow := do
  match outcome with
  | .ok flow =>
    match ← finally_ with
    | .next => return flow
    | other => return other
  | .error f =>
    match ← Run.whileHandling f finally_ with
    | .next => raiseAgain f
    | other => return other

mutual

/-- Runs a statement. -/
def runStmt (call : Caller W) (ctx : Context) : Stmt → Run W Flow
  | .pass => return .next
  | .expr _ e => do
    let _ ← evalExpr call ctx e
    return .next
  | .assign _ targets e => do
    let v ← evalExpr call ctx e
    targets.forM fun name => writeName ctx name v
    return .next
  | .augment line target op e => do
    let old ← Run.through (ctx.step line) (readName ctx target)
    let v ← evalExpr call ctx e
    writeName ctx target (← Run.through (ctx.step line) (augment op old v))
    return .next
  | .choose _ arms otherwise => do
    match ← runArms call ctx arms with
    | some flow => return flow
    | none => runBlock call ctx otherwise
  | .loop line (.each target items) body afterwards => do
    let items ← evalExpr call ctx items
    let c ← Run.through (ctx.step line) (cursor items)
    let flow ← forEach (ctx.step line) (fun v => do
      writeName ctx target v
      runBlock call ctx body) roundLimit c
    match flow with
    | .next => runBlock call ctx afterwards
    | .return v => return .return v
    | _ => return .next
  | .loop _ (.while test) body afterwards => do
    let flow ← whileTrue (do
      let v ← evalExpr call ctx test
      return v.truthy (← Run.heap)) (runBlock call ctx body) roundLimit
    match flow with
    | .next => runBlock call ctx afterwards
    | .return v => return .return v
    | _ => return .next
  | .break _ => return .break
  | .continue _ => return .continue
  | .function _ signature body => do
    let f := ⟨signature, ctx.path ++ signature.name, body, localNames signature body, ctx.scopes,
      ctx.globals⟩
    writeName ctx signature.name (← Run.newObject (.function f))
    return .next
  | .return _ none => return .return .none
  | .return _ (some e) => return .return (← evalExpr call ctx e)
  | .raise line none => do
    match (← get).handling with
    | f :: _ => raiseAgain f
    | [] =>
      Run.through (ctx.step line)
        (Run.raise .runtimeError "No active exception to reraise")
  | .raise line (some e) => do
    let v ← evalExpr call ctx e
    Run.through (ctx.step line) (do Run.fail (← faultOf v))
  | .attempt _ body handlers afterwards finally_ => do
    let outcome ← settle (do
      match ← settle (runBlock call ctx body) with
      | .ok .next => runBlock call ctx afterwards
      | .ok flow => return flow
      | .error f => runHandlers call ctx f handlers)
    runFinally outcome (runBlock call ctx finally_)
  | .importModule line path as? => do
    let m ← Run.through (ctx.step line) (importPath path)
    match as? with
    | some name => writeName ctx name m
    | none => writeName ctx (path.headD "") (← importPath (path.take 1))
    return .next
  | .importFrom line path members => do
    members.forM fun m => do
      writeName ctx m.2 (← Run.through (ctx.step line) (importMember path m.1))
    return .next

/-- Runs statements one after the other, until one of them leaves the block. -/
def runBlock (call : Caller W) (ctx : Context) : List Stmt → Run W Flow
  | [] => return .next
  | s :: rest => do
    match ← runStmt call ctx s with
    | .next => runBlock call ctx rest
    | flow => return flow

/-- Runs the block of the first test that holds, if one does. -/
def runArms (call : Caller W) (ctx : Context) : List Arm → Run W (Option Flow)
  | [] => return none
  | .mk _ test body :: rest => do
    let v ← evalExpr call ctx test
    if v.truthy (← Run.heap) then return some (← runBlock call ctx body)
    else runArms call ctx rest

/-- Runs the first handler that takes an exception, or raises the exception again. The variable of a
handler is gone after it. -/
def runHandlers (call : Caller W) (ctx : Context) (f : Fault) : List Handler → Run W Flow
  | [] => raiseAgain f
  | .mk line kind as? body :: rest => do
    let takes ← Run.whileHandling f (do
      match kind with
      | none => return true
      | some e =>
        let v ← evalExpr call ctx e
        let classes ← Run.through (ctx.step line) (handledClasses v)
        return classes.any f.kind.isWithin)
    if takes then
      match as? with
      | none => Run.whileHandling f (runBlock call ctx body)
      | some name =>
        writeName ctx name f.value
        let outcome ← settle (Run.whileHandling f (runBlock call ctx body))
        Run.setVariable ctx.target name none
        unsettle outcome
    else runHandlers call ctx f rest

end

/-! ## Functions -/

/-- What scripts can ask of the world around them, given a way to make calls. -/
structure Host (W : Type) where
  /-- Renders a template, with the parameters of the function that was called for it. -/
  render : Parameters → Caller W → Args → Run W Value
  /-- Replaces the defaults of the engine in charge. -/
  setDefaults : Args → Run W Value
  /-- Empties the store of the engine in charge. -/
  clear : Args → Run W Value

/-- Runs the body of a function for some arguments. -/
def enter (call : Caller W) (f : Closure) (args : Args) (lines : List Nat) : Run W Value := do
  let bound ← f.parameters.bind args
  let frame ← Run.newFrame (f.locals.map fun name => (name, bound.lookup name))
  let ctx : Context := ⟨f.globals, frame :: f.scopes, f.path ++ ".<locals>.", lines⟩
  match ← runBlock call ctx f.body with
  | .return v => return v
  | _ => return .none

/-- Reads defaults from the file of a path. Only a path can be opened, and no value of a script is
one, be it that an attribute of options stands in for that of a path. -/
def loadDefaults (call : Caller W) (args : Args) : Run W Value := do
  let bound ← Parameters.bind ⟨"load_defaults", ["path"], 0, none⟩ args
  let path := (bound.lookup "path").getD .none
  let found ← call (← memberOf path "exists") ⟨[], []⟩ []
  let heap ← Run.heap
  if found.truthy heap then
    Run.typeError ("expected str, bytes or os.PathLike object, not " ++ path.typeName heap)
  else
    Run.raise .fileNotFoundError
      ("Config file not found: " ++ String.ofList (path.display heap))

/-- Calls a value. Calls may be nested up to some depth. -/
def callAt (host : Host W) : Nat → Caller W
  | 0, _, _, _ => Run.raise .recursionError "maximum recursion depth exceeded"
  | depth + 1, v, args, lines => do
    match v, ← Run.object? v with
    | .builtin .render, _ => host.render renderParameters (callAt host depth) args
    | .builtin .engineRender, _ =>
      host.render engineRenderParameters (callAt host depth) (args.after (.handle .engine))
    | .builtin .setDefaults, _ => host.setDefaults args
    | .builtin .clearCache, _ => host.clear (args.after (.handle .cache))
    | .builtin .loadDefaults, _ => loadDefaults (callAt host depth) args
    | .builtin f, _ => applyPlain f args lines
    | .errorClass c, _ => Run.newObject (.exception (← makeFault c args))
    | _, some (.function f) => enter (callAt host depth) f args lines
    | _, some (.method m self) => applyMethod m self args
    | _, _ => Run.typeError ("'" ++ (← Run.typeOf v) ++ "' object is not callable")

/-- How deep calls may be nested. -/
def callDepth : Nat := 1000

end Stencil.Script
