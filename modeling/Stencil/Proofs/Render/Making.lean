import Stencil.Render.Template

/-!
# Renders and the makers of units

Besides what is there, a render needs a maker: it is asked for the unit of a text or a file when the
engine keeps none. The maker `makeUnit` compiles the text and has the program loaded, and with it
the renders are those of an engine, with all the renders that templates ask for. With other makers
they tell whether units of some kind are made at all: if none is, then it does not matter what the
maker would do to make one. Whether scripts empty the store of the engine in charge is told in the
same way.

* `makeUnit`, `Maker.unless`: what makes units, and a maker that leaves some to another.
* `Means`: a maker, and what is done for a script that asks for an emptied store.
* `renderBy`, `Means.calls`: renders with a maker, and the calls of scripts with some means.
* `renderBy_makeUnit`, `calls_makeUnit`: they are the renders and the calls as they are.
* `Event`, `Deed`: what happens to engines from outside, and on the way within scripts too.
* `NeverMakes`: whatever is done, units of some kind are not made.
-/

namespace Stencil.Render

open Script

/-- What a unit is made of. -/
structure Making where
  seat : Seat
  raw : Bool
  key? : Option Identity
  text : List Char
  fileName : List Char

/-- A way to make units. -/
abbrev Maker := Caller World → Making → Work CompiledUnit

/-- Compiles a text, if it is not a program, and has the program loaded. -/
def makeUnit : Maker := fun call job => do
  let (program, lineOffset) ← programOf job.raw job.text
  install call job.seat job.key? program job.fileName lineOffset

/-- A maker that leaves some units to another. -/
def Maker.unless (make : Maker) (p : Making → Machine World → Bool) (other : Maker) : Maker :=
  fun call job => do if p job (← get) then other call job else make call job

/-- What engines work with. -/
structure Means where
  make : Maker
  /-- What is done for a script that asks for an emptied store. -/
  clear : Args → Work Value

/-- A maker, in a world in which stores are emptied as ever. -/
def Maker.means (make : Maker) : Means := ⟨make, clearCommand⟩

section

variable (make : Maker)

def renderSourceBy (call : Caller World) (seat : Seat) (o : Options Value) (key? : Option Identity)
    (kept? : Option CompiledUnit) (text fileName : List Char) : Work Value := do
  if o.preprocessOnly then return .text (← compile text)
  else
    let unit ← match kept? with
      | some unit => pure unit
      | none => make call ⟨seat, o.raw, key?, text, fileName⟩
    runUnit call seat unit (← newOptions o)

def renderFileBy (call : Caller World) (seat : Seat) (o : Options Value) (name : List Char) :
    Work Value := do
  let source ← unsettle (openSource (← Run.world).files name o.path)
  let kept? ← lookup seat source.identity?
  let text ←
    if kept?.isNone || o.preprocessOnly then unsettle (source.text o.encoding) else pure []
  withName name (renderSourceBy make call seat o source.identity? kept? text source.path.written)

def renderMergedBy (call : Caller World) (seat : Seat) (o : Options Value) : Work Value := do
  match o.inputString, o.inputFile with
  | some text, _ => renderSourceBy make call seat o none none text textFileName
  | none, some name => renderFileBy make call seat o name
  | none, none => Run.fail noSourceFault

def renderBy (call : Caller World) (seat : Seat) (options : Value) (overrides : Entries Value) :
    Work Value := do
  renderMergedBy make call seat (← mergeDefaults seat (← givenOptions options overrides))

def renderCommandBy (p : Parameters) (call : Caller World) (args : Args) : Work Value := do
  let (named, overrides) := args.named.partition fun e => p.names.contains e.1
  let bound ← p.bind { args with named }
  renderBy make call .shared (argument "options" bound) (overrides.map fun e => (e.1.toList, e.2))

end

namespace Means

def host (k : Means) : Host World := ⟨renderCommandBy k.make, setDefaultsCommand, k.clear⟩

def calls (k : Means) : Caller World := callAt k.host callDepth

end Means

theorem renderSourceBy_makeUnit : renderSourceBy makeUnit = renderSource := by
  funext call seat o key? kept? text fileName
  unfold renderSourceBy renderSource makeUnit
  cases kept? with
  | some u => rfl
  | none => simp only [bind_assoc]

theorem renderFileBy_makeUnit : renderFileBy makeUnit = renderFile := by
  funext call seat o name
  unfold renderFileBy renderFile
  rw [renderSourceBy_makeUnit]

theorem renderMergedBy_makeUnit : renderMergedBy makeUnit = renderMerged := by
  funext call seat o
  unfold renderMergedBy renderMerged
  cases o.inputString with
  | some text =>
    exact congrArg (fun source => source call seat o none none text textFileName)
      renderSourceBy_makeUnit
  | none =>
    cases o.inputFile with
    | some name => exact congrArg (fun file => file call seat o name) renderFileBy_makeUnit
    | none => rfl

theorem renderBy_makeUnit : renderBy makeUnit = render := by
  funext call seat options overrides
  unfold renderBy render
  rw [renderMergedBy_makeUnit]

theorem host_makeUnit : makeUnit.means.host = host := by
  have hCommand : renderCommandBy makeUnit = renderCommand := by
    funext p call args
    unfold renderCommandBy renderCommand
    rw [renderBy_makeUnit]
  rw [Maker.means, Means.host, hCommand]
  rfl

theorem calls_makeUnit : makeUnit.means.calls = calls := by
  rw [Means.calls, host_makeUnit]
  rfl

/-! ## What happens to engines -/

/-- What happens to engines from outside. -/
inductive Event where
  | render (seat : Seat) (options : Value) (overrides : Entries Value)
  | setDefaults (options : Value)
  /-- A caller makes an object. -/
  | object (o : Object)
  /-- The files change. -/
  | files (tree : Files.Tree)

namespace Event

def perform : Event → Work Value
  | render seat options overrides => Render.render calls seat options overrides
  | setDefaults options => do
    Render.setDefaults options
    return .none
  | object o => Run.newObject o
  | files tree => do
    updateWorld fun w => { w with files := tree }
    return .none

def performBy (k : Means) : Event → Work Value
  | render seat options overrides => renderBy k.make k.calls seat options overrides
  | e => e.perform

theorem performBy_makeUnit : performBy makeUnit.means = perform := by
  funext e
  cases e with
  | render seat options overrides =>
    rw [performBy, calls_makeUnit, Maker.means, renderBy_makeUnit, perform]
  | _ => rfl

end Event

/-! ## What is done on the way -/

/-- What is done at some time: something happens from outside, a render that has its unit runs it,
or a script does a part of its work, with calls that may be nested up to some depth. -/
inductive Deed where
  | event (e : Event)
  | unit (depth : Nat) (seat : Seat) (u : CompiledUnit) (options : Value)
  | call (depth : Nat) (v : Value) (args : Args) (lines : List Nat)
  | expr (depth : Nat) (ctx : Context) (e : Expr)
  | block (depth : Nat) (ctx : Context) (body : List Stmt)

namespace Deed

def performBy (k : Means) : Deed → Work Flow
  | event e => return .return (← e.performBy k)
  | unit depth seat u options =>
    return .return (← runUnit (callAt k.host depth) seat u options)
  | call depth v args lines => return .return (← callAt k.host depth v args lines)
  | expr depth ctx e => return .return (← evalExpr (callAt k.host depth) ctx e)
  | block depth ctx body => runBlock (callAt k.host depth) ctx body

def perform : Deed → Work Flow
  | event e => return .return (← e.perform)
  | unit depth seat u options => return .return (← runUnit (callAt host depth) seat u options)
  | call depth v args lines => return .return (← callAt host depth v args lines)
  | expr depth ctx e => return .return (← evalExpr (callAt host depth) ctx e)
  | block depth ctx body => runBlock (callAt host depth) ctx body

theorem performBy_makeUnit : performBy makeUnit.means = perform := by
  funext d
  cases d with
  | event e => rw [performBy, Event.performBy_makeUnit, perform]
  | _ => rw [performBy, host_makeUnit, perform]

/-- Whether a script does its part where blocks of variables are open. -/
def Fits (G : List Address) : Deed → Prop
  | block _ ctx _ => ctx.target ∈ G
  | _ => True

end Deed

end Stencil.Render
