import Stencil.Program.Frame
import Stencil.Script.Eval
import Stencil.Script.Parse

/-!
# Units

A unit is a program that has been loaded: its statements have been run, so its functions are among
its global variables. A unit knows how many lines of the program come before the first line of its
template, and so the template line of a failure.

A program that cannot be loaded and a failure of a unit that runs become exceptions about the
template. Exceptions about other templates, rendered on the way, pass through as they are.

- `load`: the unit of a program.
- `execute`: what the entry point of a unit answers.
-/

namespace Stencil.Script

/-- A loaded program. -/
structure CompiledUnit where
  /-- Its identity among units. -/
  namespaceId : String
  /-- The name of the file it comes from. -/
  fileName : List Char
  /-- Its global variables. -/
  globals : Address
  /-- The lines before the first line of its template. -/
  lineOffset : Int
  deriving DecidableEq, Repr, Inhabited

namespace CompiledUnit

/-- The line of the template for a line of the program. No line of a template comes before the
first. -/
def templateLine (u : CompiledUnit) (line : Int) : Int := max (line - u.lineOffset) 1

/-- The line of the template on which an exception left the unit last, if it did. -/
def failingLine? (u : CompiledUnit) (f : Fault) : Option Int :=
  (f.lineIn? u.globals).map fun line => u.templateLine line

end CompiledUnit

variable {W : Type}

/-- The value of a global variable of a unit. -/
def globalOf? (u : CompiledUnit) (name : String) : Run W (Option Value) :=
  return ((← Run.frame u.globals).lookup name).join

/-- Whether a unit's program ran to its end and said so. -/
def isCompiled (u : CompiledUnit) : Run W Bool := do
  match ← globalOf? u Program.compiledFlag with
  | some v => return v.truthy (← Run.heap)
  | none => return false

/-- The name of an exception's class and its message. -/
def headline (heap : Heap) (f : Fault) (between : String) : List Char :=
  (f.kind.name ++ between ++ ": ").toList ++ f.message heap

/-- The words for a line, after what happened there. -/
def onLine (line? : Option Int) : String :=
  match line? with
  | some line => " on line " ++ toString line
  | none => ""

/-- An exception for a program that is none. -/
def syntaxFault (line : Int) : Fault :=
  .located .templateCompileError ("<syntax>" ++ onLine (some line)) (some line)

/-- The variables that a module starts with. -/
def moduleVariables (namespaceId : String) (fileName : List Char) : Frame :=
  [("__name__", some (.ofString namespaceId)), ("__doc__", some .none), ("__package__", some .none),
    ("__loader__", some .none), ("__spec__", some .none), ("__file__", some (.text fileName))]

/-- Loads a program: runs its statements with global variables of its own. -/
def load (call : Caller W) (namespaceId : String) (program fileName : List Char)
    (lineOffset : Int) : Run W CompiledUnit := do
  if program.contains '\x00' then
    Run.raise .valueError "source code string cannot contain null bytes"
  let globals ← Run.newFrame (moduleVariables namespaceId fileName)
  let unit := ⟨namespaceId, fileName, globals, lineOffset⟩
  match parse program with
  | .error line => Run.fail (syntaxFault (unit.templateLine line))
  | .ok statements =>
    match ← settle (runBlock call ⟨globals, [], "", []⟩ statements) with
    | .ok _ => return unit
    | .error f =>
      if f.kind.isWithin .exception then
        Run.fail (.new .templateCompileError
          (.located (headline (← Run.heap) f "") (unit.failingLine? f) .none none))
      else Run.fail f

/-- Calls the entry point of a unit. -/
def callEntry (call : Caller W) (u : CompiledUnit) (options params : Value) : Run W Value := do
  match ← globalOf? u Program.entryPoint with
  | some entry =>
    if entry.callable (← Run.heap) then call entry ⟨[options, params], []⟩ []
    else missing
  | none => missing
where
  /-- Refuses a unit without an entry point. -/
  missing : Run W Value :=
    Run.fail (.new .templateCompileError
      (.located (u.fileName ++ (" does not define " ++ Program.entryPoint ++ "()").toList) none
        .none none))

/-- An exception about the template of a unit, made of one that left it. -/
def runtimeFault (heap : Heap) (u : CompiledUnit) (f : Fault) : Fault :=
  let line? := u.failingLine? f
  .new .templateRuntimeError (.located (headline heap f (onLine line?)) line? f.value none)

/-- Runs a unit. An exception that is not about a template becomes one about the unit's template. -/
def execute (call : Caller W) (u : CompiledUnit) (options params : Value) : Run W Value := do
  match ← settle (callEntry call u options params) with
  | .ok v => return v
  | .error f =>
    if f.isPlate || !f.kind.isWithin .exception then Run.fail f
    else Run.fail (runtimeFault (← Run.heap) u f)

/-- A run with a counter that is one higher while it goes on. -/
def counted {α : Type} (change : (Nat → Nat) → W → W) (r : Run W α) : Run W α := do
  modify fun m => { m with world := change (· + 1) m.world }
  let outcome ← settle r
  modify fun m => { m with world := change (· - 1) m.world }
  unsettle outcome

end Stencil.Script
