import Stencil.Script.Written

/-!
# The machine

The state of running scripts: their objects, their variables, the exceptions that are being handled,
and the warnings that have been issued. What lies outside of scripts, such as the engine that
renders templates, is the machine's world; scripts reach it through the commands of their host
alone.

A run reads and changes a machine, and gives a result or a fault. What a run has changed stays
changed when it ends with a fault.

An exception on its way is a fault, which is a value. Once it is caught it is an object: it stays the
same one when it is raised again, and then has also been where it was before.
-/

namespace Stencil.Script

/-- The state of running scripts. -/
structure Machine (W : Type) where
  /-- The objects. -/
  heap : Heap
  /-- The variables of modules and of called functions. -/
  frames : Array Frame
  /-- The exceptions that are being handled, innermost first. -/
  handling : List Fault
  /-- The lines to which warnings were attributed, in order. -/
  warnings : List Nat
  /-- The classes of these warnings, and what they tell. -/
  issued : List (ErrorClass × List Value)
  /-- Whether a warning is an exception. -/
  strict : Bool
  /-- What lies outside. -/
  world : W
  deriving Inhabited

/-- A computation with a machine. -/
abbrev Run (W : Type) := ExceptT Fault (StateM (Machine W))

/-- A machine without objects. -/
def Machine.start {W : Type} (world : W) : Machine W := ⟨#[], #[], [], [], [], false, world⟩

namespace Run

variable {W : Type}

/-- Ends a run with a fault. -/
def fail {α : Type} (f : Fault) : Run W α := throw f

/-- Ends a run with an exception that has a message. -/
def raise {α : Type} (kind : ErrorClass) (message : String) : Run W α :=
  fail (.ofMessage kind message)

/-- Ends a run with a type error. -/
def typeError {α : Type} (message : String) : Run W α := raise .typeError message

/-- The objects. -/
def heap : Run W Heap := return (← get).heap

/-- The result of a run of a machine, and the machine after it. -/
def perform {α : Type} (r : Run W α) (m : Machine W) : Except Fault α × Machine W :=
  StateT.run (ExceptT.run r) m

/-- What lies outside of scripts. -/
def world : Run W W := return (← get).world

/-- Changes what lies outside of scripts. -/
def setWorld (w : W) : Run W Unit := modify fun m => { m with world := w }

/-- The name of a value's type. -/
def typeOf (v : Value) : Run W String := return v.typeName (← heap)

/-- Adds an object. -/
def allocate (o : Object) : Run W Address := do
  let a := (← get).heap.size
  modify fun m => { m with heap := m.heap.push o }
  return a

/-- Adds an object, as a value. -/
def newObject (o : Object) : Run W Value := return .ref (← allocate o)

/-- The object that a value refers to, if there is one. -/
def object? (v : Value) : Run W (Option Object) := return v.object? (← heap)

/-- Puts an object in the place of another. -/
def setObject (a : Address) (o : Object) : Run W Unit :=
  modify fun m => { m with heap := m.heap.setIfInBounds a o }

/-- Adds variables. -/
def newFrame (f : Frame) : Run W Address := do
  let a := (← get).frames.size
  modify fun m => { m with frames := m.frames.push f }
  return a

/-- The variables at an address. -/
def frame (a : Address) : Run W Frame := return ((← get).frames[a]?).getD []

/-- Gives a variable a value, or takes its value away. -/
def setVariable (a : Address) (name : String) (v : Option Value) : Run W Unit :=
  modify fun m =>
    { m with frames := m.frames.modify a fun f => assign name v f }
where
  /-- Puts a value in the place of a name, or adds the name. -/
  assign (name : String) (v : Option Value) : Frame → Frame
    | [] => [(name, v)]
    | (n, old) :: rest => if n = name then (n, v) :: rest else (n, old) :: assign name v rest

/-- A run whose faults have a step put in front of their traces. -/
def through {α : Type} (s : Step) (r : Run W α) : Run W α :=
  tryCatch r fun f => fail (f.through s)

/-- An exception that is caught, as the object that it is. It is a new object unless it was one
before. -/
def keep (f : Fault) : Run W Fault := do
  match f.object? with
  | some a =>
    setObject a (.exception f)
    return f
  | none =>
    let a ← allocate (.exception f)
    return { f with object? := some a }

/-- An exception that was caught, as its object is now. It may have been raised again meanwhile. -/
def current (f : Fault) : Run W Fault := do
  match ← object? f.value with
  | some (.exception g) => return { g with object? := f.object? }
  | _ => return f

/-- Issues a warning that is attributed to a line. -/
def warn (kind : ErrorClass) (message : List Value) (line : Nat) : Run W Unit := do
  if (← get).strict then fail (.new kind (.args message))
  else modify fun m =>
    { m with warnings := m.warnings ++ [line], issued := m.issued ++ [(kind, message)] }

/-- Runs something while an exception is being handled. -/
def whileHandling {α : Type} (f : Fault) (r : Run W α) : Run W α := do
  let before := (← get).handling
  modify fun m => { m with handling := f :: m.handling }
  try
    let result ← r
    modify fun m => { m with handling := before }
    return result
  catch f =>
    modify fun m => { m with handling := before }
    fail f

end Run

end Stencil.Script
