import Stencil.Files.Search
import Stencil.Render.Identity
import Stencil.Script.Unit
import Stencil.Store.Recency

/-!
# Engines and their world

An engine renders templates. It has defaults for the options of its renders, and it keeps the units
that it has made from files, so that a file is read and compiled once. A template that renders
another one does so with the engine in charge; there may be another engine beside it, which the
caller uses.

The world holds the engines, the files that they read and how often they have compiled and loaded
something.
-/

namespace Stencil.Render

open Script Store

/-- The units of files. -/
abbrev UnitStore := Recency Identity CompiledUnit

/-- An engine. -/
structure Engine where
  /-- The defaults of its renders. -/
  defaults : Options Value
  /-- The units that it keeps. -/
  units : UnitStore
  /-- How many of its units are running. -/
  depth : Nat
  deriving Inhabited

/-- An engine with some defaults. It keeps all units, unless it is given a store that has some. -/
def Engine.create (defaults : Options Value) (units? : Option UnitStore) : Engine :=
  match units? with
  | some units => ⟨defaults, if units.entries.isEmpty then .empty none else units, 0⟩
  | none => ⟨defaults, .empty none, 0⟩

/-- The engines. -/
inductive Seat where
  /-- The engine in charge, with which templates render others. -/
  | shared
  /-- The engine beside it. -/
  | apart
  deriving DecidableEq, Repr, Inhabited

/-- What lies outside of running scripts. -/
structure World where
  /-- The files. -/
  files : Files.Tree
  /-- The engine in charge. -/
  shared : Engine
  /-- The engine beside it. -/
  apart : Engine
  /-- How many units were made from no file. -/
  fresh : Nat
  /-- How many programs were to be loaded. -/
  loads : Nat
  /-- How many templates were to be compiled. -/
  compiles : Nat
  deriving Inhabited

/-- A world with some files, whose engines have no defaults and no units. -/
def World.start (files : Files.Tree) : World :=
  ⟨files, .create .empty none, .create .empty none, 0, 0, 0⟩

/-- An engine of a world. -/
def World.engine (w : World) : Seat → Engine
  | .shared => w.shared
  | .apart => w.apart

/-- Changes an engine of a world. -/
def World.updateEngine (seat : Seat) (change : Engine → Engine) (w : World) : World :=
  match seat with
  | .shared => { w with shared := change w.shared }
  | .apart => { w with apart := change w.apart }

/-- A computation with files, engines and scripts. -/
abbrev Work := Run World

/-- Changes the world. -/
def updateWorld (change : World → World) : Work Unit := do Run.setWorld (change (← Run.world))

/-- An engine. -/
def engineAt (seat : Seat) : Work Engine := return (← Run.world).engine seat

/-- Changes the store of an engine. -/
def updateUnits (seat : Seat) (change : UnitStore → UnitStore) : Work Unit :=
  updateWorld (World.updateEngine seat fun e => { e with units := change e.units })

/-! ## Units -/

/-- The unit that an engine keeps for a file, if it has one that was loaded to its end. -/
def lookup (seat : Seat) (key? : Option Identity) : Work (Option CompiledUnit) := do
  match key? with
  | none => return none
  | some key =>
    match (← engineAt seat).units.get? key with
    | none => return none
    | some unit =>
      if ← isCompiled unit then
        updateUnits seat (·.touch key)
        return some unit
      else return none

/-- The name of a new unit. -/
def newNamespaceId (key? : Option Identity) : Work String := do
  match key? with
  | some key => return key.namespaceId
  | none =>
    let number := (← Run.world).fresh
    updateWorld fun w => { w with fresh := w.fresh + 1 }
    return freshNamespaceId number

/-- The unit of a program. An engine that keeps the unit of the file does not load it again; the
unit of a file that is loaded is kept. -/
def install (call : Caller World) (seat : Seat) (key? : Option Identity)
    (program fileName : List Char) (lineOffset : Int) : Work CompiledUnit := do
  match ← lookup seat key? with
  | some unit => return unit
  | none =>
    let namespaceId ← newNamespaceId key?
    updateWorld fun w => { w with loads := w.loads + 1 }
    let unit ← load call namespaceId program fileName lineOffset
    match key? with
    | some key => updateUnits seat (·.insert key unit)
    | none => pure ()
    return unit

end Stencil.Render
