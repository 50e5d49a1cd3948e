/-!
# Identities

A file is known by the device it is on, its serial number there and the time of its last change. A
unit that was made from a file has a name made from these three numbers; one that was made from
anything else has a name with a number that is given out once.
-/

namespace Stencil.Render

/-- What a file is known by. -/
structure Identity where
  /-- The device it is on. -/
  device : Int
  /-- Its serial number there. -/
  serial : Int
  /-- The time of its last change, in billionths of a second. -/
  modified : Int
  deriving DecidableEq, Repr, Inhabited

/-- The name of the unit of a file. -/
def Identity.namespaceId (i : Identity) : String :=
  "plate.cached." ++ toString i.device ++ "_" ++ toString i.serial ++ "_" ++ toString i.modified

/-- The name of a unit that was made from no file. -/
def freshNamespaceId (number : Nat) : String := "plate.uncached." ++ toString number

end Stencil.Render
