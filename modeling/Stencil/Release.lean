/-!
# The release

The name under which templates and the command line know this library, and its version.
-/

namespace Stencil

/-- The name. -/
def programName : String := "plate"

/-- The version. -/
def version : String := "0.9.0"

end Stencil
