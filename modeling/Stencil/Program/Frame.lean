import Stencil.Program.Layout

/-!
# The program around a body

A generated program has a fixed preamble, which defines the entry point and the helpers that
template code may call, then the body that was laid out from the template, then a fixed epilogue,
which returns the output and marks the program as complete.

A line of the template lands on a fixed number of lines further down in the program: the lines of
the preamble.
-/

namespace Stencil.Program

open Text Template

/-- The name of the function that runs a program. -/
def entryPoint : String := "_main"

/-- The name that a program sets once it has been loaded to its end. -/
def compiledFlag : String := "_compiled"

/-- The lines before a body. -/
def preambleLines : List String := [
  "import warnings as _warnings",
  "",
  "from plate.exceptions import UndefinedValueWarning as _UndefinedValueWarning",
  "",
  "",
  "def _main(_options, _params):",
  "    _out = []",
  "",
  "    def _echo(*values):",
  "        for value in values:",
  "            if value is None:",
  "                _warnings.warn(",
  "                    \"use of undefined value in template output\",",
  "                    _UndefinedValueWarning,",
  "                    stacklevel=2,",
  "                )",
  "            else:",
  "                _out.append(str(value))",
  "",
  "    def _echoifdef(*values):",
  "        _echo(*[value for value in values if value is not None])",
  "",
  "    def _get(*names):",
  "        _echo(*[_params.get(name) for name in names])",
  "",
  "    def _getifdef(*names):",
  "        _echoifdef(*[_params.get(name) for name in names if name is not None])",
  ""]

/-- The lines after a body. -/
def epilogueLines : List String := [
  "    return \"\".join(_out)",
  "",
  "",
  "_compiled = True"]

/-- Lines of a program as text, each with its line feed. -/
def programText (lines : List String) : List Char :=
  lines.flatMap fun line => line.toList ++ ['\n']

/-- The text before a body. -/
def preamble : List Char := programText preambleLines

/-- The text after a body. -/
def epilogue : List Char := programText epilogueLines

/-- The number of program lines before the first line of a template. -/
def lineOffset : Nat := preambleLines.length

/-- Why a template has no program. -/
inductive TemplateError where
  /-- The tag grammar is violated. -/
  | tag (e : TagError)
  /-- The blocks are unbalanced. -/
  | block (e : BlockError)
  deriving DecidableEq, Repr, Inhabited

/-- The line an error points at. -/
def TemplateError.line : TemplateError → Int
  | tag e => e.line
  | block e => e.line

/-- The message of an error. -/
def TemplateError.message : TemplateError → String
  | tag e => e.message
  | block e => e.message

/-- The laid out body of a template. -/
def body (source : List Char) : Except TemplateError Body :=
  match chunks source with
  | .error e => .error (.tag e)
  | .ok chunks => (lay chunks).mapError .block

/-- The program of a template. -/
def preprocess (source : List Char) : Except TemplateError (List Char) :=
  (body source).map fun b => preamble ++ b.written ++ epilogue

end Stencil.Program
