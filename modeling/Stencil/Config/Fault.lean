import Stencil.Config.Document
import Stencil.Script.Call

/-!
# Faults of configuration files as exceptions

What goes wrong with a configuration file is an exception with a class and a message.
-/

namespace Stencil.Config

open Files Script

/-- The class of an exception about the data of a text. A text that is not written in the language
has a class of its own. -/
def contentClass? : Yaml.LoadFault → Option String
  | .malformed => none
  | .noCharacter n => some (if n < 0x80000000 then "ValueError" else "OverflowError")
  | .noInt .. | .longInt _ | .noFloat _ | .badMoment .. => some "ValueError"
  | .greatFloat => some "OverflowError"
  | .noDigits => some "IndexError"
  | .noBool _ => some "KeyError"
  | .noMoment => some "AttributeError"
  | .momentOfMapping => some "TypeError"
  | .endless => some "RecursionError"

/-- The class of an exception about a path that cannot be opened. -/
def pathClass : PathFault → String
  | .notFound => "FileNotFoundError"
  | .notDirectory => "NotADirectoryError"
  | .isDirectory => "IsADirectoryError"
  | .tooManyLinks | .nameTooLong => "OSError"
  | .nullName => "ValueError"

/-- The message of an exception about a path that cannot be opened. -/
def pathMessage (p : Path) (f : PathFault) : List Char :=
  match f with
  | .nullName => f.message.toList
  | f =>
    ("[Errno " ++ toString f.number ++ "] " ++ f.message ++ ": ").toList ++ Text.quoted p.written

namespace ConfigFault

/-- The class of the exception for a fault; none if a text is not written in the language. -/
def class? : ConfigFault → Option String
  | missing _ => some "FileNotFoundError"
  | path _ f => some (pathClass f)
  | bytes _ => some "UnicodeDecodeError"
  | content f => contentClass? f
  | noMapping _ => some "ValueError"
  | invalid _ => some "ValidationError"

/-- The message of the exception for a fault. -/
def message : ConfigFault → List Char
  | missing p => "Config file not found: ".toList ++ p.written
  | path p f => pathMessage p f
  | bytes f => f.message.toList
  | content f => f.message
  | noMapping p => "Config file ".toList ++ p.written ++ " must contain a mapping".toList
  | invalid issues => issuesMessage issues

end ConfigFault

end Stencil.Config
