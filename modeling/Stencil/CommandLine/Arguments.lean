/-!
# Arguments of the command line

The first argument names a command. The other arguments are switches, some of which take a value,
and the words between them. A switch has a long name after two hyphens or a letter after one;
several letters can stand together. The value of a switch is the next argument, or stands in the
same one, after an equals sign if the name is long. Behind a lone pair of hyphens there are words
only.

- `Command.ofArguments?`: what some arguments ask for, if they are in order.
-/

namespace Stencil.CommandLine

/-- A word of the command line. -/
abbrev Argument := List Char

/-- A switch. -/
inductive Switch where
  | param | paramsFile | path | text | raw | preprocessOnly | config | verbose | help
  deriving DecidableEq, Repr, Inhabited

namespace Switch

/-- Whether a switch takes a value. -/
def takesValue : Switch → Bool
  | param | paramsFile | path | config => true
  | text | raw | preprocessOnly | verbose | help => false

/-- The long names. -/
def longNames : List (String × Switch) := [
  ("--param", param), ("--params-file", paramsFile), ("--path", path), ("--string", text),
  ("--raw", raw), ("--preprocess-only", preprocessOnly), ("--config", config),
  ("--verbose", verbose), ("--help", help)]

/-- The letters. -/
def letters : List (Char × Switch) := [('p', param), ('I', path), ('v', verbose)]

end Switch

/-- Switches with their values; a switch that takes none has an empty one. -/
abbrev Settings := List (Switch × Argument)

/-- What an argument says: the switches in it, and one that waits for its value. -/
structure Reading where
  /-- The switches. -/
  settings : Settings
  /-- The switch that waits. -/
  waiting? : Option Switch
  deriving DecidableEq, Repr, Inhabited

/-- What a long name says. -/
def readLong? (a : Argument) : Option Reading := do
  let name := a.takeWhile (· ≠ '=')
  let s ← Switch.longNames.lookup (String.ofList name)
  if name.length = a.length then
    return if s.takesValue then ⟨[], some s⟩ else ⟨[(s, [])], none⟩
  else if s.takesValue then return ⟨[(s, a.drop (name.length + 1))], none⟩
  else none

/-- What some letters say. What follows the letter of a switch that takes a value is its value. -/
def readLetters? : List Char → Option Reading
  | [] => some ⟨[], none⟩
  | c :: rest => do
    let s ← Switch.letters.lookup c
    if s.takesValue then return if rest = [] then ⟨[], some s⟩ else ⟨[(s, rest)], none⟩
    else
      let more ← readLetters? rest
      return { more with settings := (s, []) :: more.settings }

/-- What an argument says that starts with a hyphen. -/
def readSwitches? : Argument → Option Reading
  | '-' :: '-' :: rest => readLong? ('-' :: '-' :: rest)
  | '-' :: letters => readLetters? letters
  | _ => none

/-- Whether an argument is a switch, and not a word. -/
def isSwitch (a : Argument) : Bool := a.head? = some '-' && a ≠ ['-']

/-- What some arguments say. -/
structure Arguments where
  /-- The switches. -/
  settings : Settings
  /-- The words. -/
  words : List Argument
  deriving DecidableEq, Repr, Inhabited

/-- What some arguments say, if they are in order. -/
def Arguments.read? : List Argument → Option Arguments
  | [] => some ⟨[], []⟩
  | a :: rest => do
    if a = ['-', '-'] then return ⟨[], rest⟩
    else if isSwitch a then
      let r ← readSwitches? a
      match r.waiting?, rest with
      | none, rest =>
        let more ← Arguments.read? rest
        return { more with settings := r.settings ++ more.settings }
      | some s, value :: rest =>
        let more ← Arguments.read? rest
        return { more with settings := r.settings ++ (s, value) :: more.settings }
      | some _, [] => none
    else
      let more ← Arguments.read? rest
      return { more with words := a :: more.words }

/-- What a render is asked for with. -/
structure RenderRequest where
  /-- The name of the template's file, or the template. -/
  template : Argument
  /-- The parameters, as they are given. -/
  params : List Argument
  /-- A file of parameters. -/
  paramsFile? : Option Argument
  /-- The directories to look in. -/
  path : List Argument
  /-- Whether the template itself is given. -/
  isText : Bool
  /-- Whether the template is a program. -/
  raw : Bool
  /-- Whether to show the program. -/
  preprocessOnly : Bool
  /-- A file of defaults. -/
  config? : Option Argument
  deriving DecidableEq, Repr, Inhabited

/-- What a command line asks for. -/
inductive Command where
  /-- The version. -/
  | version
  /-- How to ask. -/
  | help
  /-- A render. -/
  | render (r : RenderRequest)
  deriving DecidableEq, Repr, Inhabited

namespace Arguments

/-- The values of a switch. -/
def values (a : Arguments) (s : Switch) : List Argument :=
  (a.settings.filter (·.1 = s)).map (·.2)

/-- Whether a switch is given. -/
def has (a : Arguments) (s : Switch) : Bool := !(a.values s).isEmpty

/-- The render that some arguments ask for. Of values of a switch that has one the last counts. -/
def request? (a : Arguments) : Option RenderRequest :=
  match a.words with
  | [template] =>
    some ⟨template, a.values .param, (a.values .paramsFile).getLast?, a.values .path, a.has .text,
      a.has .raw, a.has .preprocessOnly, (a.values .config).getLast?⟩
  | _ => none

end Arguments

/-- What the arguments behind the name of a command ask for. -/
def Command.ofWords? (name : Argument) (rest : List Argument) : Option Command := do
  let a ← Arguments.read? rest
  if name = "version".toList then
    if a.settings.any (·.1 ≠ .help) then none
    else if a.has .help then return .help
    else if a.words = [] then return .version
    else none
  else if name = "render".toList then
    if a.has .help then return .help else return .render (← a.request?)
  else none

/-- What some arguments ask for, if they are in order. A command has to be named. -/
def Command.ofArguments? : List Argument → Option Command
  | [] => none
  | a :: rest =>
    if a = "--help".toList then some .help
    else if a = ['-', '-'] then
      match rest with
      | name :: rest => Command.ofWords? name rest
      | [] => none
    else Command.ofWords? a rest

end Stencil.CommandLine
