import Stencil.CommandLine.Session

/-!
# The program

Takes a picture of the files that a command can reach, and shows the outcome of the command. The
picture holds the current directory with all that is in it, and what the arguments and the defaults
name elsewhere.
-/

namespace Stencil.Program

open Files CommandLine

/-- The location of an absolute path. -/
def locationOf (text : String) : Location := (Path.ofText text.toList).names

/-- The time of a file's last change, in billionths of a second. -/
def billionths (t : IO.FS.SystemTime) : Int := t.sec * 1000000000 + t.nsec.toNat

/-- Adds a directory and those that lead to it. -/
def addDirectory (t : Tree) (l : Location) : Tree := (t.makeParents l).put l .directory

/-- Adds a file. -/
def addFile (t : Tree) (l : Location) (f : File) : Tree :=
  let t := (t.makeParents l).put l (.file t.nextSerial)
  { t with files := (t.nextSerial, f) :: t.files, nextSerial := t.nextSerial + 1 }

/-- Adds a path of the disk to a picture, given as text, with all that is below it. What cannot be
read is left out. -/
partial def addFromDisk (t : Tree) (text : String) : IO Tree := do
  let path := (← IO.currentDir) / text
  if !(← path.pathExists) then return t
  let real := (← IO.FS.realPath path).toString
  let here := locationOf path.toString
  let there := locationOf real
  if (t.entry? there).isSome then
    return if here = there then t else (t.makeParents here).put here (.link (.ofText real.toList))
  let t ←
    if ← path.isDir then do
      let entries ← path.readDir
      entries.foldlM (fun t e => addFromDisk t (real ++ "/" ++ e.fileName))
        (addDirectory t there)
    else
      try
        let bytes ← IO.FS.readBinFile path
        let data ← path.metadata
        pure (addFile t there ⟨bytes.toList, billionths data.modified⟩)
      catch _ => pure t
  return if here = there then t else (t.makeParents here).put here (.link (.ofText real.toList))

/-- A picture of the current directory. -/
def currentPicture : IO Tree := do
  let here := (← IO.currentDir).toString
  addFromDisk ⟨[], [], 1, locationOf here⟩ here

/-- The paths that a render names, given its defaults. -/
def namedPaths (r : RenderRequest) (defaults : Options Data) : List (List Char) :=
  [r.template] ++ r.path ++ defaults.path

/-- A picture of what a render can reach. -/
def picture (environment? : Option Argument) (r : RenderRequest) : IO Tree := do
  let addAll := fun (t : Tree) (paths : List (List Char)) =>
    paths.foldlM (fun t p => addFromDisk t (String.ofList p)) t
  let t ← currentPicture
  let config? := r.config?.or environment?
  let t ← addAll t (config?.toList ++ r.paramsFile?.toList)
  let defaults := match fileDefaults t config? with
    | .ok d => d
    | .error _ => .empty
  addAll t (namedPaths r defaults)

/-- The variable of the environment that names a file of defaults. -/
def configVariable : String := "PLATE_CONFIG"

/-- Shows an outcome. -/
def showOutcome : Outcome → IO Unit
  | .output text => IO.print (String.ofList text)
  | .failure message => IO.eprintln ("Error: " ++ String.ofList message)
  | .usage => IO.eprint (String.ofList usageText)
  | .exception class? => IO.eprintln (class?.getD "YAMLError")

end Stencil.Program

open Stencil CommandLine Program in
/-- Runs the command of the arguments. -/
def main (arguments : List String) : IO UInt32 := do
  let environment? := (← IO.getEnv configVariable).map String.toList
  let arguments := arguments.map String.toList
  let t ← match Command.ofArguments? arguments with
    | some (.render r) => picture environment? r
    | _ => pure default
  let outcome := perform t environment? arguments
  showOutcome outcome
  return UInt32.ofNat outcome.exitCode
