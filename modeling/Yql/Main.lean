import Yql.Command.Run

/-!
# The program

Reads what the program can see, runs it, and prints what the run leaves.
-/

open Yql Yql.Command

def causeOf : IO.Error → String
  | .noFileOrDirectory _ code _ => "No such file or directory (os error " ++ toString code ++ ")"
  | .permissionDenied _ code _ => "Permission denied (os error " ++ toString code ++ ")"
  | .inappropriateType _ code _ => "Is a directory (os error " ++ toString code ++ ")"
  | error => toString error

/-- Whether a file stands at the path, and its text. -/
def entryAt (path : String) : IO (Bool × Except String String) := do
  try
    return (true, .ok (← IO.FS.readFile path))
  catch error =>
    let isFile :=
      match error with
      | .noFileOrDirectory .. => false
      | .inappropriateType .. => false
      | _ => true
    return (isFile, .error (causeOf error))

/-- What stands at the paths, read once. -/
def filesAt (paths : List String) : IO Files := do
  let entries ← paths.mapM fun path => return (path, ← entryAt path)
  let entryOf (path : String) : Bool × Except String String :=
    match entries.find? (·.1 = path) with
    | some (_, entry) => entry
    | none => (false, .error "not looked at")
  return {
    isFile := fun path => (entryOf path).1
    read := fun path => (entryOf path).2
    complaint := fun _ => "no valid configuration" }

def workingDirectory : IO (Except String Directory) := do
  try
    let names := (Text.split '/' (← IO.currentDir).toString).filter (· ≠ "")
    return .ok (.ofNames names)
  catch error => return .error (causeOf error)

/-- The variables of the environment that the program looks at. -/
def variableNames : List String :=
  [Config.environmentVariable, "CLICOLOR", "CLICOLOR_FORCE", "NO_COLOR"]

def styled (style : Terminal.Style) (text : String) : String :=
  (if style.cyan then "\x1b[38;5;14m" else "") ++ (if style.bold then "\x1b[1m" else "") ++ text
    ++ Terminal.closing

/-- What a run with those arguments can see. -/
def surroundings (arguments : List String) : IO Surroundings := do
  let values ← variableNames.mapM fun name => return (name, ← IO.getEnv name)
  let valueOf? (name : String) : Option String := (values.find? (·.1 = name)).bind (·.2)
  let directory ← workingDirectory
  let asked :=
    match Arguments.read arguments with
    | .ok (.run settings _) => settings.config
    | _ => none
  let paths := Config.candidates directory asked (valueOf? Config.environmentVariable)
  return {
    valueOf? := valueOf?
    files := ← filesAt paths
    directory := directory
    isTerminal := ← (← IO.getStdout).isTty
    width := String.length
    styled := styled }

def main (arguments : List String) : IO UInt32 := do
  match run arguments (← surroundings arguments) with
  | .error error =>
      IO.eprintln ("error: " ++ error.message)
      return 2
  | .ok outcome =>
      IO.print outcome.output
      IO.eprint outcome.errors
      return UInt32.ofNat outcome.code
