import Verdict.CommandLine.Program

/-!
# The executable

Looks at the files and the environment that a run depends on, lets the library decide, and writes
what comes out of it.
-/

namespace Verdict

/-- The code of the operating system for an attempt to read a directory like a file. -/
def isDirectoryCode : UInt32 := 21

/-- What is at a path. -/
def look (path : String) : IO (Option Entry) := do
  try
    return some (.file (← IO.FS.readFile path))
  catch
    | .noFileOrDirectory .. => return none
    | .inappropriateType _ code _ =>
      return if code = isDirectoryCode then some .directory else none
    | _ => return some .unreadable

/-- What is at some paths. -/
def lookAll (paths : List String) : IO (Table Entry) := do
  let mut found : Table Entry := []
  for path in paths do
    if let some entry ← look path then
      found := found.put path entry
  return found

/-- The variables of the environment that a run depends on. -/
def consultedVariables : List String :=
  [Invocation.configVariable, LoggingPlan.levelVariable, LoggingPlan.formatVariable,
    "XDG_CONFIG_HOME", "HOME"]

/-- The surroundings of an invocation. -/
def surroundings (arguments : List String) : IO Surroundings := do
  let mut values : Table String := []
  for name in consultedVariables do
    if let some value ← IO.getEnv name then
      values := values.put name value
  let environment := values.get?
  let empty : Surroundings := { entry? := fun _ => none, environment }
  match Invocation.read environment arguments with
  | .error _ => return empty
  | .ok i =>
    let first ← lookAll (i.configurationPaths empty)
    let configured : Surroundings := { empty with entry? := first.get? }
    match configured.configuration i.config? with
    | .error _ => return configured
    | .ok c =>
      let second ← lookAll (i.requestPaths c)
      return { configured with entry? := fun path => first.get? path <|> second.get? path }

/-- Write a file and the directories above it. -/
def store (path text : String) : IO Bool := do
  try
    let parent := Path.parent path
    if !parent.isEmpty then
      IO.FS.createDirAll parent
    IO.FS.writeFile path text
    return true
  catch _ => return false

end Verdict

open Verdict

def main (arguments : List String) : IO UInt32 := do
  let around ← surroundings arguments
  let terminal ← (← IO.getStdout).isTty
  let conclusion ← match runProgram around terminal arguments with
    | .done conclusion => pure conclusion
    | .store path text after => after <$> store path text
  for line in conclusion.complaints do
    IO.eprintln line
  IO.print conclusion.output
  return conclusion.exitCode.toUInt32
