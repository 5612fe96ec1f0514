import SocksRouter.Cli.Commands

/-!
# Running the command line

`main` hands the arguments, the environment variables and the files they name to `Cli.run`, prints
what that gives, and leaves its exit code. Files are handed over as their bytes. There is no network
here, so that no name can be looked up and no server started.
-/

namespace SocksRouter.Cli

open Text

/-- The texts of an argument that may be paths: the argument, what stands behind its first two
characters, and what stands behind its equals sign. -/
def pathsIn (argument : String) : List String :=
  let behindSign := (cutFirst '=' argument.toList).map fun (_, value) ↦ String.ofList value
  [argument, String.ofList (argument.toList.drop 2)] ++ behindSign.toList

/-- The environment variables that settings are taken from. -/
def variableNames : List String :=
  [Key.config, .database, .port, .forward].filterMap Key.variableName?

/-- What a path leads to. -/
def contentAt (path : String) : IO FileContent := do
  try
    return .bytes (← IO.FS.readBinFile path).toList
  catch
    | .noFileOrDirectory .. => return .missing
    | .inappropriateType .. => return .directory
    | .permissionDenied .. => return .locked
    | .invalidArgument .. => return .missing .longName
    | other => return .failing (toString other)

/-- What paths lead to, each also without the steps that stay where they are. -/
def contentsAt (paths : List String) : IO (List (String × FileContent)) := do
  let read ← paths.mapM fun path ↦ do
    let content ← contentAt path
    return [(path, content), (tidyPath path, content)]
  return read.flatten

/-- The surroundings of a command, as far as its arguments name them. -/
def surrounding (arguments : List String) : IO Surrounding := do
  let environment ← variableNames.filterMapM fun name ↦ do
    return (← IO.getEnv name).map fun value ↦ (name, value)
  let files ← contentsAt (arguments.flatMap pathsIn ++ environment.map Prod.snd)
  return {
    read := fun path ↦ (files.lookup path).getD .missing
    environment
    names := .unknown
    serveFailure := some ⟨.system, "There is no network to listen on"⟩ }

end SocksRouter.Cli

/-- Runs the command line. -/
def main (arguments : List String) : IO UInt32 := do
  let outcome := SocksRouter.Cli.run (← SocksRouter.Cli.surrounding arguments) arguments
  match outcome.output with
  | some shown => (← IO.getStdout).putStr (String.ofList shown)
  | none => (← IO.getStderr).putStrLn "The arguments are not understood"
  return UInt32.ofNat outcome.exit
