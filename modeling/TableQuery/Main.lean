import TableQuery.CommandLine.Command

/-!
# The program

Reads the files that the words of the command name, answers, and writes what is to be written.
-/

namespace TableQuery.CommandLine

/-- Reads a file. -/
def readFile (path : String) : IO (Except ReadFault String) := do
  try
    return .ok (← IO.FS.readFile path)
  catch
    | .noFileOrDirectory .. => return .error .missing
    | .inappropriateType _ 21 _ => return .error .directory
    | .inappropriateType .. => return .error .notDirectory
    | e => return .error (.other e.toString)

/-- The paths that a command reads. -/
def pathsOf (words : List String) : List String :=
  match readArguments words with
  | .ok (.run options) => options.file :: options.config.toList
  | _ => []

end TableQuery.CommandLine

open TableQuery.CommandLine in
def main (words : List String) : IO UInt32 := do
  let contents ← (pathsOf words).mapM fun path => do return (path, ← readFile path)
  let files : Files := fun path => (contents.lookup path).getD (.error .missing)
  let response := respond files words
  (← IO.getStdout).putStr response.stdout
  (← IO.getStderr).putStr response.stderr
  if let some (path, text) := response.written then
    IO.FS.writeFile path text
  return UInt32.ofNat response.exitCode
