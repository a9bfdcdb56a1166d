import AccessControl.CommandLine.Run
import Std.Time.DateTime.Timestamp

/-! The program: it reads the files that a command names, and prints the answer. -/

namespace AccessControl.CommandLine

/-- What stands under a path, if anything does. -/
def readFile (path : String) : IO (Option Document.File) := do
  try
    let content ← IO.FS.readBinFile path
    return some (.octets (content.toList.map UInt8.toNat))
  catch
    | .noFileOrDirectory .. => return none
    | .permissionDenied .. => return some (.closed 13 "Permission denied")
    | _ => return some .directory

/-- The files that an invocation reads. -/
def readFiles (arguments : List String) : IO Document.Files := do
  match Invocation.read arguments with
  | .error _ => return []
  | .ok invocation =>
    let found ← invocation.command.paths.mapM fun path => do
      return (Document.normalPath path, ← readFile path)
    return found.filterMap fun (path, file) => file.map (path, ·)

/-- The present. -/
def present : IO Time.Moment := do
  let stamp ← Std.Time.Timestamp.now
  return Time.ofUnixNanoseconds stamp.toNanosecondsSinceUnixEpoch.val

/-- The program with its arguments; it returns the code that it ends with. -/
def runProgram (arguments : List String) : IO UInt32 := do
  let files ← readFiles arguments
  let functions := Registry.builtin (← present)
  let answer := answer files functions arguments
  IO.print answer.output
  IO.eprint answer.errors
  match answer.uncaught with
  | some error => IO.eprintln error.message
  | none => pure ()
  return answer.code.toUInt32

end AccessControl.CommandLine

/-- The command line. -/
def main (arguments : List String) : IO UInt32 :=
  AccessControl.CommandLine.runProgram arguments
