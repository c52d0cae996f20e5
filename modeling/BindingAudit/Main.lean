/-
# The program

Reads the files that the arguments name, runs the command, and prints what it leaves behind.
-/
import BindingAudit.Command.FileTree
import BindingAudit.Command.Line

namespace BindingAudit.Command

/-- The number of a failure in the operating system, which some calls report negated. -/
def failureNumber (code : UInt32) : Nat := min code.toNat (0 - code).toNat

/-- The reason of a failed read in words. -/
def readFault : IO.Error → String
  | .noFileOrDirectory .. => FileFault.notFound.message
  | .inappropriateType _ code _ =>
      if failureNumber code = 20 then FileFault.notDirectory.message
      else FileFault.isDirectory.message
  | .permissionDenied .. => "Permission denied (os error 13)"
  | e => toString e

/-- The content of a file, or the reason why it cannot be read. -/
def readFile (path : String) : IO (Except String (List UInt8)) := do
  try
    return .ok (← IO.FS.readBinFile path).data.toList
  catch e => return .error (readFault e)

/-- Runs the command on the files at hand. -/
def perform (args : List String) : IO UInt32 := do
  let paths := args.filter fun arg => !arg.startsWith "-"
  let contents ← paths.mapM fun path => return (path, ← readFile path)
  let files : Files := fun path =>
    (contents.lookup path).getD (.error "the file has not been read")
  let outcome := run files args
  IO.print outcome.stdout
  IO.eprint outcome.stderr
  return outcome.exitCode

end BindingAudit.Command

/-- The entry point. -/
def main (args : List String) : IO UInt32 := BindingAudit.Command.perform args
