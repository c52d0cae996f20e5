/-
# The command line

Options may stand anywhere among the paths of the snapshots. An unknown option stops everything;
help goes before version, and both before any analysis. Snapshots are audited in order up to the
first that fails. The outcome is a function of the arguments and of what reading a path yields.
-/
import BindingAudit.Audit.Run
import BindingAudit.Audit.SnapshotFile

namespace BindingAudit.Command

/-! ## Arguments -/

/-- What the arguments ask for. -/
structure Request where
  snapshots : List String := []
  help : Bool := false
  version : Bool := false
  json : Bool := false
  settings : Settings := {}
  deriving DecidableEq, Repr

/-- Why a command fails. -/
inductive Failure where
  | unknownOption (option : String)
  | noSnapshot
  | fault (f : Fault)
  deriving DecidableEq, Repr

/-- The wording of a failure. -/
def Failure.message : Failure → String
  | .unknownOption option => "unknown option: " ++ option
  | .noSnapshot => "no snapshot given (see --help)"
  | .fault f => f.message

/-- Takes one argument into account. -/
def Request.take (r : Request) (arg : String) : Except Failure Request :=
  match arg with
  | "-h" | "--help" => .ok { r with help := true }
  | "-V" | "--version" => .ok { r with version := true }
  | "--json" => .ok { r with json := true }
  | "--debug" => .ok { r with settings := { r.settings with debug := true } }
  | "--report-unresolved" =>
      .ok { r with settings := { r.settings with reportUnresolved := true } }
  | "--strict-pointer-match" =>
      .ok { r with settings := { r.settings with strictPointerMatch := true } }
  | _ =>
      if arg.startsWith "-" then .error (.unknownOption arg)
      else .ok { r with snapshots := r.snapshots ++ [arg] }

/-- Reads the arguments from left to right. -/
def Request.ofArgs (args : List String) : Except Failure Request :=
  args.foldlM Request.take {}

/-! ## Output -/

/-- What a command leaves behind. -/
structure Outcome where
  exitCode : UInt32
  stdout : String
  stderr : String
  deriving DecidableEq, Repr

/-- Text set in bold on a terminal. -/
def bold (s : String) : String := "\x1b[1m" ++ s ++ "\x1b[0m"

/-- The line that tells about a failure, set in red on a terminal. -/
def failureLine (f : Failure) : String := "\x1b[31mError: " ++ f.message ++ "\x1b[0m\n"

/-- The help page. -/
def helpPage : String :=
  bold "bindcheck" ++ " - Workflow/activity binding checker\n\n" ++
  bold "USAGE:" ++ "\n" ++
  "    bindcheck [OPTIONS] SNAPSHOT...\n\n" ++
  bold "ARGUMENTS:" ++ "\n" ++
  "    SNAPSHOT...    Program snapshots to check (.json, or MessagePack otherwise)\n\n" ++
  bold "OPTIONS:" ++ "\n" ++
  "    -h, --help                Print help information\n" ++
  "    -V, --version             Print version information\n" ++
  "    --json                    Print diagnostics as JSON lines\n\n" ++
  bold "ANALYSIS OPTIONS:" ++ "\n" ++
  "    --debug                   Emit trace output about registrations and calls\n" ++
  "    --report-unresolved       Report calls whose target cannot be resolved\n" ++
  "    --strict-pointer-match    Require exact pointer/value argument matches\n\n" ++
  bold "EXIT STATUS:" ++ "\n" ++
  "    0    No findings\n" ++
  "    1    Findings were reported, or an error occurred\n\n" ++
  bold "EXAMPLES:" ++ "\n" ++
  "    bindcheck program.msgpack              Check one snapshot\n" ++
  "    bindcheck --report-unresolved app.json Also report unresolvable callees\n" ++
  "    bindcheck --json a.json b.json         Machine-readable output\n"

/-- The version line. -/
def versionLine : String := "bindcheck 0.1.0\n"

/-- A diagnostic as one line of output. -/
def diagnosticLine (json : Bool) (x : Diagnostic) : String :=
  (if json then String.ofList (Json.print (x.toWire Json.dialect)) else x.render) ++ "\n"

/-! ## Running -/

/-- How the files of a command are read: the content, or the reason in words. -/
abbrev Files := String → Except String (List UInt8)

/-- Loads and audits the snapshot at a path. -/
def auditPath (files : Files) (settings : Settings) (path : String) : Except Failure AuditReport :=
  match Snapshot.load files path with
  | .error f => .error (.fault f)
  | .ok snapshot =>
      match Auditor.run { settings } snapshot with
      | .error f => .error (.fault f)
      | .ok report => .ok report

/-- Audits the snapshots at all paths in order, up to the first that fails: the output, whether
there was no finding, and the failure. -/
def auditPaths (files : Files) (r : Request) : List String → String × Bool × Option Failure
  | [] => ("", true, none)
  | path :: paths =>
      match auditPath files r.settings path with
      | .error f => ("", true, some f)
      | .ok report =>
          let lines := String.join (report.diagnostics.map (diagnosticLine r.json))
          let (rest, clean, failure) := auditPaths files r paths
          (lines ++ rest, !report.hasFindings && clean, failure)

/-- Answers a request. -/
def answer (files : Files) (r : Request) : Outcome :=
  if r.help then ⟨0, helpPage, ""⟩
  else if r.version then ⟨0, versionLine, ""⟩
  else if r.snapshots.isEmpty then ⟨1, "", failureLine .noSnapshot⟩
  else match auditPaths files r r.snapshots with
    | (output, _, some f) => ⟨1, output, failureLine f⟩
    | (output, clean, none) => ⟨if clean then 0 else 1, output, ""⟩

/-- Runs the command with given arguments. -/
def run (files : Files) (args : List String) : Outcome :=
  match Request.ofArgs args with
  | .error f => ⟨1, "", failureLine f⟩
  | .ok r => answer files r

end BindingAudit.Command
