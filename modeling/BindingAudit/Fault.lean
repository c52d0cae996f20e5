/-
# Faults

Faults are failures of the tool itself: unreadable snapshots, inconsistent unit graphs, facts
about foreign declarations. Problems of the analyzed program are diagnostics, never faults.
-/

namespace BindingAudit

/-- Why an operation failed. -/
inductive Cause where
  /-- A fact was attached to a declaration of another unit. -/
  | foreignDeclaration (symbol owner unit : String)
  /-- A unit depends on a module that is not part of the program. -/
  | unknownUnit (module : String)
  /-- The dependencies of the units run in a circle, listed in order with its start repeated. -/
  | dependencyCycle (modules : List String)
  /-- A snapshot could not be encoded or decoded. -/
  | snapshot (detail : String)
  /-- A file could not be read or written. -/
  | io (path detail : String)
  /-- An argument of the command line or of the interface is unusable. -/
  | invalidArgument (detail : String)
  /-- A state that should not arise. -/
  | internal (detail : String)
  deriving DecidableEq, Repr

/-- The wording of a cause. -/
def Cause.message : Cause → String
  | .foreignDeclaration symbol owner unit =>
      "cannot export a fact for " ++ symbol ++ ": it belongs to " ++ owner ++
        ", not to the analyzed unit " ++ unit
  | .unknownUnit module => "unknown unit: " ++ module
  | .dependencyCycle modules => "dependency cycle: " ++ " -> ".intercalate modules
  | .snapshot detail => "snapshot error: " ++ detail
  | .io path detail => "i/o error on " ++ path ++ ": " ++ detail
  | .invalidArgument detail => "invalid argument: " ++ detail
  | .internal detail => "internal error: " ++ detail

/-- What was being processed when a fault arose. -/
structure Context where
  source : Option String := none
  module : Option String := none
  deriving DecidableEq, Repr

/-- The wording of a context: the source, then the module, each only if known. -/
def Context.render (c : Context) : String :=
  match c.source, c.module with
  | none, none => ""
  | some s, none => "at " ++ s
  | none, some m => "in module " ++ m
  | some s, some m => "at " ++ s ++ " in module " ++ m

/-- A cause together with what was being processed, if that is known. -/
structure Fault where
  cause : Cause
  context : Option Context := none
  deriving DecidableEq, Repr

/-- The wording of a fault is that of its cause. -/
def Fault.message (f : Fault) : String :=
  f.cause.message

/-- The same fault with a context. -/
def Fault.inContext (f : Fault) (c : Context) : Fault :=
  { f with context := some c }

end BindingAudit
