/-
# Settings of a run

The flags are chosen once, before anything is analyzed.
-/

namespace BindingAudit

/-- Flags that shape a run. -/
structure Settings where
  /-- Emit trace diagnostics: registry counts and resolved callees. -/
  debug : Bool := false
  /-- Report callees that cannot be resolved. -/
  reportUnresolved : Bool := false
  /-- Require pointer and value types to match exactly. -/
  strictPointerMatch : Bool := false
  deriving DecidableEq, Repr, Inhabited

/-- Every check reported and no relaxations. -/
def Settings.strict : Settings :=
  { reportUnresolved := true, strictPointerMatch := true }

end BindingAudit
