/-
# Snapshots

A snapshot is a whole program: the shared definitions and the units, in any order.
-/
import BindingAudit.Program.CompilationUnit
import BindingAudit.Program.Definitions

namespace BindingAudit

/-- A whole program. -/
structure Snapshot where
  defs : Definitions
  units : List CompilationUnit

instance : BEq Snapshot := ⟨fun a b => a.defs == b.defs && a.units == b.units⟩

/-- The first unit of a module. -/
def Snapshot.unit? (s : Snapshot) (module : String) : Option CompilationUnit :=
  s.units.find? (·.module == module)

end BindingAudit
