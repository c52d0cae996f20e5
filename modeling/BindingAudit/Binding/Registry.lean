/-
# Registries

A registry holds the declarations that a unit registers, by role and in registration order,
and a table of additional names. A declaration with an additional name is listed under that name
as well as under its own.
-/
import BindingAudit.Binding.Conventions
import BindingAudit.FinMap
import BindingAudit.Program.Declaration

namespace BindingAudit

/-- The registered declarations of one unit. -/
structure Registry where
  module : String
  workflows : List Declaration
  activities : List Declaration
  /-- Additional names with the declarations that carry them. -/
  extraNames : FinMap String Declaration

namespace Registry

instance : BEq Registry :=
  ⟨fun a b => a.module == b.module && a.workflows == b.workflows &&
    a.activities == b.activities && a.extraNames == b.extraNames⟩

/-- A registry without declarations. -/
def empty (module : String) : Registry := ⟨module, [], [], .empty⟩

/-- The registered declarations of a role. -/
def declarations (r : Registry) : Role → List Declaration
  | .workflow => r.workflows
  | .activity => r.activities

/-- The declaration with an additional name. -/
def byExtraName? (r : Registry) (name : String) : Option Declaration := r.extraNames.find? name

/-- The number of additional names. -/
def extraNameCount (r : Registry) : Nat := r.extraNames.size

/-- The number of registered declarations of both roles. -/
def size (r : Registry) : Nat := r.workflows.length + r.activities.length

/-- Appends a declaration unless one with its identity and name is listed already. -/
def enlist (d : Declaration) (ds : List Declaration) : List Declaration :=
  if ds.any fun e => e.id == d.id && e.name == d.name then ds else ds ++ [d]

/-- Registers a declaration under a role. -/
def register (r : Registry) (role : Role) (d : Declaration) : Registry :=
  match role with
  | .workflow => { r with workflows := enlist d r.workflows }
  | .activity => { r with activities := enlist d r.activities }

/-- Registers a declaration under a role and makes its name an additional one. The declaration
carries the additional name already. -/
def registerAs (r : Registry) (role : Role) (d : Declaration) : Registry :=
  { r with extraNames := r.extraNames.insert d.name d }.register role d

/-- The declaration with a given name: additional names first, then those of the role. -/
def lookup (r : Registry) (role : Role) (name : String) : Option Declaration :=
  match r.byExtraName? name with
  | some d => some d
  | none => (r.declarations role).find? (·.name == name)

end Registry

end BindingAudit
