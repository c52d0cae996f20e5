/-
# Facts

A fact labels a declaration of the unit under analysis with a role. Declarations of other units
cannot be labelled; exporting one label twice changes nothing.
-/
import BindingAudit.Binding.Conventions
import BindingAudit.Fault
import BindingAudit.Program.Declaration

namespace BindingAudit

/-- A role label on a declaration. -/
structure RoleLabel where
  decl : DeclId
  /-- The name the declaration was registered under. -/
  name : String
  role : Role
  deriving DecidableEq, Repr

/-- The facts that a unit exports, in export order. -/
structure ExportedFacts where
  module : String
  facts : List RoleLabel
  deriving DecidableEq, Repr

namespace ExportedFacts

/-- No facts about a unit. -/
def empty (module : String) : ExportedFacts := ⟨module, []⟩

/-- The label of a declaration with a role. -/
def labelOf (d : Declaration) (role : Role) : RoleLabel := ⟨d.id, d.name, role⟩

/-- The fault of labelling a declaration of another unit. -/
def refusal (unit : String) (d : Declaration) : Fault :=
  ⟨.foreignDeclaration d.qualifiedName d.module unit, none⟩

/-- Labels a declaration of the unit with a role. -/
def exportRole (s : ExportedFacts) (d : Declaration) (role : Role) : Except Fault ExportedFacts :=
  if d.module = s.module then
    .ok (if labelOf d role ∈ s.facts then s else { s with facts := s.facts ++ [labelOf d role] })
  else .error (refusal s.module d)

/-- The roles a declaration was labelled with, in export order. -/
def rolesFor (s : ExportedFacts) (decl : DeclId) : List Role :=
  (s.facts.filter (·.decl == decl)).map RoleLabel.role

end ExportedFacts

end BindingAudit
