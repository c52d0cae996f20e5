/-
# Source files

A source file has a name, its imports and its functions, each in source order.
-/
import BindingAudit.Program.Expr.Equality
import BindingAudit.Text.Path

namespace BindingAudit

/-- An import of another module, possibly under a local name of its own. -/
structure Import where
  /-- The local name that is written, if one is. -/
  givenName : Option String
  path : String
  span : Span
  deriving DecidableEq, Repr

/-- The name an import binds: the written one, or else the last part of the path. -/
def Import.localName (i : Import) : String :=
  i.givenName.getD (Text.lastPathPart i.path)

/-- The body of a function or method. -/
structure FunctionDef where
  name : String
  /-- The declaration the body belongs to. -/
  decl : Option DeclId
  body : List Stmt
  span : Span

/-- One source file of a unit. -/
structure SourceFile where
  /-- The name as shown in diagnostics. -/
  name : String
  imports : List Import
  functions : List FunctionDef

instance : BEq FunctionDef :=
  ⟨fun a b => a.name == b.name && a.decl == b.decl && a.body == b.body && a.span == b.span⟩

instance : BEq SourceFile :=
  ⟨fun a b => a.name == b.name && a.imports == b.imports && a.functions == b.functions⟩

/-- A file without imports and functions. -/
def SourceFile.empty (name : String) : SourceFile := ⟨name, [], []⟩

end BindingAudit
