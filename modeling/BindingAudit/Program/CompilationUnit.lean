/-
# Compilation units

A unit is one module: its files, its scopes, and what a type checker found out about its
expressions. `meaningOf?` looks a name up where it stands, while `recordedObject?` is what the type
checker recorded for it.
-/
import BindingAudit.Program.Scope
import BindingAudit.Program.SourceFile

namespace BindingAudit

/-- What is known about the expressions of a unit. -/
structure Annotations where
  /-- The static type of each typed expression. -/
  types : FinMap ExprId TypeId
  /-- The object each identifier refers to. -/
  uses : FinMap ExprId Object
  /-- The innermost scope around each identifier. -/
  scopes : FinMap ExprId ScopeId

namespace Annotations

instance : BEq Annotations :=
  ⟨fun a b => a.types == b.types && a.uses == b.uses && a.scopes == b.scopes⟩

/-- Nothing is known. -/
def empty : Annotations := ⟨.empty, .empty, .empty⟩

/-- The static type of an expression. -/
def recordedType? (info : Annotations) (e : Expr) : Option TypeId := info.types.find? e.id

/-- The object an identifier refers to. -/
def recordedObject? (info : Annotations) (e : Expr) : Option Object := info.uses.find? e.id

/-- The innermost scope around an identifier. -/
def recordedScope? (info : Annotations) (e : Expr) : Option ScopeId := info.scopes.find? e.id

end Annotations

/-- One compilation unit. -/
structure CompilationUnit where
  module : String
  files : List SourceFile
  info : Annotations
  scopes : ScopeTree
  /-- The modules this unit depends on. -/
  dependencies : List String

namespace CompilationUnit

instance : BEq CompilationUnit :=
  ⟨fun a b => a.module == b.module && a.files == b.files && a.info == b.info &&
    a.scopes == b.scopes && a.dependencies == b.dependencies⟩

/-- A unit without content. -/
def empty (module : String) : CompilationUnit := ⟨module, [], .empty, .empty, []⟩

/-- What an identifier means where it stands: the nearest binding of its name, or, if its scope
is not known, the recorded object. -/
def meaningOf? (unit : CompilationUnit) (e : Expr) : Option Object :=
  e.name?.bind fun name =>
    match unit.info.recordedScope? e with
    | some scope => (unit.scopes.lookup scope name).map Prod.snd
    | none => unit.info.recordedObject? e

/-- The function an expression names. -/
def functionNamedBy? (unit : CompilationUnit) (e : Expr) : Option DeclId :=
  e.namingIdent?.bind fun i => (unit.info.recordedObject? i).bind Object.asFunc?

/-- The name of the first file, or of the module if there is none. Messages about the whole unit
are placed there. -/
def firstFile (unit : CompilationUnit) : String :=
  match unit.files with
  | file :: _ => file.name
  | [] => unit.module

/-- Where messages about the whole unit are placed. -/
def position (unit : CompilationUnit) : Position :=
  Span.start.toPosition unit.firstFile

end CompilationUnit

end BindingAudit
