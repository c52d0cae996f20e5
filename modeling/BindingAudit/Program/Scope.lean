/-
# Lexical scopes

Scopes form a tree: the package scope, one file scope per file with the file's imports, then
nested function and block scopes. A name is looked up from the innermost scope outwards.

The links to enclosing scopes may come from outside and run in a circle. A walk of as many steps
as there are scopes has then seen every scope it will ever see, so it may stop.
-/
import BindingAudit.FinMap
import BindingAudit.Program.Id

namespace BindingAudit

/-- What an identifier refers to. -/
inductive Object where
  /-- A function or method. -/
  | func (decl : DeclId)
  /-- A variable, parameter or field. -/
  | var (name : String) (ty : TypeId)
  /-- An imported module under its local name. -/
  | module (name path : String)
  /-- A type name. -/
  | typeName (ty : TypeId)
  deriving DecidableEq, Repr

/-- The declaration of a function object. -/
def Object.asFunc? : Object → Option DeclId
  | .func decl => some decl
  | _ => none

/-- The path of a module object. -/
def Object.modulePath? : Object → Option String
  | .module _ path => some path
  | _ => none

/-- One lexical scope. -/
structure Scope where
  parent : Option ScopeId
  names : FinMap String Object

/-- All scopes of a unit. -/
structure ScopeTree where
  scopes : List Scope

instance : BEq Scope := ⟨fun a b => a.parent == b.parent && a.names == b.names⟩

instance : BEq ScopeTree := ⟨fun a b => a.scopes == b.scopes⟩

namespace ScopeTree

/-- The tree without scopes. -/
def empty : ScopeTree := ⟨[]⟩

/-- The number of scopes. -/
def size (t : ScopeTree) : Nat := t.scopes.length

/-- The identifier of the scope that is added next. -/
def nextId (t : ScopeTree) : ScopeId := .ofIndex t.size

/-- Adds a scope without names. Its identifier is the `nextId` of the tree before. -/
def add (t : ScopeTree) (parent : Option ScopeId) : ScopeTree :=
  ⟨t.scopes ++ [⟨parent, .empty⟩]⟩

/-- The scope an identifier refers to. -/
def get? (t : ScopeTree) (id : ScopeId) : Option Scope := t.scopes[id.index]?

/-- Binds a name in a scope. A scope that does not exist binds nothing. -/
def insert (t : ScopeTree) (id : ScopeId) (name : String) (object : Object) : ScopeTree :=
  ⟨t.scopes.modify id.index fun s => { s with names := s.names.insert name object }⟩

/-- Looks a name up in at most `steps` scopes, outwards from a given one. -/
def lookupWithin (t : ScopeTree) (name : String) : Nat → ScopeId → Option (ScopeId × Object)
  | 0, _ => none
  | steps + 1, id =>
      (t.get? id).bind fun scope =>
        match scope.names.find? name with
        | some object => some (id, object)
        | none => scope.parent.bind (t.lookupWithin name steps)

/-- The nearest scope that binds a name, with what it binds it to. -/
def lookup (t : ScopeTree) (id : ScopeId) (name : String) : Option (ScopeId × Object) :=
  t.lookupWithin name t.size id

end ScopeTree

end BindingAudit
