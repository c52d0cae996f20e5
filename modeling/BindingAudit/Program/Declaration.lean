/-
# Declarations

A declaration is a function or method with its signature. Its first parameter is, by convention,
the context carrier, which invocations never supply themselves.
-/
import BindingAudit.Program.TypeTable
import BindingAudit.Source

namespace BindingAudit

/-- A function or method declaration. -/
structure Declaration where
  id : DeclId
  /-- The name the declaration is known by. -/
  name : String
  /-- The path of the owning module. -/
  module : String
  /-- The receiver type of a method. -/
  receiver : Option TypeId
  signature : Signature
  /-- The signature as an entry of the type table. -/
  ty : TypeId
  span : Span
  deriving DecidableEq, Repr, Inhabited

namespace Declaration

/-- The declared parameter types, the context carrier included. -/
def params (d : Declaration) : List TypeId := d.signature.params

/-- The declared result types. -/
def results (d : Declaration) : List TypeId := d.signature.results

/-- Whether the last parameter is variadic. -/
def isVariadic (d : Declaration) : Bool := d.signature.variadic

/-- Whether this is a method. -/
def isMethod (d : Declaration) : Bool := d.receiver.isSome

/-- Whether the declaration is visible outside its module. -/
def isExported (d : Declaration) : Bool := Text.isExported d.name

/-- The element type of the variadic parameter. -/
def restElement (types : TypeTable) (d : Declaration) : Option TypeId :=
  if d.isVariadic then d.params.getLast?.bind types.sliceElement else none

/-- The same declaration under another name. -/
def underName (d : Declaration) (name : String) : Declaration := { d with name }

/-- The name qualified by the module. -/
def qualifiedName (d : Declaration) : String := qualify d.module d.name

end Declaration

end BindingAudit
