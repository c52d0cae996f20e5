/-
# Definitions of a program

The types and declarations that all units of a program share. Declarations are numbered in the
order in which they were made, and each has its signature as an entry of the type table.
-/
import BindingAudit.Program.Declaration

namespace BindingAudit

/-- The types and declarations of a whole program. -/
structure Definitions where
  types : TypeTable
  decls : List Declaration
  deriving DecidableEq, Repr

namespace Definitions

/-- The definitions every program starts with: the predeclared types. -/
def predeclared : Definitions := ⟨.predeclared, []⟩

instance : Inhabited Definitions := ⟨predeclared⟩

/-- The declaration an identifier refers to. -/
def decl? (defs : Definitions) (id : DeclId) : Option Declaration := defs.decls[id.index]?

/-- The identifier of the declaration that is made next. -/
def nextDeclId (defs : Definitions) : DeclId := .ofIndex defs.decls.length

/-- Makes a declaration; its signature becomes an entry of the type table. -/
def declare (defs : Definitions) (module name : String) (receiver : Option TypeId)
    (signature : Signature) : Definitions where
  types := defs.types.add (.signature signature)
  decls := defs.decls ++ [{
    id := defs.nextDeclId, name, module, receiver, signature,
    ty := defs.types.nextId, span := .unknown }]

/-- Declares a function. -/
def declareFunction (defs : Definitions) (module name : String) (signature : Signature) : Definitions :=
  defs.declare module name none signature

/-- Declares a method of the type `receiver` and attaches it there if that type is named. A
pointer receiver adds the pointer type first. -/
def declareMethod (defs : Definitions) (receiver : TypeId) (pointerReceiver : Bool) (name : String)
    (signature : Signature) : Definitions :=
  let module := ((defs.types.named? receiver).map NamedType.module).getD ""
  let receiverType := if pointerReceiver then defs.types.nextId else receiver
  let withReceiver : Definitions :=
    if pointerReceiver then { defs with types := defs.types.add (.pointer receiver) } else defs
  let declared := withReceiver.declare module name (some receiverType) signature
  let method : Method := ⟨name, pointerReceiver, some defs.nextDeclId⟩
  { declared with
    types := (declared.types.attachMethod? receiver method).getD declared.types }

/-- Sets where a declaration is defined. -/
def placeDecl (defs : Definitions) (id : DeclId) (span : Span) : Definitions :=
  { defs with decls := defs.decls.modify id.index fun d => { d with span } }

end Definitions

end BindingAudit
