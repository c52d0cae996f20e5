/-
# The type table

All types of a program stand in one table and refer to each other by `TypeId`. A table may come
from outside, so references may be circular or dangling; every query answers on any table.

`underlying` follows named types down to the first type that is not named. A chain of more links
than the table has entries has come back to where it was, so the search may stop there.
-/
import BindingAudit.Program.TypeKind

namespace BindingAudit

/-- All types of a program. -/
structure TypeTable where
  kinds : List TypeKind
  deriving DecidableEq, Repr

namespace TypeTable

/-! ## Construction -/

/-- The table that holds the predeclared types only. -/
def predeclared : TypeTable := ⟨Predeclared.all.map .basic⟩

instance : Inhabited TypeTable := ⟨predeclared⟩

/-- The number of types. -/
def size (t : TypeTable) : Nat := t.kinds.length

/-- The entry a type identifier refers to. -/
def get? (t : TypeTable) (id : TypeId) : Option TypeKind := t.kinds[id.index]?

/-- The predeclared type of a basic kind. -/
def basic (kind : Predeclared) : TypeId := .ofIndex kind.slot

/-- The identifier of the type that is added next. -/
def nextId (t : TypeTable) : TypeId := .ofIndex t.size

/-- Adds a type at the end. Its identifier is the `nextId` of the table before. -/
def add (t : TypeTable) (kind : TypeKind) : TypeTable := ⟨t.kinds ++ [kind]⟩

/-- The named type an identifier refers to. -/
def named? (t : TypeTable) (id : TypeId) : Option NamedType :=
  match t.get? id with
  | some (.named n) => some n
  | _ => none

/-- Replaces a named type by its image under `f`; nothing, if there is no named type there. -/
def modifyNamed? (t : TypeTable) (id : TypeId) (f : NamedType → NamedType) : Option TypeTable :=
  (t.named? id).map fun n => ⟨t.kinds.set id.index (.named (f n))⟩

/-- Sets the underlying type of a named type. -/
def withUnderlying? (t : TypeTable) (id underlying : TypeId) : Option TypeTable :=
  t.modifyNamed? id fun n => { n with underlying := some underlying }

/-- Attaches a method to a named type. -/
def attachMethod? (t : TypeTable) (id : TypeId) (m : Method) : Option TypeTable :=
  t.modifyNamed? id fun n => { n with methods := n.methods ++ [m] }

/-- All types with their identifiers, in order. -/
def entries (t : TypeTable) : List (TypeId × TypeKind) :=
  t.kinds.mapIdx fun i kind => (.ofIndex i, kind)

/-- The first entry equal to a given kind. -/
def find? (t : TypeTable) (kind : TypeKind) : Option TypeId :=
  (t.entries.find? (·.2 == kind)).map Prod.fst

/-! ## Following names -/

/-- Follows at most `steps` entries along underlying types to one that is not named. -/
def underlyingWithin (t : TypeTable) : Nat → TypeId → Option TypeId
  | 0, _ => none
  | steps + 1, id =>
      match t.get? id with
      | none => none
      | some (.named n) => n.underlying.bind (t.underlyingWithin steps)
      | some _ => some id

/-- The first type along the underlying types that is not named. -/
def underlying (t : TypeTable) (id : TypeId) : Option TypeId :=
  t.underlyingWithin (t.size + 1) id

/-- The entry of the underlying type. -/
def underlyingEntry (t : TypeTable) (id : TypeId) : Option TypeKind :=
  (t.underlying id).bind t.get?

/-! ## Queries -/

/-- The element of a pointer type, not looking through names. -/
def pointerElem (t : TypeTable) (id : TypeId) : Option TypeId :=
  match t.get? id with
  | some (.pointer elem) => some elem
  | _ => none

/-- The element of a pointer type, and every other type itself. -/
def behindPointer (t : TypeTable) (id : TypeId) : TypeId :=
  (t.pointerElem id).getD id

/-- The element of a type whose underlying type is a slice. -/
def sliceElement (t : TypeTable) (id : TypeId) : Option TypeId :=
  match t.underlyingEntry id with
  | some (.slice elem) => some elem
  | _ => none

/-- The qualified name of a named type. -/
def qualifiedName? (t : TypeTable) (id : TypeId) : Option String :=
  (t.named? id).map NamedType.qualifiedName

/-- Whether a type is the named type `qualified` or a pointer to it. -/
def denotes (t : TypeTable) (id : TypeId) (qualified : String) : Bool :=
  t.qualifiedName? (t.behindPointer id) == some qualified

/-- The methods of a named type, or of the named type behind a pointer. -/
def methods (t : TypeTable) (id : TypeId) : List Method :=
  match t.named? (t.behindPointer id) with
  | some n => n.methods
  | none => []

/-- Whether the underlying type is a struct. -/
def isStruct (t : TypeTable) (id : TypeId) : Bool :=
  match t.underlyingEntry id with
  | some (.struct _) => true
  | _ => false

/-- Whether a type is a struct or a pointer to one. -/
def isStructLike (t : TypeTable) (id : TypeId) : Bool :=
  t.isStruct id ||
    match t.underlyingEntry id with
    | some (.pointer elem) => t.isStruct elem
    | _ => false

/-- Whether a type is that of the untyped `nil`. -/
def isNilType (t : TypeTable) (id : TypeId) : Bool :=
  t.get? id == some (.basic .untypedNil)

/-- The field with a given name of a struct or of the struct behind a pointer. -/
def field? (t : TypeTable) (id : TypeId) (name : String) : Option Field :=
  let target := match t.underlyingEntry id with
    | some (.pointer elem) => elem
    | _ => id
  match t.underlyingEntry target with
  | some (.struct fields) => fields.find? (·.name == name)
  | _ => none

end TypeTable

end BindingAudit
