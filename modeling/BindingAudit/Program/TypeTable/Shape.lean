/-
# Shapes

What a type looks like to an encoder that works field by field: which parts it has, or why it
has none. A type with a method that encodes it is taken at its word.
-/
import BindingAudit.Program.TypeTable

namespace BindingAudit

/-- The kinds of values that no encoding can carry. -/
inductive Unsendable where
  | function
  | channel
  | unsafePointer
  deriving DecidableEq, Repr

/-- The wording of an unsendable kind. -/
def Unsendable.text : Unsendable → String
  | .function => "function"
  | .channel => "channel"
  | .unsafePointer => "unsafe pointer"

/-- The structure of a type as the transportability check sees it. -/
inductive Shape where
  | basic (kind : Predeclared)
  | pointer (elem : TypeId)
  | sequence (elem : TypeId)
  | array (elem : TypeId) (len : UInt64)
  | mapping (key value : TypeId)
  | struct (fields : List Field)
  /-- The concrete type is not known before run time. -/
  | interface
  /-- The type encodes itself. -/
  | codec
  /-- The table does not describe the type. -/
  | unknown
  | unsupported (kind : Unsendable)
  deriving DecidableEq, Repr

/-- The shape of an entry that is not named. -/
def TypeKind.shape : TypeKind → Shape
  | .basic b => .basic b
  | .named _ => .unknown
  | .pointer elem => .pointer elem
  | .slice elem => .sequence elem
  | .array elem len => .array elem len
  | .map key value => .mapping key value
  | .struct fields => .struct fields
  | .interface _ => .interface
  | .signature _ => .unsupported .function
  | .chan _ => .unsupported .channel

/-- The shape of a type, given the method names that mark a type as encoding itself. -/
def TypeTable.shape (t : TypeTable) (encodesItself : String → Bool) (id : TypeId) : Shape :=
  if (t.named? id).any fun n => n.methods.any fun m => encodesItself m.name then .codec
  else match t.underlyingEntry id with
    | some kind => kind.shape
    | none => .unknown

end BindingAudit
