/-
# Kinds of types

The kinds of types that the analysis tells apart. Named types are nominal and may refer to
themselves through their underlying type; every other kind is structural.
-/
import BindingAudit.Program.FieldTag
import BindingAudit.Program.Id
import BindingAudit.Text.Uppercase

namespace BindingAudit

/-! ## Predeclared types -/

/-- The predeclared scalar types. -/
inductive Predeclared where
  | bool | int | int8 | int16 | int32 | int64
  | uint | uint8 | uint16 | uint32 | uint64 | uintptr
  | float32 | float64 | complex64 | complex128
  | string | unsafePointer | untypedNil
  deriving DecidableEq, Repr, Inhabited

namespace Predeclared

/-- All predeclared types, in the order in which every type table lists them. -/
def all : List Predeclared :=
  [bool, int, int8, int16, int32, int64, uint, uint8, uint16, uint32, uint64, uintptr,
   float32, float64, complex64, complex128, string, unsafePointer, untypedNil]

/-- The spelling in source text. -/
def name : Predeclared → String
  | bool => "bool"
  | int => "int"
  | int8 => "int8"
  | int16 => "int16"
  | int32 => "int32"
  | int64 => "int64"
  | uint => "uint"
  | uint8 => "uint8"
  | uint16 => "uint16"
  | uint32 => "uint32"
  | uint64 => "uint64"
  | uintptr => "uintptr"
  | float32 => "float32"
  | float64 => "float64"
  | complex64 => "complex64"
  | complex128 => "complex128"
  | string => "string"
  | unsafePointer => "unsafe.Pointer"
  | untypedNil => "untyped nil"

/-- The name that stands for the type in snapshots. -/
def tag : Predeclared → String
  | bool => "Bool"
  | int => "Int"
  | int8 => "Int8"
  | int16 => "Int16"
  | int32 => "Int32"
  | int64 => "Int64"
  | uint => "Uint"
  | uint8 => "Uint8"
  | uint16 => "Uint16"
  | uint32 => "Uint32"
  | uint64 => "Uint64"
  | uintptr => "Uintptr"
  | float32 => "Float32"
  | float64 => "Float64"
  | complex64 => "Complex64"
  | complex128 => "Complex128"
  | string => "String"
  | unsafePointer => "UnsafePointer"
  | untypedNil => "UntypedNil"

/-- The place of the type among the predeclared ones. -/
def slot (b : Predeclared) : Nat := all.idxOf b

end Predeclared

/-! ## Composite types -/

/-- A field of a struct. An embedded field is named after its type. -/
structure Field where
  name : String
  ty : TypeId
  /-- The raw tag text. -/
  tag : Option String := none
  embedded : Bool := false
  deriving DecidableEq, Repr, Inhabited

/-- Whether the field is visible outside its module. -/
def Field.isExported (f : Field) : Bool :=
  Text.isExported f.name

/-- The value stored under `key` in the field's tag. -/
def Field.tagValue (f : Field) (key : String) : Option String :=
  f.tag.bind (FieldTag.value? · key)

/-- A method of a named type. -/
structure Method where
  name : String
  pointerReceiver : Bool
  /-- The declaration of the method, when it is part of the program. -/
  decl : Option DeclId
  deriving DecidableEq, Repr, Inhabited

/-- A named type. The module is empty for predeclared names. -/
structure NamedType where
  module : String
  name : String
  /-- The underlying type, once known. -/
  underlying : Option TypeId := none
  methods : List Method := []
  deriving DecidableEq, Repr, Inhabited

/-- A name qualified by its module; a name without module stays bare. -/
def qualify (module name : String) : String :=
  if module.isEmpty then name else module ++ "." ++ name

/-- The qualified name of a named type. -/
def NamedType.qualifiedName (n : NamedType) : String :=
  qualify n.module n.name

/-- A function signature. The last parameter of a variadic signature is meant to be a slice. -/
structure Signature where
  params : List TypeId := []
  results : List TypeId := []
  variadic : Bool := false
  deriving DecidableEq, Repr, Inhabited

/-- The kinds of types. -/
inductive TypeKind where
  | basic (kind : Predeclared)
  | named (type : NamedType)
  | pointer (elem : TypeId)
  | slice (elem : TypeId)
  | array (elem : TypeId) (len : UInt64)
  | map (key value : TypeId)
  | struct (fields : List Field)
  /-- An interface is known by the names of its methods. -/
  | interface (methods : List String)
  | signature (type : Signature)
  | chan (elem : TypeId)
  deriving DecidableEq, Repr, Inhabited

end BindingAudit
