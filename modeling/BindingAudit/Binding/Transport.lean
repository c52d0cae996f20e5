/-
# Transportability

An argument crosses a boundary by a field-by-field encoding. What the encoding cannot see, such
as unexported fields and fields that are tagged out, or cannot represent, such as channels,
functions and unsafe pointers, arrives as a default value.

The check follows the parts of a type depth first. A type that is being looked at already is
assumed to be fine where it refers back to itself. The walk ends because every step into a part
puts one more type of the table on the path, and a type that is not in the table has no parts.
-/
import BindingAudit.Binding.Conventions
import BindingAudit.Program.TypeTable.Rendering
import BindingAudit.Program.TypeTable.Shape

namespace BindingAudit

/-- Why a part of a type cannot be transported. -/
inductive TransportObstacle where
  /-- The field is excluded by its tag. -/
  | skippedByTag (key value : String)
  /-- The field is not exported and has no tag value. -/
  | unexported
  /-- The type has a shape that the encoding cannot represent. -/
  | unsupported (kind : Unsendable)
  deriving DecidableEq, Repr

/-- The English indefinite article of a word. -/
def indefiniteArticle (word : String) : String :=
  if word.toList.head?.any (['a', 'e', 'i', 'o', 'u'].contains ·) then "an" else "a"

/-- The wording of an obstacle. -/
def TransportObstacle.message : TransportObstacle → String
  | .skippedByTag key value => "is excluded by its `" ++ key ++ ":\"" ++ value ++ "\"` tag"
  | .unexported => "is not exported"
  | .unsupported kind =>
      "is " ++ indefiniteArticle kind.text ++ " " ++ kind.text ++ ", which cannot be serialized"

/-- The first offending spot inside a type. -/
structure Violation where
  /-- The fields from the argument down to the offending spot. -/
  path : List String
  /-- The offending type in source syntax. -/
  typeText : String
  obstacle : TransportObstacle
  deriving DecidableEq, Repr

/-- The wording of a violation. -/
def Violation.message (v : Violation) : String :=
  (if v.path.isEmpty then "type `" else "field `" ++ ".".intercalate v.path ++ "` of type `") ++
    v.typeText ++ "` " ++ v.obstacle.message

namespace Transport

/-! ## Types not yet on the path -/

/-- The number of table entries that are not on a path. -/
def fresh (types : TypeTable) (path : List TypeId) : Nat :=
  ((List.range types.size).filter fun i => !(path.map TypeId.index).contains i).length

/-- Putting a new type of the table on the path leaves fewer. -/
theorem fresh_cons_lt {types : TypeTable} {path : List TypeId} {id : TypeId}
    (hin : id.index < types.size) (hnew : id ∉ path) :
    fresh types (id :: path) < fresh types path := by
  have hmem : id.index ∉ path.map TypeId.index := by
    intro h
    obtain ⟨x, hx, he⟩ := List.mem_map.1 h
    exact hnew (TypeId.index_inj.1 he ▸ hx)
  have hsub : ((List.range types.size).filter
      fun i => !((id :: path).map TypeId.index).contains i) =
      (((List.range types.size).filter fun i => !(path.map TypeId.index).contains i).filter
        fun i => decide (i ≠ id.index)) := by
    rw [List.filter_filter]
    apply List.filter_congr
    intro i _
    simp [Bool.not_or]
  unfold fresh
  rw [hsub]
  refine List.length_filter_lt_length_iff_exists.2 ⟨id.index, ?_, by simp⟩
  rw [List.mem_filter]
  exact ⟨List.mem_range.2 hin, by simpa using hmem⟩

/-- A type with a shape other than the unknown one is in the table. -/
theorem index_lt_of_shape {types : TypeTable} (codec : String → Bool) {id : TypeId}
    (h : types.shape codec id ≠ .unknown) : id.index < types.size := by
  rcases Nat.lt_or_ge id.index types.size with hlt | hge
  · exact hlt
  · exfalso
    have hget : types.get? id = none := List.getElem?_eq_none hge
    apply h
    simp [TypeTable.shape, TypeTable.named?, TypeTable.underlyingEntry, TypeTable.underlying,
      TypeTable.underlyingWithin, hget]

/-! ## The walk -/

variable (types : TypeTable) (conventions : Conventions)

/-- The shape of a type under the conventions. -/
def shapeOf (id : TypeId) : Shape := types.shape conventions.encodesItself id

/-- The obstacle that a field is by itself, whatever its type. -/
def fieldObstacle? (f : Field) : Option TransportObstacle :=
  let value := f.tagValue conventions.skipTagKey
  if value = some conventions.skipTagValue then
    some (.skippedByTag conventions.skipTagKey conventions.skipTagValue)
  else if value.all (· == "") && !f.isExported then some .unexported
  else none

/-- The first violation in a type that is reached along `path` through the types `visiting`. -/
def violationFrom? (visiting : List TypeId) (path : List String) (id : TypeId) :
    Option Violation :=
  if _hnew : id ∈ visiting then none
  else match _hshape : shapeOf types conventions id with
    | .basic .unsafePointer => some ⟨path, types.render id, .unsupported .unsafePointer⟩
    | .unsupported kind => some ⟨path, types.render id, .unsupported kind⟩
    | .pointer elem => violationFrom? (id :: visiting) path elem
    | .sequence elem => violationFrom? (id :: visiting) path elem
    | .array elem _ => violationFrom? (id :: visiting) path elem
    | .mapping key value =>
        match violationFrom? (id :: visiting) path key with
        | some v => some v
        | none => violationFrom? (id :: visiting) path value
    | .struct fields =>
        fields.findSome? fun f =>
          match fieldObstacle? conventions f with
          | some obstacle => some ⟨path ++ [f.name], types.render f.ty, obstacle⟩
          | none => violationFrom? (id :: visiting) (path ++ [f.name]) f.ty
    | .basic _ | .interface | .codec | .unknown => none
termination_by fresh types visiting
decreasing_by
  all_goals
    refine fresh_cons_lt (index_lt_of_shape conventions.encodesItself ?_) ‹_›
    rw [← shapeOf, ‹shapeOf types conventions id = _›]
    simp

/-- The first violation in a type, if it cannot be transported. -/
def violation? (id : TypeId) : Option Violation :=
  violationFrom? types conventions [] [] id

/-- Whether every part of a value of the type survives. -/
def isTransportable (id : TypeId) : Bool := (violation? types conventions id).isNone

end Transport

end BindingAudit
