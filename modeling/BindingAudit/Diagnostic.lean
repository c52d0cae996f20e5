/-
# Diagnostics

A diagnostic is a position, a category and a finished message. Every category but `trace`
describes a problem of the analyzed program.
-/
import BindingAudit.Source

namespace BindingAudit

/-- What a diagnostic is about. -/
inductive Category where
  /-- Wrong number of arguments for the resolved declaration. -/
  | argumentCount
  /-- An argument whose type does not fit the declared parameter. -/
  | argumentType
  /-- An argument that cannot cross the serialization boundary intact. -/
  | serialization
  /-- An invocation whose callee cannot be resolved. -/
  | unresolved
  /-- An invocation or a callee that does not follow its own grammar. -/
  | malformed
  /-- Trace output, produced on demand only. -/
  | trace
  deriving DecidableEq, Repr, Inhabited

namespace Category

/-- All categories. -/
def all : List Category :=
  [argumentCount, argumentType, serialization, unresolved, malformed, trace]

/-- Whether the category describes a problem of the analyzed program. -/
def isFinding : Category → Bool
  | trace => false
  | _ => true

/-- The short stable name. -/
def slug : Category → String
  | argumentCount => "argument-count"
  | argumentType => "argument-type"
  | serialization => "serialization"
  | unresolved => "unresolved"
  | malformed => "malformed"
  | trace => "trace"

/-- The name that stands for the category in machine-readable output. -/
def tag : Category → String
  | argumentCount => "ArgumentCount"
  | argumentType => "ArgumentType"
  | serialization => "Serialization"
  | unresolved => "Unresolved"
  | malformed => "Malformed"
  | trace => "Trace"

end Category

/-- One message about one place. -/
structure Diagnostic where
  position : Position
  category : Category
  message : String
  deriving DecidableEq, Repr, Inhabited

/-- Whether the diagnostic describes a problem of the analyzed program. -/
def Diagnostic.isFinding (d : Diagnostic) : Bool :=
  d.category.isFinding

/-- A diagnostic as one line of text. -/
def Diagnostic.render (d : Diagnostic) : String :=
  d.position.render ++ ": " ++ d.message

end BindingAudit
