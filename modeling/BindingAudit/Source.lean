/-
# Places in source text

A `Span` is where a node starts in its file; a `Position` is a span together with the file's
name, as messages show it.
-/

namespace BindingAudit

/-- Where a node starts in its file. -/
structure Span where
  line : UInt32
  column : UInt32
  deriving DecidableEq, Repr, Inhabited

/-- The start of a file. -/
def Span.start : Span := ⟨1, 1⟩

/-- A span that points nowhere, used where the place of a declaration is not known. -/
def Span.unknown : Span := ⟨0, 0⟩

/-- A place in a named file. -/
structure Position where
  file : String
  line : UInt32
  column : UInt32
  deriving DecidableEq, Repr, Inhabited

/-- The position of a span in a file. -/
def Span.toPosition (s : Span) (file : String) : Position :=
  ⟨file, s.line, s.column⟩

/-- A position as `file:line:column`. -/
def Position.render (p : Position) : String :=
  p.file ++ ":" ++ toString p.line.toNat ++ ":" ++ toString p.column.toNat

end BindingAudit
