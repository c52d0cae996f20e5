/-
# Identity of types

Named types are identical only to themselves; all other types are compared part by part. The
comparison gives up below a fixed depth, because a table from outside may be circular there.
-/
import BindingAudit.Program.TypeTable

namespace BindingAudit

/-- The deepest level of unnamed types that comparison and rendering look at. -/
def structureLimit : Nat := 64

namespace TypeKind

/-- Whether two fields agree, given how their types are compared. -/
def fieldsAlike (same : TypeId → TypeId → Bool) (f g : Field) : Bool :=
  f.name == g.name && f.embedded == g.embedded && f.tag == g.tag && same f.ty g.ty

/-- Whether two lists have equal length and agree place by place. -/
def allAlike {α : Type} (same : α → α → Bool) (xs ys : List α) : Bool :=
  xs.length == ys.length && (xs.zip ys).all fun (x, y) => same x y

/-- Whether two kinds are the same unnamed kind with parts that agree. The order in which an
interface lists its methods does not matter. -/
def alike (same : TypeId → TypeId → Bool) : TypeKind → TypeKind → Bool
  | .basic x, .basic y => x == y
  | .pointer x, .pointer y => same x y
  | .slice x, .slice y => same x y
  | .chan x, .chan y => same x y
  | .array x m, .array y n => m == n && same x y
  | .map k v, .map l w => same k l && same v w
  | .struct fs, .struct gs => allAlike (fieldsAlike same) fs gs
  | .interface ms, .interface ns => ms.isPerm ns
  | .signature s, .signature r =>
      s.variadic == r.variadic && allAlike same s.params r.params &&
        allAlike same s.results r.results
  | _, _ => false

end TypeKind

namespace TypeTable

/-- Identity as far as `levels` levels of unnamed types can show it. -/
def identicalWithin (t : TypeTable) : Nat → TypeId → TypeId → Bool
  | 0, a, b => a == b
  | levels + 1, a, b =>
      a == b ||
        match t.get? a, t.get? b with
        | some x, some y => x.alike (t.identicalWithin levels) y
        | _, _ => false

/-- Whether two types are identical. -/
def identical (t : TypeTable) (a b : TypeId) : Bool :=
  t.identicalWithin (structureLimit + 1) a b

end TypeTable

end BindingAudit
