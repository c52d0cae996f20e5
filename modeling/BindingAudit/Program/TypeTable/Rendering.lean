/-
# Types in source syntax

Messages show types in the syntax of the analyzed language. A named type is shown by its name,
so only circles through unnamed types have to be cut, which an ellipsis marks.
-/
import BindingAudit.Program.TypeTable.Identity
import BindingAudit.Text.Quoted

namespace BindingAudit.TypeTable

/-- A type in source syntax, with `levels` levels of unnamed types written out. -/
def renderWithin (t : TypeTable) : Nat → TypeId → String
  | 0, _ => "..."
  | levels + 1, id =>
      match t.get? id with
      | none => "invalid type"
      | some (.basic b) => b.name
      | some (.named n) => n.qualifiedName
      | some (.pointer elem) => "*" ++ t.renderWithin levels elem
      | some (.slice elem) => "[]" ++ t.renderWithin levels elem
      | some (.array elem len) =>
          "[" ++ toString len.toNat ++ "]" ++ t.renderWithin levels elem
      | some (.map key value) =>
          "map[" ++ t.renderWithin levels key ++ "]" ++ t.renderWithin levels value
      | some (.chan elem) => "chan " ++ t.renderWithin levels elem
      | some (.struct fields) =>
          let shown := fields.map fun f =>
            (if f.embedded then "" else f.name ++ " ") ++ t.renderWithin levels f.ty ++
              match f.tag with
              | some tag => " " ++ Text.quoted tag
              | none => ""
          "struct" ++ Text.braced ("; ".intercalate shown)
      | some (.interface methods) =>
          "interface" ++ Text.braced ("; ".intercalate (methods.map (· ++ "()")))
      | some (.signature sig) =>
          let last := sig.params.length - 1
          let params := sig.params.mapIdx fun i param =>
            match (if sig.variadic && i == last then t.sliceElement param else none) with
            | some elem => "..." ++ t.renderWithin levels elem
            | none => t.renderWithin levels param
          let results := sig.results.map (t.renderWithin levels)
          "func(" ++ ", ".intercalate params ++ ")" ++
            match results with
            | [] => ""
            | [single] => " " ++ single
            | many => " (" ++ ", ".intercalate many ++ ")"

/-- A type in source syntax. -/
def render (t : TypeTable) (id : TypeId) : String :=
  t.renderWithin (structureLimit + 1) id

end BindingAudit.TypeTable
