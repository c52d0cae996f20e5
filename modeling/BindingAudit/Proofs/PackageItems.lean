/-
# The items of a package

The items of a package are its functions, methods apart, and its named types. The scope of the
package binds them, and they are what can be selected from an import of the package. No item is a
module.

* `Definitions.packageItems` : the items of all packages;
* `Draft.mem_packageBindings_iff` : the scope of a package binds the items of the package;
* `Draft.mem_of_moduleMember?` : what is selected from a package is an item of it.
-/
import Mathlib.Tactic.Tauto
import BindingAudit.Program.Draft

namespace BindingAudit

/-- What is made of the named types among the entries of a table. -/
theorem mem_filterMap_named_iff {α : Type} {entries : List (TypeId × TypeKind)}
    {f : TypeId → NamedType → Option α} {x : α} :
    x ∈ entries.filterMap (fun (id, kind) =>
        match kind with
        | .named n => f id n
        | _ => none) ↔
      ∃ id n, (id, TypeKind.named n) ∈ entries ∧ f id n = some x := by
  rw [List.mem_filterMap]
  constructor
  · rintro ⟨⟨id, kind⟩, hentry, hkind⟩
    dsimp only at hkind
    split at hkind
    · rename_i n
      exact ⟨id, n, hentry, hkind⟩
    · cases hkind
  · rintro ⟨id, n, hentry, hx⟩
    exact ⟨(id, .named n), hentry, hx⟩

namespace Definitions

/-- The items of all packages, each under its module and name: the functions that are no methods,
then the named types. -/
def packageItems (defs : Definitions) : List ((String × String) × Object) :=
  let funcs := defs.decls.filter fun d => !d.isMethod
  let types := defs.types.entries.filterMap fun (id, kind) =>
    match kind with
    | .named n => some ((n.module, n.name), .typeName id)
    | _ => none
  funcs.map (fun d => ((d.module, d.name), .func d.id)) ++ types

variable {defs : Definitions} {module name : String} {object : Object}

theorem mem_packageItems_iff :
    ((module, name), object) ∈ defs.packageItems ↔
      (∃ d ∈ defs.decls, d.isMethod = false ∧ d.module = module ∧ d.name = name ∧
        .func d.id = object) ∨
      ∃ id n, (id, TypeKind.named n) ∈ defs.types.entries ∧ n.module = module ∧ n.name = name ∧
        .typeName id = object := by
  unfold packageItems
  rw [List.mem_append]
  refine or_congr ?_ (Iff.trans (mem_filterMap_named_iff
    (f := fun id n => some ((n.module, n.name), Object.typeName id))) ?_)
  · simp [and_assoc]
  · simp [and_assoc]

/-- Items are functions and types, and no modules. -/
theorem modulePath?_of_mem_packageItems (h : ((module, name), object) ∈ defs.packageItems) :
    object.modulePath? = none := by
  obtain ⟨d, -, -, -, -, rfl⟩ | ⟨id, n, -, -, -, rfl⟩ := mem_packageItems_iff.1 h
  · rfl
  · rfl

end Definitions

namespace Draft

variable {defs : Definitions} {module name : String} {object : Object}

/-- The scope of a package is filled with the items of its module. -/
theorem mem_packageBindings_iff :
    (name, object) ∈ packageBindings defs module ↔
      ((module, name), object) ∈ defs.packageItems := by
  unfold packageBindings
  rw [Definitions.mem_packageItems_iff, List.mem_append]
  refine or_congr ?_ (Iff.trans (mem_filterMap_named_iff
    (f := fun id n => if n.module == module then some (n.name, Object.typeName id) else none)) ?_)
  · simp only [List.mem_map, List.mem_filter, Bool.and_eq_true, beq_iff_eq, Bool.not_eq_true',
      Prod.mk.injEq]
    tauto
  · simp

/-- What is selected from a module is an item of its package. -/
theorem mem_of_moduleMember? (hfound : moduleMember? defs module name = some object) :
    ((module, name), object) ∈ defs.packageItems := by
  rw [Definitions.mem_packageItems_iff]
  unfold moduleMember? at hfound
  split at hfound
  · rename_i d hd
    cases hfound
    have hcond := List.find?_some hd
    simp only [Bool.and_eq_true, beq_iff_eq, Bool.not_eq_true'] at hcond
    exact .inl ⟨d, List.mem_of_find?_eq_some hd, hcond.2, hcond.1.1, hcond.1.2, rfl⟩
  · obtain ⟨⟨id, kind⟩, hentry, hkind⟩ := List.exists_of_findSome?_eq_some hfound
    dsimp only at hkind
    split at hkind
    · rename_i n
      simp only [Bool.and_eq_true, beq_iff_eq, Option.ite_none_right_eq_some,
        Option.some.injEq] at hkind
      exact .inr ⟨id, n, hentry, hkind.1.1, hkind.1.2, hkind.2⟩
    · cases hkind

end Draft

end BindingAudit
