/-
# How deeply snapshots are nested

`levels` counts the containers that are nested in a part of a snapshot when it is written. A record
has one number for each of its fields. A variant with a payload counts for `cost` containers, which
is what tells one dialect from another here: in JSON it is a container like any other, while in
MessagePack it is not counted.

* `Plain` : the values that writing is made of;
* `Nests` : a value is plain, and where variants count as containers, it is nested as deeply as
  `levels` says;
* `Snapshot.nests_toWire` : snapshots are written so.
-/
import Mathlib.Data.List.Forall2
import BindingAudit.Proofs.WireReading

namespace BindingAudit

variable {τ : Type} {d : Dialect τ}

/-! ## Plain values -/

namespace Dialect

/-- A key that writing puts into a table. -/
def IsKey (d : Dialect τ) (k : Wire τ) : Prop :=
  (∃ s, k = d.text s) ∨ ∃ n < UInt32.size, k = d.idKey n

/-- The values that writing is made of. -/
inductive Plain (d : Dialect τ) : Wire τ → Prop where
  | null : Plain d .null
  | flag (b : Bool) : Plain d (.flag b)
  | natural {n : Nat} (h : n < UInt64.size) : Plain d (.natural n)
  | text (s : String) : Plain d (d.text s)
  | list {ws : List (Wire τ)} (h : ∀ w ∈ ws, Plain d w) : Plain d (.list ws)
  | table {es : List (Wire τ × Wire τ)} (hkeys : ∀ e ∈ es, d.IsKey e.1)
      (hvalues : ∀ e ∈ es, Plain d e.2) : Plain d (.table es)

/-- A plain value. Where variants count as containers, `levels` of them are nested in it. -/
structure Nests (d : Dialect τ) (levels : Nat) (w : Wire τ) : Prop where
  plain : d.Plain w
  height : d.choiceCost = 1 → w.height = levels

theorem Faithful.height_of_isKey (hd : d.Faithful) {k : Wire τ} (hk : d.IsKey k) :
    k.height = 0 := by
  rcases hk with ⟨s, rfl⟩ | ⟨n, -, rfl⟩
  · rfl
  · exact hd.height_idKey n

/-! ## Ways of putting values together -/

theorem nests_null : d.Nests 0 .null := ⟨.null, fun _ => rfl⟩

theorem nests_flag (b : Bool) : d.Nests 0 (.flag b) := ⟨.flag b, fun _ => rfl⟩

theorem nests_natural {n : Nat} (h : n < UInt64.size) : d.Nests 0 (.natural n) :=
  ⟨.natural h, fun _ => rfl⟩

theorem nests_text (s : String) : d.Nests 0 (d.text s) := ⟨.text s, fun _ => rfl⟩

/-- A value that may be missing, if it is no container. -/
theorem nests_option {α : Type} {write : α → Wire τ} (h : ∀ a, d.Nests 0 (write a))
    (o : Option α) : d.Nests 0 (option write o) := by
  cases o with
  | none => exact nests_null
  | some a => exact h a

theorem nests_list_nil : d.Nests (enclosing []) (.list []) :=
  ⟨.list (by simp), fun _ => rfl⟩

theorem nests_list_cons {w : Wire τ} {ws : List (Wire τ)} {n : Nat} {parts : List Nat}
    (hw : d.Nests n w) (hws : d.Nests (enclosing parts) (.list ws)) :
    d.Nests (enclosing (n :: parts)) (.list (w :: ws)) := by
  refine ⟨?_, fun hcost => ?_⟩
  · cases hws.plain with
    | list h => exact .list (List.forall_mem_cons.2 ⟨hw.plain, h⟩)
  · have hrest := hws.height hcost
    rw [Wire.height] at hrest ⊢
    rw [enclosing_cons, ← hrest, Wire.heightList, hw.height hcost]
    omega

/-- A list, given the levels of each of its items. -/
theorem nests_list {α : Type} {write : α → Wire τ} {levels : α → Nat}
    (h : ∀ x, d.Nests (levels x) (write x)) (xs : List α) :
    d.Nests (enclosing (xs.map levels)) (.list (xs.map write)) := by
  induction xs with
  | nil => exact nests_list_nil
  | cons x xs ih => exact nests_list_cons (h x) ih

/-- A table, given the levels of each of its values. -/
theorem Faithful.nests_table (hd : d.Faithful) {es : List (Wire τ × Wire τ)} {parts : List Nat}
    (h : List.Forall₂ (fun e n => d.IsKey e.1 ∧ d.Nests n e.2) es parts) :
    d.Nests (enclosing parts) (.table es) := by
  induction h with
  | nil => exact ⟨.table (by simp) (by simp), fun _ => rfl⟩
  | cons hentry _ ih =>
    obtain ⟨hkey, hvalue⟩ := hentry
    refine ⟨?_, fun hcost => ?_⟩
    · cases ih.plain with
      | table hkeys hvalues =>
        exact .table (List.forall_mem_cons.2 ⟨hkey, hkeys⟩)
          (List.forall_mem_cons.2 ⟨hvalue.plain, hvalues⟩)
    · have hes := ih.height hcost
      have hv := hvalue.height hcost
      rw [Wire.height] at hes ⊢
      rw [enclosing_cons, ← hes, Wire.heightTable, hd.height_of_isKey hkey, hv]
      omega

/-- A record, given the levels of each of its fields. -/
theorem Faithful.nests_record (hd : d.Faithful) {fields : List (String × Wire τ)} {parts : List Nat}
    (h : List.Forall₂ (fun f n => d.Nests n f.2) fields parts) :
    d.Nests (enclosing parts) (d.record fields) := by
  refine hd.nests_table (List.forall₂_map_left_iff.2 ?_)
  exact h.imp fun f n hf => ⟨.inl ⟨f.1, rfl⟩, hf⟩

/-- A table with texts as keys. -/
theorem Faithful.nests_nameTable (hd : d.Faithful) {ν : Type} {write : ν → Wire τ} {levels : ν → Nat}
    (h : ∀ v, d.Nests (levels v) (write v)) (m : FinMap String ν) :
    d.Nests (enclosing (m.entries.map fun e => levels e.2)) (d.nameTable write m) := by
  refine hd.nests_table (List.forall₂_map_left_iff.2 (List.forall₂_map_right_iff.2 ?_))
  exact List.forall₂_same.2 fun e _ => ⟨.inl ⟨e.1, rfl⟩, h e.2⟩

/-- A table with the numbers of expressions as keys. -/
theorem Faithful.nests_idTable (hd : d.Faithful) {ν : Type} {write : ν → Wire τ} {levels : ν → Nat}
    (h : ∀ v, d.Nests (levels v) (write v)) (m : FinMap ExprId ν) :
    d.Nests (enclosing (m.entries.map fun e => levels e.2)) (d.idTable ExprId.index write m) := by
  refine hd.nests_table (List.forall₂_map_left_iff.2 (List.forall₂_map_right_iff.2 ?_))
  exact List.forall₂_same.2 fun e _ => ⟨.inr ⟨e.1.index, e.1.raw.toNat_lt_size, rfl⟩, h e.2⟩

/-- A variant, given the levels of its payload. -/
theorem Faithful.nests_variant (hd : d.Faithful) {payload : Wire τ} {levels : Nat}
    (h : d.Nests levels payload) (name : String) :
    d.Nests (d.choiceCost + levels) (d.variant name payload) := by
  have htable : d.Nests (enclosing [levels]) (.table [(d.text name, payload)]) :=
    hd.nests_table (.cons ⟨.inl ⟨name, rfl⟩, h⟩ .nil)
  refine ⟨htable.plain, fun hcost => ?_⟩
  rw [variant, htable.height hcost, hcost, enclosing, List.foldr_cons, List.foldr_nil]
  omega

end Dialect

open Dialect

/-! ## Identifiers and places -/

theorem nests_word32 (n : UInt32) : d.Nests 0 (word32 n) :=
  nests_natural (Nat.lt_trans n.toNat_lt_size (by decide))

theorem TypeId.nests_toWire (id : TypeId) : d.Nests 0 id.toWire := nests_word32 id.raw

theorem DeclId.nests_toWire (id : DeclId) : d.Nests 0 id.toWire := nests_word32 id.raw

theorem ExprId.nests_toWire (id : ExprId) : d.Nests 0 id.toWire := nests_word32 id.raw

theorem ScopeId.nests_toWire (id : ScopeId) : d.Nests 0 id.toWire := nests_word32 id.raw

/-- The levels of a span. -/
def Span.levels (_ : Span) : Nat := enclosing [0, 0]

theorem Span.nests_toWire (hd : d.Faithful) (s : Span) : d.Nests s.levels (s.toWire d) :=
  hd.nests_record (.cons (nests_word32 _) (.cons (nests_word32 _) .nil))

/-! ## Types and declarations -/

/-- The levels of a field. -/
def Field.levels (_ : Field) : Nat := enclosing [0, 0, 0, 0]

theorem Field.nests_toWire (hd : d.Faithful) (f : Field) : d.Nests f.levels (f.toWire d) :=
  hd.nests_record (.cons (nests_text _) (.cons f.ty.nests_toWire
    (.cons (nests_option nests_text _) (.cons (nests_flag _) .nil))))

/-- The levels of a method. -/
def Method.levels (_ : Method) : Nat := enclosing [0, 0, 0]

theorem Method.nests_toWire (hd : d.Faithful) (m : Method) : d.Nests m.levels (m.toWire d) :=
  hd.nests_record (.cons (nests_text _) (.cons (nests_flag _)
    (.cons (nests_option DeclId.nests_toWire _) .nil)))

/-- The levels of a named type. -/
def NamedType.levels (n : NamedType) : Nat :=
  enclosing [0, 0, 0, enclosing (n.methods.map Method.levels)]

theorem NamedType.nests_toWire (hd : d.Faithful) (n : NamedType) :
    d.Nests n.levels (n.toWire d) :=
  hd.nests_record (.cons (nests_text _) (.cons (nests_text _)
    (.cons (nests_option TypeId.nests_toWire _)
      (.cons (nests_list (Method.nests_toWire hd) _) .nil))))

/-- The levels of a list of scalars. -/
def scalarListLevels {α : Type} (xs : List α) : Nat := enclosing (xs.map fun _ => 0)

/-- The levels of a signature. -/
def Signature.levels (s : Signature) : Nat :=
  enclosing [scalarListLevels s.params, scalarListLevels s.results, 0]

theorem Signature.nests_toWire (hd : d.Faithful) (s : Signature) :
    d.Nests s.levels (s.toWire d) :=
  hd.nests_record (.cons (nests_list TypeId.nests_toWire _)
    (.cons (nests_list TypeId.nests_toWire _) (.cons (nests_flag _) .nil)))

/-- The levels of an entry of a type table. -/
def TypeKind.levels (cost : Nat) : TypeKind → Nat
  | .basic _ | .pointer _ | .slice _ | .chan _ => cost
  | .named n => cost + n.levels
  | .array _ _ | .map _ _ => cost + enclosing [0, 0]
  | .struct fields => cost + enclosing (fields.map Field.levels)
  | .interface methods => cost + scalarListLevels methods
  | .signature s => cost + s.levels

theorem TypeKind.nests_toWire (hd : d.Faithful) (k : TypeKind) :
    d.Nests (k.levels d.choiceCost) (k.toWire d) := by
  cases k with
  | basic b => exact hd.nests_variant (nests_text _) _
  | named n => exact hd.nests_variant (n.nests_toWire hd) _
  | pointer elem => exact hd.nests_variant elem.nests_toWire _
  | slice elem => exact hd.nests_variant elem.nests_toWire _
  | array elem len =>
    refine hd.nests_variant (hd.nests_record (.cons elem.nests_toWire (.cons ?_ .nil))) _
    exact nests_natural len.toNat_lt_size
  | map key value =>
    exact hd.nests_variant
      (hd.nests_record (.cons key.nests_toWire (.cons value.nests_toWire .nil))) _
  | struct fields => exact hd.nests_variant (nests_list (Field.nests_toWire hd) _) _
  | interface methods => exact hd.nests_variant (nests_list nests_text _) _
  | signature s => exact hd.nests_variant (s.nests_toWire hd) _
  | chan elem => exact hd.nests_variant elem.nests_toWire _

/-- The levels of a type table. -/
def TypeTable.levels (cost : Nat) (t : TypeTable) : Nat :=
  enclosing [enclosing (t.kinds.map (TypeKind.levels cost))]

theorem TypeTable.nests_toWire (hd : d.Faithful) (t : TypeTable) :
    d.Nests (t.levels d.choiceCost) (t.toWire d) :=
  hd.nests_record (.cons (nests_list (TypeKind.nests_toWire hd) _) .nil)

/-- The levels of a declaration. -/
def Declaration.levels (x : Declaration) : Nat :=
  enclosing [0, 0, 0, 0, x.signature.levels, 0, x.span.levels]

theorem Declaration.nests_toWire (hd : d.Faithful) (x : Declaration) :
    d.Nests x.levels (x.toWire d) :=
  hd.nests_record (.cons x.id.nests_toWire (.cons (nests_text _) (.cons (nests_text _)
    (.cons (nests_option TypeId.nests_toWire _) (.cons (x.signature.nests_toWire hd)
      (.cons x.ty.nests_toWire (.cons (x.span.nests_toWire hd) .nil)))))))

/-- The levels of the definitions of a program. -/
def Definitions.levels (cost : Nat) (x : Definitions) : Nat :=
  enclosing [x.types.levels cost, enclosing (x.decls.map Declaration.levels)]

theorem Definitions.nests_toWire (hd : d.Faithful) (x : Definitions) :
    d.Nests (x.levels d.choiceCost) (x.toWire d) :=
  hd.nests_record (.cons (x.types.nests_toWire hd)
    (.cons (nests_list (Declaration.nests_toWire hd) _) .nil))

/-! ## Scopes -/

/-- The levels of an object. -/
def Object.levels (cost : Nat) : Object → Nat
  | .func _ | .typeName _ => cost
  | .var _ _ | .module _ _ => cost + enclosing [0, 0]

theorem Object.nests_toWire (hd : d.Faithful) (o : Object) :
    d.Nests (o.levels d.choiceCost) (o.toWire d) := by
  cases o with
  | func decl => exact hd.nests_variant decl.nests_toWire _
  | var name ty =>
    exact hd.nests_variant (hd.nests_record (.cons (nests_text _) (.cons ty.nests_toWire .nil))) _
  | module name path =>
    exact hd.nests_variant (hd.nests_record (.cons (nests_text _) (.cons (nests_text _) .nil))) _
  | typeName ty => exact hd.nests_variant ty.nests_toWire _

/-- The levels of a scope. -/
def Scope.levels (cost : Nat) (s : Scope) : Nat :=
  enclosing [0, enclosing (s.names.entries.map fun e => e.2.levels cost)]

theorem Scope.nests_toWire (hd : d.Faithful) (s : Scope) :
    d.Nests (s.levels d.choiceCost) (s.toWire d) :=
  hd.nests_record (.cons (nests_option ScopeId.nests_toWire _)
    (.cons (hd.nests_nameTable (Object.nests_toWire hd) _) .nil))

/-- The levels of a scope tree. -/
def ScopeTree.levels (cost : Nat) (t : ScopeTree) : Nat :=
  enclosing [enclosing (t.scopes.map (Scope.levels cost))]

theorem ScopeTree.nests_toWire (hd : d.Faithful) (t : ScopeTree) :
    d.Nests (t.levels d.choiceCost) (t.toWire d) :=
  hd.nests_record (.cons (nests_list (Scope.nests_toWire hd) _) .nil)

/-! ## Syntax trees -/

/-- The levels of an expression, given its node and those of its kind. -/
def Node.levels (n : Node) (kind : Nat) : Nat := enclosing [0, n.span.levels, kind]

theorem Node.nests_toWire (hd : d.Faithful) (n : Node) {levels : Nat} {kind : Wire τ}
    (h : d.Nests levels kind) : d.Nests (n.levels levels) (n.toWire d kind) :=
  hd.nests_record (.cons n.id.nests_toWire (.cons (n.span.nests_toWire hd) (.cons h .nil)))

mutual

/-- The levels of an expression. -/
def Expr.levels (cost : Nat) : Expr → Nat
  | .ident n _ => n.levels cost
  | .selector n base selected =>
      n.levels (cost + enclosing [base.levels cost, selected.levels cost])
  | .call n callee args _ =>
      n.levels (cost + enclosing [callee.levels cost, enclosing (exprLevels cost args), 0])
  | .literal n _ _ => n.levels (cost + enclosing [0, 0])
  | .composite n type elements =>
      n.levels (cost + enclosing [optionLevels cost type, enclosing (elementLevels cost elements)])
  | .unary n _ operand => n.levels (cost + enclosing [0, operand.levels cost])
  | .star n inner => n.levels (cost + inner.levels cost)
  | .paren n inner => n.levels (cost + inner.levels cost)
  | .closure n body => n.levels (cost + enclosing (stmtLevels cost body))

/-- The levels of an expression that may be missing. -/
def optionLevels (cost : Nat) : Option Expr → Nat
  | none => 0
  | some e => e.levels cost

/-- The levels of each expression of a list. -/
def exprLevels (cost : Nat) : List Expr → List Nat
  | [] => []
  | e :: es => e.levels cost :: exprLevels cost es

/-- The levels of an element of a composite literal. -/
def Element.levels (cost : Nat) : Element → Nat
  | .mk key value => enclosing [optionLevels cost key, value.levels cost]

/-- The levels of each element of a list. -/
def elementLevels (cost : Nat) : List Element → List Nat
  | [] => []
  | e :: es => e.levels cost :: elementLevels cost es

/-- The levels of a statement. -/
def Stmt.levels (cost : Nat) : Stmt → Nat
  | .expr e => cost + e.levels cost
  | .assign lhs rhs =>
      cost + enclosing [enclosing (exprLevels cost lhs), enclosing (exprLevels cost rhs)]
  | .ret values => cost + enclosing (exprLevels cost values)
  | .block body => cost + enclosing (stmtLevels cost body)
  | .cond test thenBody elseBody =>
      cost + enclosing [test.levels cost, enclosing (stmtLevels cost thenBody),
        enclosing (stmtLevels cost elseBody)]

/-- The levels of each statement of a list. -/
def stmtLevels (cost : Nat) : List Stmt → List Nat
  | [] => []
  | s :: ss => s.levels cost :: stmtLevels cost ss

end

theorem exprLevels_eq_map (cost : Nat) (es : List Expr) :
    exprLevels cost es = es.map (Expr.levels cost) := by
  induction es with
  | nil => rfl
  | cons e es ih => rw [exprLevels, ih, List.map_cons]

theorem elementLevels_eq_map (cost : Nat) (es : List Element) :
    elementLevels cost es = es.map (Element.levels cost) := by
  induction es with
  | nil => rfl
  | cons e es ih => rw [elementLevels, ih, List.map_cons]

theorem stmtLevels_eq_map (cost : Nat) (ss : List Stmt) :
    stmtLevels cost ss = ss.map (Stmt.levels cost) := by
  induction ss with
  | nil => rfl
  | cons s ss ih => rw [stmtLevels, ih, List.map_cons]

mutual

theorem Expr.nests_toWire (hd : d.Faithful) :
    (e : Expr) → d.Nests (e.levels d.choiceCost) (e.toWire d)
  | .ident n _ => n.nests_toWire hd (hd.nests_variant (nests_text _) _)
  | .selector n base selected =>
      n.nests_toWire hd (hd.nests_variant (hd.nests_record
        (.cons (base.nests_toWire hd) (.cons (selected.nests_toWire hd) .nil))) _)
  | .call n callee args _ =>
      n.nests_toWire hd (hd.nests_variant (hd.nests_record
        (.cons (callee.nests_toWire hd) (.cons (nests_wireExprs hd args)
          (.cons (nests_flag _) .nil)))) _)
  | .literal n _ _ =>
      n.nests_toWire hd (hd.nests_variant (hd.nests_record
        (.cons (nests_text _) (.cons (nests_text _) .nil))) _)
  | .composite n type elements =>
      n.nests_toWire hd (hd.nests_variant (hd.nests_record
        (.cons (nests_wireOption hd type) (.cons (nests_wireElements hd elements) .nil))) _)
  | .unary n _ operand =>
      n.nests_toWire hd (hd.nests_variant (hd.nests_record
        (.cons (nests_text _) (.cons (operand.nests_toWire hd) .nil))) _)
  | .star n inner => n.nests_toWire hd (hd.nests_variant (inner.nests_toWire hd) _)
  | .paren n inner => n.nests_toWire hd (hd.nests_variant (inner.nests_toWire hd) _)
  | .closure n body => n.nests_toWire hd (hd.nests_variant (nests_wireStmts hd body) _)

theorem nests_wireOption (hd : d.Faithful) :
    (o : Option Expr) → d.Nests (optionLevels d.choiceCost o) (wireOption d o)
  | none => nests_null
  | some e => e.nests_toWire hd

theorem nests_wireExprs (hd : d.Faithful) :
    (es : List Expr) → d.Nests (enclosing (exprLevels d.choiceCost es)) (.list (wireExprs d es))
  | [] => nests_list_nil
  | e :: es => nests_list_cons (e.nests_toWire hd) (nests_wireExprs hd es)

theorem Element.nests_toWire (hd : d.Faithful) :
    (e : Element) → d.Nests (e.levels d.choiceCost) (e.toWire d)
  | .mk key value =>
      hd.nests_record (.cons (nests_wireOption hd key) (.cons (value.nests_toWire hd) .nil))

theorem nests_wireElements (hd : d.Faithful) :
    (es : List Element) →
      d.Nests (enclosing (elementLevels d.choiceCost es)) (.list (wireElements d es))
  | [] => nests_list_nil
  | e :: es => nests_list_cons (e.nests_toWire hd) (nests_wireElements hd es)

theorem Stmt.nests_toWire (hd : d.Faithful) :
    (s : Stmt) → d.Nests (s.levels d.choiceCost) (s.toWire d)
  | .expr e => hd.nests_variant (e.nests_toWire hd) _
  | .assign lhs rhs =>
      hd.nests_variant (hd.nests_record
        (.cons (nests_wireExprs hd lhs) (.cons (nests_wireExprs hd rhs) .nil))) _
  | .ret values => hd.nests_variant (nests_wireExprs hd values) _
  | .block body => hd.nests_variant (nests_wireStmts hd body) _
  | .cond test thenBody elseBody =>
      hd.nests_variant (hd.nests_record (.cons (test.nests_toWire hd)
        (.cons (nests_wireStmts hd thenBody) (.cons (nests_wireStmts hd elseBody) .nil)))) _

theorem nests_wireStmts (hd : d.Faithful) :
    (ss : List Stmt) → d.Nests (enclosing (stmtLevels d.choiceCost ss)) (.list (wireStmts d ss))
  | [] => nests_list_nil
  | s :: ss => nests_list_cons (s.nests_toWire hd) (nests_wireStmts hd ss)

end

/-! ## Files, units and snapshots -/

/-- The levels of an import. -/
def Import.levels (i : Import) : Nat := enclosing [0, 0, i.span.levels]

theorem Import.nests_toWire (hd : d.Faithful) (i : Import) : d.Nests i.levels (i.toWire d) :=
  hd.nests_record (.cons (nests_option nests_text _) (.cons (nests_text _)
    (.cons (i.span.nests_toWire hd) .nil)))

/-- The levels of a function. -/
def FunctionDef.levels (cost : Nat) (f : FunctionDef) : Nat :=
  enclosing [0, 0, enclosing (f.body.map (Stmt.levels cost)), f.span.levels]

theorem FunctionDef.nests_toWire (hd : d.Faithful) (f : FunctionDef) :
    d.Nests (f.levels d.choiceCost) (f.toWire d) := by
  have hbody := nests_wireStmts hd f.body
  rw [stmtLevels_eq_map] at hbody
  exact hd.nests_record (.cons (nests_text _) (.cons (nests_option DeclId.nests_toWire _)
    (.cons hbody (.cons (f.span.nests_toWire hd) .nil))))

/-- The levels of a file. -/
def SourceFile.levels (cost : Nat) (f : SourceFile) : Nat :=
  enclosing [0, enclosing (f.imports.map Import.levels),
    enclosing (f.functions.map (FunctionDef.levels cost))]

theorem SourceFile.nests_toWire (hd : d.Faithful) (f : SourceFile) :
    d.Nests (f.levels d.choiceCost) (f.toWire d) :=
  hd.nests_record (.cons (nests_text _) (.cons (nests_list (Import.nests_toWire hd) _)
    (.cons (nests_list (FunctionDef.nests_toWire hd) _) .nil)))

/-- The levels of what is known about expressions. -/
def Annotations.levels (cost : Nat) (i : Annotations) : Nat :=
  enclosing [scalarListLevels i.types.entries,
    enclosing (i.uses.entries.map fun e => e.2.levels cost), scalarListLevels i.scopes.entries]

theorem Annotations.nests_toWire (hd : d.Faithful) (i : Annotations) :
    d.Nests (i.levels d.choiceCost) (i.toWire d) :=
  hd.nests_record (.cons (hd.nests_idTable TypeId.nests_toWire _)
    (.cons (hd.nests_idTable (Object.nests_toWire hd) _)
      (.cons (hd.nests_idTable ScopeId.nests_toWire _) .nil)))

/-- The levels of a unit. -/
def CompilationUnit.levels (cost : Nat) (u : CompilationUnit) : Nat :=
  enclosing [0, enclosing (u.files.map (SourceFile.levels cost)), u.info.levels cost,
    u.scopes.levels cost, scalarListLevels u.dependencies]

theorem CompilationUnit.nests_toWire (hd : d.Faithful) (u : CompilationUnit) :
    d.Nests (u.levels d.choiceCost) (u.toWire d) :=
  hd.nests_record (.cons (nests_text _) (.cons (nests_list (SourceFile.nests_toWire hd) _)
    (.cons (u.info.nests_toWire hd) (.cons (u.scopes.nests_toWire hd)
      (.cons (nests_list nests_text _) .nil)))))

/-- The levels of a snapshot. -/
def Snapshot.levels (cost : Nat) (s : Snapshot) : Nat :=
  enclosing [s.defs.levels cost, enclosing (s.units.map (CompilationUnit.levels cost))]

/-- **Snapshots are written as plain values**, nested as deeply as their levels say. -/
theorem Snapshot.nests_toWire (hd : d.Faithful) (s : Snapshot) :
    d.Nests (s.levels d.choiceCost) (s.toWire d) :=
  hd.nests_record (.cons (s.defs.nests_toWire hd)
    (.cons (nests_list (CompilationUnit.nests_toWire hd) _) .nil))

end BindingAudit
