/-
# Reading snapshots back

Every part of a snapshot is read back from the value that it is written as if there is room for its
levels, and refused otherwise. So a snapshot comes back from a document exactly if the document is
not nested more deeply than the dialect allows.

* `Snapshot.ofWire?_toWire` : the main statement.
-/
import Mathlib.Logic.Basic
import BindingAudit.Proofs.Nesting

namespace BindingAudit

open Dialect

variable {τ : Type} {d : Dialect τ}

/-! ## Identifiers and places -/

@[simp] theorem word32?_word32 (n : UInt32) : (word32 n : Wire τ).word32? = some n := by
  simp [Wire.word32?, Wire.natural?, word32, n.toNat_lt_size]

@[simp] theorem flag?_flag (b : Bool) : (Wire.flag b : Wire τ).flag? = some b := rfl

@[simp] theorem word64?_natural (n : UInt64) :
    (Wire.natural n.toNat : Wire τ).word64? = some n := by
  simp [Wire.word64?, Wire.natural?, n.toNat_lt_size]

@[simp] theorem TypeId.ofWire?_toWire (id : TypeId) (room : Nat) :
    TypeId.ofWire? room (id.toWire : Wire τ) = some id := by
  simp [TypeId.ofWire?, TypeId.toWire]

@[simp] theorem DeclId.ofWire?_toWire (id : DeclId) (room : Nat) :
    DeclId.ofWire? room (id.toWire : Wire τ) = some id := by
  simp [DeclId.ofWire?, DeclId.toWire]

@[simp] theorem ExprId.ofWire?_toWire (id : ExprId) (room : Nat) :
    ExprId.ofWire? room (id.toWire : Wire τ) = some id := by
  simp [ExprId.ofWire?, ExprId.toWire]

@[simp] theorem ScopeId.ofWire?_toWire (id : ScopeId) (room : Nat) :
    ScopeId.ofWire? room (id.toWire : Wire τ) = some id := by
  simp [ScopeId.ofWire?, ScopeId.toWire]

theorem readText_text (hd : d.Faithful) (s : String) (room : Nat) :
    readText d room (d.text s) = some s :=
  hd.text?_text s

@[simp] theorem optionalField?_typeId (o : Option TypeId) (room : Nat) :
    optionalField? TypeId.ofWire? room (some (option (TypeId.toWire : TypeId → Wire τ) o)) =
      some o :=
  optionalField?_option (by simp [TypeId.toWire, word32]) (fun id => id.ofWire?_toWire room) o

@[simp] theorem optionalField?_declId (o : Option DeclId) (room : Nat) :
    optionalField? DeclId.ofWire? room (some (option (DeclId.toWire : DeclId → Wire τ) o)) =
      some o :=
  optionalField?_option (by simp [DeclId.toWire, word32]) (fun id => id.ofWire?_toWire room) o

@[simp] theorem optionalField?_scopeId (o : Option ScopeId) (room : Nat) :
    optionalField? ScopeId.ofWire? room (some (option (ScopeId.toWire : ScopeId → Wire τ) o)) =
      some o :=
  optionalField?_option (by simp [ScopeId.toWire, word32]) (fun id => id.ofWire?_toWire room) o

theorem optionalField?_text (hd : d.Faithful) (o : Option String) (room : Nat) :
    optionalField? (readText d) room (some (option d.text o)) = some o :=
  optionalField?_option (by simp [text]) (fun s => readText_text hd s room) o

/-- A list of scalars comes back. -/
theorem many?_scalars {α : Type} {read : Reader τ α} {write : α → Wire τ}
    (hread : ∀ x room, read room (write x) = some x) (xs : List α) (room : Nat) :
    many? read room (.list (xs.map write)) = within (scalarListLevels xs) xs room :=
  many?_map (fun x room => by rw [hread, within_zero]) xs room

theorem Span.ofWire?_toWire (hd : d.Faithful) (s : Span) (room : Nat) :
    Span.ofWire? d room (s.toWire d) = within s.levels s room := by
  refine eq_within_of_container rfl fun r _ => ?_
  simp [Span.ofWire?, Span.toWire, record?_record hd]

/-! ## Types and declarations -/

theorem Field.ofWire?_toWire (hd : d.Faithful) (f : Field) (room : Nat) :
    Field.ofWire? d room (f.toWire d) = within f.levels f room := by
  refine eq_within_of_container rfl fun r _ => ?_
  simp [Field.ofWire?, Field.toWire, record?_record hd, hd.text?_text, optionalField?_text hd]

theorem Method.ofWire?_toWire (hd : d.Faithful) (m : Method) (room : Nat) :
    Method.ofWire? d room (m.toWire d) = within m.levels m room := by
  refine eq_within_of_container rfl fun r _ => ?_
  simp [Method.ofWire?, Method.toWire, record?_record hd, hd.text?_text]

theorem NamedType.ofWire?_toWire (hd : d.Faithful) (n : NamedType) (room : Nat) :
    NamedType.ofWire? d room (n.toWire d) = within n.levels n room := by
  refine eq_within_of_container rfl fun r _ => ?_
  simp [NamedType.ofWire?, NamedType.toWire, record?_record hd, hd.text?_text,
    many?_map (Method.ofWire?_toWire hd)]

theorem Signature.ofWire?_toWire (hd : d.Faithful) (s : Signature) (room : Nat) :
    Signature.ofWire? d room (s.toWire d) = within s.levels s room := by
  refine eq_within_of_container rfl fun r _ => ?_
  simp [Signature.ofWire?, Signature.toWire, record?_record hd,
    many?_scalars TypeId.ofWire?_toWire, ite_and]

theorem Predeclared.constant?_tag (hd : d.Faithful) (b : Predeclared) (room : Nat) :
    d.constant? Predeclared.tag Predeclared.all room (d.text b.tag) = some b :=
  constant?_text hd (by cases b <;> decide) (by cases b <;> decide) room

theorem TypeKind.ofWire?_toWire (hd : d.Faithful) (k : TypeKind) (room : Nat) :
    TypeKind.ofWire? d room (k.toWire d) = within (k.levels d.choiceCost) k room := by
  have hclosed : ∀ room < d.choiceCost, TypeKind.ofWire? d room (k.toWire d) = none := by
    intro room h
    cases k <;> simp [TypeKind.ofWire?, TypeKind.toWire, choice?_variant_of_lt h]
  cases k with
  | basic b =>
    refine eq_within_of_cost 0 hclosed fun r _ => ?_
    simp [TypeKind.ofWire?, TypeKind.toWire, TypeKind.tags, choice?_variant hd,
      Predeclared.constant?_tag hd]
  | named n =>
    refine eq_within_of_cost n.levels hclosed fun r _ => ?_
    simp [TypeKind.ofWire?, TypeKind.toWire, TypeKind.tags, choice?_variant hd,
      NamedType.ofWire?_toWire hd]
  | pointer elem =>
    refine eq_within_of_cost 0 hclosed fun r _ => ?_
    simp [TypeKind.ofWire?, TypeKind.toWire, TypeKind.tags, choice?_variant hd]
  | slice elem =>
    refine eq_within_of_cost 0 hclosed fun r _ => ?_
    simp [TypeKind.ofWire?, TypeKind.toWire, TypeKind.tags, choice?_variant hd]
  | array elem len =>
    refine eq_within_of_cost_container hclosed ?_ fun r _ => ?_
    · simp [TypeKind.ofWire?, TypeKind.toWire, TypeKind.tags, choice?_variant_self hd]
    · simp [TypeKind.ofWire?, TypeKind.toWire, TypeKind.tags, choice?_variant hd,
        record?_record hd]
  | map key value =>
    refine eq_within_of_cost_container hclosed ?_ fun r _ => ?_
    · simp [TypeKind.ofWire?, TypeKind.toWire, TypeKind.tags, choice?_variant_self hd]
    · simp [TypeKind.ofWire?, TypeKind.toWire, TypeKind.tags, choice?_variant hd,
        record?_record hd]
  | struct fields =>
    refine eq_within_of_cost _ hclosed fun r _ => ?_
    simp [TypeKind.ofWire?, TypeKind.toWire, TypeKind.tags, choice?_variant hd,
      many?_map (Field.ofWire?_toWire hd)]
  | interface methods =>
    refine eq_within_of_cost _ hclosed fun r _ => ?_
    simp [TypeKind.ofWire?, TypeKind.toWire, TypeKind.tags, choice?_variant hd,
      many?_scalars (readText_text hd)]
  | signature s =>
    refine eq_within_of_cost s.levels hclosed fun r _ => ?_
    simp [TypeKind.ofWire?, TypeKind.toWire, TypeKind.tags, choice?_variant hd,
      Signature.ofWire?_toWire hd]
  | chan elem =>
    refine eq_within_of_cost 0 hclosed fun r _ => ?_
    simp [TypeKind.ofWire?, TypeKind.toWire, TypeKind.tags, choice?_variant hd]

theorem TypeTable.ofWire?_toWire (hd : d.Faithful) (t : TypeTable) (room : Nat) :
    TypeTable.ofWire? d room (t.toWire d) = within (t.levels d.choiceCost) t room := by
  refine eq_within_of_container rfl fun r _ => ?_
  simp [TypeTable.ofWire?, TypeTable.toWire, record?_record hd,
    many?_map (TypeKind.ofWire?_toWire hd), within]

theorem Declaration.ofWire?_toWire (hd : d.Faithful) (x : Declaration) (room : Nat) :
    Declaration.ofWire? d room (x.toWire d) = within x.levels x room := by
  refine eq_within_of_container rfl fun r _ => ?_
  simp [Declaration.ofWire?, Declaration.toWire, record?_record hd, hd.text?_text,
    Signature.ofWire?_toWire hd, Span.ofWire?_toWire hd, ite_and]

theorem Definitions.ofWire?_toWire (hd : d.Faithful) (x : Definitions) (room : Nat) :
    Definitions.ofWire? d room (x.toWire d) = within (x.levels d.choiceCost) x room := by
  refine eq_within_of_container rfl fun r _ => ?_
  simp [Definitions.ofWire?, Definitions.toWire, record?_record hd, TypeTable.ofWire?_toWire hd,
    many?_map (Declaration.ofWire?_toWire hd), ite_and]

/-! ## Scopes -/

theorem Object.ofWire?_toWire (hd : d.Faithful) (o : Object) (room : Nat) :
    Object.ofWire? d room (o.toWire d) = within (o.levels d.choiceCost) o room := by
  have hclosed : ∀ room < d.choiceCost, Object.ofWire? d room (o.toWire d) = none := by
    intro room h
    cases o <;> simp [Object.ofWire?, Object.toWire, choice?_variant_of_lt h]
  cases o with
  | func decl =>
    refine eq_within_of_cost 0 hclosed fun r _ => ?_
    simp [Object.ofWire?, Object.toWire, choice?_variant hd]
  | var name ty =>
    refine eq_within_of_cost_container hclosed ?_ fun r _ => ?_
    · simp [Object.ofWire?, Object.toWire, choice?_variant_self hd]
    · simp [Object.ofWire?, Object.toWire, choice?_variant hd, record?_record hd, hd.text?_text]
  | module name path =>
    refine eq_within_of_cost_container hclosed ?_ fun r _ => ?_
    · simp [Object.ofWire?, Object.toWire, choice?_variant_self hd]
    · simp [Object.ofWire?, Object.toWire, choice?_variant hd, record?_record hd, hd.text?_text]
  | typeName ty =>
    refine eq_within_of_cost 0 hclosed fun r _ => ?_
    simp [Object.ofWire?, Object.toWire, choice?_variant hd]

theorem Scope.ofWire?_toWire (hd : d.Faithful) (s : Scope) (room : Nat) :
    Scope.ofWire? d room (s.toWire d) = within (s.levels d.choiceCost) s room := by
  refine eq_within_of_container rfl fun r _ => ?_
  simp [Scope.ofWire?, Scope.toWire, record?_record hd,
    nameTable?_nameTable hd (Object.ofWire?_toWire hd)]

theorem ScopeTree.ofWire?_toWire (hd : d.Faithful) (t : ScopeTree) (room : Nat) :
    ScopeTree.ofWire? d room (t.toWire d) = within (t.levels d.choiceCost) t room := by
  refine eq_within_of_container rfl fun r _ => ?_
  simp [ScopeTree.ofWire?, ScopeTree.toWire, record?_record hd,
    many?_map (Scope.ofWire?_toWire hd), within]

/-! ## Syntax trees -/

theorem wireExprs_eq_map (es : List Expr) : wireExprs d es = es.map (Expr.toWire d) := by
  induction es with
  | nil => rfl
  | cons e es ih => rw [wireExprs, ih, List.map_cons]

theorem wireElements_eq_map (es : List Element) :
    wireElements d es = es.map (Element.toWire d) := by
  induction es with
  | nil => rfl
  | cons e es ih => rw [wireElements, ih, List.map_cons]

theorem wireStmts_eq_map (ss : List Stmt) : wireStmts d ss = ss.map (Stmt.toWire d) := by
  induction ss with
  | nil => rfl
  | cons s ss ih => rw [wireStmts, ih, List.map_cons]

/-- Expressions come back where there is room for fewer than `room` containers. -/
def ReadsExprsBelow (d : Dialect τ) (readExpr : Reader τ Expr) (room : Nat) : Prop :=
  ∀ e, ∀ r < room, readExpr r (e.toWire d) = within (e.levels d.choiceCost) e r

/-- Statements come back where there is room for fewer than `room` containers. -/
def ReadsStmtsBelow (d : Dialect τ) (readStmt : Reader τ Stmt) (room : Nat) : Prop :=
  ∀ s, ∀ r < room, readStmt r (s.toWire d) = within (s.levels d.choiceCost) s r

theorem readNode_toWire (hd : d.Faithful) (n : Node) (kind : Wire τ) (room : Nat) :
    readNode d (room + 1) (n.toWire d kind) = within n.span.levels (n, kind, room) room := by
  simp [readNode, Node.toWire, record?_record hd, Span.ofWire?_toWire hd]
  rfl

/-- The kind of an expression is read where its node leaves room. -/
theorem readNode_bind (hd : d.Faithful) {read : Node → Reader τ Expr} {n : Node} {kind : Wire τ}
    {levels room : Nat} {e : Expr} (hkind : ∀ r < room, read n r kind = within levels e r) :
    ((readNode d room (n.toWire d kind)).bind fun (n, kind, r) => read n r kind) =
      within (n.levels levels) e room := by
  cases room with
  | zero =>
    rw [Node.levels, within_of_lt (enclosing_pos _)]
    rfl
  | succ room =>
    rw [readNode_toWire hd, within_bind]
    dsimp only
    rw [hkind room (Nat.lt_succ_self room)]
    simp [Node.levels, within, enclosing_le_succ_iff, ite_and]

section Parts

variable {readExpr : Reader τ Expr} {readStmt : Reader τ Stmt} {room : Nat}

theorem optionalField?_wireOption (hexprs : ReadsExprsBelow d readExpr room) {r : Nat}
    (hr : r < room) (o : Option Expr) :
    optionalField? readExpr r (some (wireOption d o)) =
      within (optionLevels d.choiceCost o) o r := by
  cases o with
  | none => rw [optionLevels, within_zero]; rfl
  | some e =>
    have hthere : e.toWire d ≠ .null := by cases e <;> simp [Expr.toWire, Node.toWire, record]
    rw [optionalField?, wireOption, optional?_of_ne_null hthere, hexprs e r hr, map_within,
      optionLevels]

theorem readElement_toWire (hd : d.Faithful) (hexprs : ReadsExprsBelow d readExpr room)
    (e : Element) {r : Nat} (hr : r ≤ room) :
    readElement d readExpr r (e.toWire d) = within (e.levels d.choiceCost) e r := by
  obtain ⟨key, value⟩ := e
  rw [Element.levels]
  refine eq_within_of_container rfl fun r' hr' => ?_
  have hlt : r' < room := by omega
  simp [readElement, Element.toWire, record?_record hd, optionalField?_wireOption hexprs hlt,
    hexprs value r' hlt, ite_and]

theorem many?_wireExprs (hexprs : ReadsExprsBelow d readExpr room) {r : Nat} (hr : r ≤ room)
    (es : List Expr) :
    many? readExpr r (.list (wireExprs d es)) =
      within (enclosing (exprLevels d.choiceCost es)) es r := by
  rw [wireExprs_eq_map, exprLevels_eq_map]
  exact many?_map_of_lt (fun e r' hr' => hexprs e r' (by omega)) es

theorem many?_wireElements (hd : d.Faithful) (hexprs : ReadsExprsBelow d readExpr room) {r : Nat}
    (hr : r ≤ room) (es : List Element) :
    many? (readElement d readExpr) r (.list (wireElements d es)) =
      within (enclosing (elementLevels d.choiceCost es)) es r := by
  rw [wireElements_eq_map, elementLevels_eq_map]
  exact many?_map_of_lt (fun e r' hr' => readElement_toWire hd hexprs e (by omega)) es

theorem many?_wireStmts (hstmts : ReadsStmtsBelow d readStmt room) {r : Nat} (hr : r ≤ room)
    (ss : List Stmt) :
    many? readStmt r (.list (wireStmts d ss)) =
      within (enclosing (stmtLevels d.choiceCost ss)) ss r := by
  rw [wireStmts_eq_map, stmtLevels_eq_map]
  exact many?_map_of_lt (fun s r' hr' => hstmts s r' (by omega)) ss

theorem readKind_of_lt {r : Nat} (hr : r < d.choiceCost) (n : Node) (name : String)
    (payload : Wire τ) : readKind d readExpr readStmt n r (d.variant name payload) = none := by
  rw [readKind, choice?_variant_of_lt hr]

theorem LiteralKind.constant?_tag (hd : d.Faithful) (k : LiteralKind) (room : Nat) :
    d.constant? LiteralKind.tag LiteralKind.all room (d.text k.tag) = some k :=
  constant?_text hd (by cases k <;> decide) (by cases k <;> decide) room

theorem UnaryOp.constant?_tag (hd : d.Faithful) (op : UnaryOp) (room : Nat) :
    d.constant? UnaryOp.tag UnaryOp.all room (d.text op.tag) = some op :=
  constant?_text hd (by cases op <;> decide) (by cases op <;> decide) room

/-- An expression comes back if the payload of its kind does. -/
theorem readNode_variant (hd : d.Faithful) {n : Node} {name : String} {payload : Wire τ}
    {e : Expr} (levels : Nat)
    (hpayload : ∀ r, d.choiceCost + r < room →
      readKind d readExpr readStmt n (d.choiceCost + r) (d.variant name payload) =
        within levels e r) :
    ((readNode d room (n.toWire d (d.variant name payload))).bind fun (n, kind, r) =>
      readKind d readExpr readStmt n r kind) = within (n.levels (d.choiceCost + levels)) e room := by
  refine readNode_bind hd fun r hr => ?_
  refine eq_within_of_cost levels (fun r' hr' => readKind_of_lt hr' n name payload) fun r' hr' => ?_
  exact hpayload r' (by omega)

/-- An expression comes back if the fields of its kind do. -/
theorem readNode_recordVariant (hd : d.Faithful) {n : Node} {name : String}
    {fields : List (String × Wire τ)} {parts : List Nat} {e : Expr}
    (hfull : readKind d readExpr readStmt n d.choiceCost (d.variant name (d.record fields)) = none)
    (hfields : ∀ r, r < room →
      readKind d readExpr readStmt n (d.choiceCost + (r + 1)) (d.variant name (d.record fields)) =
        if ∀ n ∈ parts, n ≤ r then some e else none) :
    ((readNode d room (n.toWire d (d.variant name (d.record fields)))).bind fun (n, kind, r) =>
      readKind d readExpr readStmt n r kind) =
        within (n.levels (d.choiceCost + enclosing parts)) e room := by
  refine readNode_bind hd fun r hr => ?_
  refine eq_within_of_cost_container (fun r' hr' => readKind_of_lt hr' n name _) hfull ?_
  intro r' hr'
  exact hfields r' (by omega)

/-- An expression comes back, given that its parts do. -/
theorem readNode_readKind_toWire (hd : d.Faithful) (hexprs : ReadsExprsBelow d readExpr room)
    (hstmts : ReadsStmtsBelow d readStmt room) (e : Expr) :
    ((readNode d room (e.toWire d)).bind fun (n, kind, r) =>
      readKind d readExpr readStmt n r kind) = within (e.levels d.choiceCost) e room := by
  cases e with
  | ident n name =>
    refine readNode_variant hd 0 fun r _ => ?_
    simp [readKind, Expr.tags, choice?_variant hd, hd.text?_text]
  | selector n base selected =>
    rw [Expr.levels]
    refine readNode_recordVariant hd ?_ fun r hr => ?_
    · simp [readKind, Expr.tags, choice?_variant_self hd]
    · simp [readKind, Expr.tags, choice?_variant hd, record?_record hd, hexprs base r hr,
        hexprs selected r hr, ite_and]
  | call n callee args spread =>
    rw [Expr.levels]
    refine readNode_recordVariant hd ?_ fun r hr => ?_
    · simp [readKind, Expr.tags, choice?_variant_self hd]
    · simp [readKind, Expr.tags, choice?_variant hd, record?_record hd, hexprs callee r hr,
        many?_wireExprs hexprs (Nat.le_of_lt hr), ite_and]
  | literal n kind value =>
    rw [Expr.levels]
    refine readNode_recordVariant hd ?_ fun r _ => ?_
    · simp [readKind, Expr.tags, choice?_variant_self hd]
    · simp [readKind, Expr.tags, choice?_variant hd, record?_record hd, hd.text?_text,
        LiteralKind.constant?_tag hd]
  | composite n type elements =>
    rw [Expr.levels]
    refine readNode_recordVariant hd ?_ fun r hr => ?_
    · simp [readKind, Expr.tags, choice?_variant_self hd]
    · simp [readKind, Expr.tags, choice?_variant hd, record?_record hd,
        optionalField?_wireOption hexprs hr, many?_wireElements hd hexprs (Nat.le_of_lt hr), ite_and]
  | unary n op operand =>
    rw [Expr.levels]
    refine readNode_recordVariant hd ?_ fun r hr => ?_
    · simp [readKind, Expr.tags, choice?_variant_self hd]
    · simp [readKind, Expr.tags, choice?_variant hd, record?_record hd, hexprs operand r hr,
        UnaryOp.constant?_tag hd]
  | star n inner =>
    refine readNode_variant hd _ fun r hr => ?_
    simp [readKind, Expr.tags, choice?_variant hd, hexprs inner r (by omega)]
  | paren n inner =>
    refine readNode_variant hd _ fun r hr => ?_
    simp [readKind, Expr.tags, choice?_variant hd, hexprs inner r (by omega)]
  | closure n body =>
    refine readNode_variant hd _ fun r hr => ?_
    simp [readKind, Expr.tags, choice?_variant hd, many?_wireStmts hstmts (by omega : r ≤ room)]

/-- A statement comes back, given that its parts do. Its expressions may need all the room there
is, since a variant need not count as a container. -/
theorem readStmtKind_toWire (hd : d.Faithful) (hexprs : ReadsExprsBelow d readExpr (room + 1))
    (hstmts : ReadsStmtsBelow d readStmt room) (s : Stmt) :
    readStmtKind d readExpr readStmt room (s.toWire d) = within (s.levels d.choiceCost) s room := by
  have hclosed : ∀ r < d.choiceCost, readStmtKind d readExpr readStmt r (s.toWire d) = none := by
    intro r hr
    cases s <;> simp [readStmtKind, Stmt.toWire, choice?_variant_of_lt hr]
  cases s with
  | expr e =>
    refine eq_within_of_cost _ hclosed fun r hr => ?_
    simp [readStmtKind, Stmt.toWire, Stmt.tags, choice?_variant hd, hexprs e r (by omega)]
  | assign lhs rhs =>
    rw [Stmt.levels]
    refine eq_within_of_cost_container hclosed ?_ fun r hr => ?_
    · simp [readStmtKind, Stmt.toWire, Stmt.tags, choice?_variant_self hd]
    · simp [readStmtKind, Stmt.toWire, Stmt.tags, choice?_variant hd, record?_record hd,
        many?_wireExprs hexprs (by omega : r ≤ room + 1), ite_and]
  | ret values =>
    refine eq_within_of_cost _ hclosed fun r hr => ?_
    simp [readStmtKind, Stmt.toWire, Stmt.tags, choice?_variant hd,
      many?_wireExprs hexprs (by omega : r ≤ room + 1)]
  | block body =>
    refine eq_within_of_cost _ hclosed fun r hr => ?_
    simp [readStmtKind, Stmt.toWire, Stmt.tags, choice?_variant hd,
      many?_wireStmts hstmts (by omega : r ≤ room)]
  | cond test thenBody elseBody =>
    rw [Stmt.levels]
    refine eq_within_of_cost_container hclosed ?_ fun r hr => ?_
    · simp [readStmtKind, Stmt.toWire, Stmt.tags, choice?_variant_self hd]
    · simp [readStmtKind, Stmt.toWire, Stmt.tags, choice?_variant hd, record?_record hd,
        hexprs test r (by omega), many?_wireStmts hstmts (by omega : r ≤ room), ite_and]

end Parts

/-- Expressions and statements come back in enough steps. Two steps are enough for each container:
a statement may lead to an expression without entering one, but an expression cannot. -/
theorem readWithin_toWire (hd : d.Faithful) (steps : Nat) :
    (∀ (e : Expr) (room : Nat), 2 * room ≤ steps →
      readExprWithin d steps room (e.toWire d) = within (e.levels d.choiceCost) e room) ∧
    ∀ (s : Stmt) (room : Nat), 2 * room + 1 ≤ steps →
      readStmtWithin d steps room (s.toWire d) = within (s.levels d.choiceCost) s room := by
  induction steps with
  | zero =>
    refine ⟨fun e room h => ?_, fun s room h => absurd h (by omega)⟩
    obtain rfl : room = 0 := by omega
    have hpos : 0 < e.levels d.choiceCost := by
      cases e <;> exact enclosing_pos _
    rw [readExprWithin, within_of_lt hpos]
  | succ steps ih =>
    obtain ⟨hexpr, hstmt⟩ := ih
    refine ⟨fun e room h => ?_, fun s room h => ?_⟩
    · rw [readExprWithin]
      exact readNode_readKind_toWire hd (fun e r hr => hexpr e r (by omega))
        (fun s r hr => hstmt s r (by omega)) e
    · rw [readStmtWithin]
      exact readStmtKind_toWire hd (fun e r hr => hexpr e r (by omega))
        (fun s r hr => hstmt s r (by omega)) s

theorem Stmt.ofWire?_toWire (hd : d.Faithful) (s : Stmt) (room : Nat) :
    Stmt.ofWire? d room (s.toWire d) = within (s.levels d.choiceCost) s room :=
  (readWithin_toWire hd (2 * room + 2)).2 s room (by omega)

/-! ## Files, units and snapshots -/

theorem Import.ofWire?_toWire (hd : d.Faithful) (i : Import) (room : Nat) :
    Import.ofWire? d room (i.toWire d) = within i.levels i room := by
  refine eq_within_of_container rfl fun r _ => ?_
  simp [Import.ofWire?, Import.toWire, record?_record hd, hd.text?_text, optionalField?_text hd,
    Span.ofWire?_toWire hd]

theorem FunctionDef.ofWire?_toWire (hd : d.Faithful) (f : FunctionDef) (room : Nat) :
    FunctionDef.ofWire? d room (f.toWire d) = within (f.levels d.choiceCost) f room := by
  refine eq_within_of_container rfl fun r _ => ?_
  simp [FunctionDef.ofWire?, FunctionDef.toWire, record?_record hd, hd.text?_text,
    wireStmts_eq_map, many?_map (Stmt.ofWire?_toWire hd), Span.ofWire?_toWire hd, ite_and]

theorem SourceFile.ofWire?_toWire (hd : d.Faithful) (f : SourceFile) (room : Nat) :
    SourceFile.ofWire? d room (f.toWire d) = within (f.levels d.choiceCost) f room := by
  refine eq_within_of_container rfl fun r _ => ?_
  simp [SourceFile.ofWire?, SourceFile.toWire, record?_record hd, hd.text?_text,
    many?_map (Import.ofWire?_toWire hd), many?_map (FunctionDef.ofWire?_toWire hd), ite_and]

/-- A table with scalars as values comes back. -/
theorem idTable?_scalars (hd : d.Faithful) {ν : Type} {read : Reader τ ν} {write : ν → Wire τ}
    (hread : ∀ v room, read room (write v) = some v) (m : FinMap ExprId ν) (room : Nat) :
    d.idTable? ExprId.mk read room (d.idTable ExprId.index write m) =
      within (scalarListLevels m.entries) m room := by
  have hlevels : ∀ v room, read room (write v) = within 0 v room := by
    intro v room
    rw [hread, within_zero]
  exact idTable?_idTable hd hlevels m room

theorem Annotations.ofWire?_toWire (hd : d.Faithful) (i : Annotations) (room : Nat) :
    Annotations.ofWire? d room (i.toWire d) = within (i.levels d.choiceCost) i room := by
  refine eq_within_of_container rfl fun r _ => ?_
  simp [Annotations.ofWire?, Annotations.toWire, record?_record hd,
    idTable?_scalars hd TypeId.ofWire?_toWire, idTable?_scalars hd ScopeId.ofWire?_toWire,
    idTable?_idTable hd (Object.ofWire?_toWire hd), ite_and]

theorem CompilationUnit.ofWire?_toWire (hd : d.Faithful) (u : CompilationUnit) (room : Nat) :
    CompilationUnit.ofWire? d room (u.toWire d) = within (u.levels d.choiceCost) u room := by
  refine eq_within_of_container rfl fun r _ => ?_
  simp [CompilationUnit.ofWire?, CompilationUnit.toWire, record?_record hd, hd.text?_text,
    many?_map (SourceFile.ofWire?_toWire hd), Annotations.ofWire?_toWire hd,
    ScopeTree.ofWire?_toWire hd, many?_scalars (readText_text hd), ite_and]

/-- **A snapshot comes back** from the value that it is written as if there is room for its levels,
and otherwise nothing does. -/
theorem Snapshot.ofWire?_toWire (hd : d.Faithful) (s : Snapshot) (room : Nat) :
    Snapshot.ofWire? d room (s.toWire d) = within (s.levels d.choiceCost) s room := by
  refine eq_within_of_container rfl fun r _ => ?_
  simp [Snapshot.ofWire?, Snapshot.toWire, record?_record hd, Definitions.ofWire?_toWire hd,
    many?_map (CompilationUnit.ofWire?_toWire hd), ite_and]

end BindingAudit
