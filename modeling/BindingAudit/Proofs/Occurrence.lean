/-
# Occurrences in syntax trees

`x.OccursIn e` says that the expression `x` stands somewhere in `e`: it is `e`, or it occurs in
one of the parts of `e`, down through arguments, composite literals and the statements of
function literals. There is one rule for each place where an expression can stand, and none of
them speaks of the walk.

* `call_mem_visits` : the walk through an expression visits exactly the calls that occur in it;
* `mem_calls_iff` : the calls of a file are exactly the calls that occur in its functions.

An expression may occur at several places; the walk then visits it once for each. What is said
here is which calls are visited at all.
-/
import BindingAudit.Program.Traversal

namespace BindingAudit

/-! ## Occurrences -/

mutual

/-- `x` stands somewhere in an expression. -/
inductive Expr.OccursIn (x : Expr) : Expr → Prop where
  | here : Expr.OccursIn x x
  | base {node base selected} :
      Expr.OccursIn x base → Expr.OccursIn x (.selector node base selected)
  | selected {node base selected} :
      Expr.OccursIn x selected → Expr.OccursIn x (.selector node base selected)
  | callee {node callee args spread} :
      Expr.OccursIn x callee → Expr.OccursIn x (.call node callee args spread)
  | arg {node callee args spread a} :
      a ∈ args → Expr.OccursIn x a → Expr.OccursIn x (.call node callee args spread)
  | type {node type elements} :
      Expr.OccursIn x type → Expr.OccursIn x (.composite node (some type) elements)
  | key {node type elements key value} : Element.mk (some key) value ∈ elements →
      Expr.OccursIn x key → Expr.OccursIn x (.composite node type elements)
  | value {node type elements key value} : Element.mk key value ∈ elements →
      Expr.OccursIn x value → Expr.OccursIn x (.composite node type elements)
  | operand {node op operand} :
      Expr.OccursIn x operand → Expr.OccursIn x (.unary node op operand)
  | starred {node inner} : Expr.OccursIn x inner → Expr.OccursIn x (.star node inner)
  | parenthesized {node inner} : Expr.OccursIn x inner → Expr.OccursIn x (.paren node inner)
  | body {node body s} :
      s ∈ body → Expr.OccursInStmt x s → Expr.OccursIn x (.closure node body)

/-- `x` stands somewhere in a statement. -/
inductive Expr.OccursInStmt (x : Expr) : Stmt → Prop where
  | expr {e} : Expr.OccursIn x e → Expr.OccursInStmt x (.expr e)
  | lhs {lhs rhs e} : e ∈ lhs → Expr.OccursIn x e → Expr.OccursInStmt x (.assign lhs rhs)
  | rhs {lhs rhs e} : e ∈ rhs → Expr.OccursIn x e → Expr.OccursInStmt x (.assign lhs rhs)
  | ret {values e} : e ∈ values → Expr.OccursIn x e → Expr.OccursInStmt x (.ret values)
  | block {body s} : s ∈ body → Expr.OccursInStmt x s → Expr.OccursInStmt x (.block body)
  | test {test thenBody elseBody} :
      Expr.OccursIn x test → Expr.OccursInStmt x (.cond test thenBody elseBody)
  | thenBody {test thenBody elseBody s} : s ∈ thenBody →
      Expr.OccursInStmt x s → Expr.OccursInStmt x (.cond test thenBody elseBody)
  | elseBody {test thenBody elseBody s} : s ∈ elseBody →
      Expr.OccursInStmt x s → Expr.OccursInStmt x (.cond test thenBody elseBody)

end

/-- `x` stands somewhere in a function of the file. -/
def Expr.OccursInFile (x : Expr) (file : SourceFile) : Prop :=
  ∃ f ∈ file.functions, ∃ s ∈ f.body, x.OccursInStmt s

/-- `x` stands somewhere in the unit. -/
def Expr.OccursInUnit (x : Expr) (unit : CompilationUnit) : Prop :=
  ∃ file ∈ unit.files, x.OccursInFile file

/-- Whether an expression is a call. -/
def Expr.isCall : Expr → Bool
  | .call _ _ _ _ => true
  | _ => false

namespace Expr

variable {x : Expr}

/-! ## Occurrences, part by part -/

theorem occursIn_ident {node : Node} {name : String} :
    x.OccursIn (.ident node name) ↔ x = .ident node name := by
  constructor
  · intro h
    cases h
    rfl
  · rintro rfl
    exact .here

theorem occursIn_literal {node : Node} {kind : LiteralKind} {value : String} :
    x.OccursIn (.literal node kind value) ↔ x = .literal node kind value := by
  constructor
  · intro h
    cases h
    rfl
  · rintro rfl
    exact .here

theorem occursIn_selector {node : Node} {base selected : Expr} :
    x.OccursIn (.selector node base selected) ↔
      x = .selector node base selected ∨ x.OccursIn base ∨ x.OccursIn selected := by
  constructor
  · intro h
    cases h with
    | here => exact .inl rfl
    | base h => exact .inr (.inl h)
    | selected h => exact .inr (.inr h)
  · rintro (rfl | h | h)
    · exact .here
    · exact .base h
    · exact .selected h

theorem occursIn_call {node : Node} {callee : Expr} {args : List Expr} {spread : Bool} :
    x.OccursIn (.call node callee args spread) ↔
      x = .call node callee args spread ∨ x.OccursIn callee ∨ ∃ a ∈ args, x.OccursIn a := by
  constructor
  · intro h
    cases h with
    | here => exact .inl rfl
    | callee h => exact .inr (.inl h)
    | arg ha h => exact .inr (.inr ⟨_, ha, h⟩)
  · rintro (rfl | h | ⟨a, ha, h⟩)
    · exact .here
    · exact .callee h
    · exact .arg ha h

/-- The parts of a composite literal are its type, its keys and its values. -/
theorem occursIn_composite {node : Node} {type : Option Expr} {elements : List Element} :
    x.OccursIn (.composite node type elements) ↔
      x = .composite node type elements ∨ (∃ t ∈ type, x.OccursIn t) ∨
        ∃ e ∈ elements, (∃ k ∈ e.key, x.OccursIn k) ∨ x.OccursIn e.value := by
  constructor
  · intro h
    cases h with
    | here => exact .inl rfl
    | type h => exact .inr (.inl ⟨_, rfl, h⟩)
    | key he h => exact .inr (.inr ⟨_, he, .inl ⟨_, rfl, h⟩⟩)
    | value he h => exact .inr (.inr ⟨_, he, .inr h⟩)
  · rintro (rfl | ⟨t, rfl, h⟩ | ⟨⟨key, value⟩, he, ⟨k, hk, h⟩ | h⟩)
    · exact .here
    · exact .type h
    · cases hk
      exact .key he h
    · exact .value he h

theorem occursIn_unary {node : Node} {op : UnaryOp} {operand : Expr} :
    x.OccursIn (.unary node op operand) ↔ x = .unary node op operand ∨ x.OccursIn operand := by
  constructor
  · intro h
    cases h with
    | here => exact .inl rfl
    | operand h => exact .inr h
  · rintro (rfl | h)
    · exact .here
    · exact .operand h

theorem occursIn_star {node : Node} {inner : Expr} :
    x.OccursIn (.star node inner) ↔ x = .star node inner ∨ x.OccursIn inner := by
  constructor
  · intro h
    cases h with
    | here => exact .inl rfl
    | starred h => exact .inr h
  · rintro (rfl | h)
    · exact .here
    · exact .starred h

theorem occursIn_paren {node : Node} {inner : Expr} :
    x.OccursIn (.paren node inner) ↔ x = .paren node inner ∨ x.OccursIn inner := by
  constructor
  · intro h
    cases h with
    | here => exact .inl rfl
    | parenthesized h => exact .inr h
  · rintro (rfl | h)
    · exact .here
    · exact .parenthesized h

theorem occursIn_closure {node : Node} {body : List Stmt} :
    x.OccursIn (.closure node body) ↔
      x = .closure node body ∨ ∃ s ∈ body, x.OccursInStmt s := by
  constructor
  · intro h
    cases h with
    | here => exact .inl rfl
    | body hs h => exact .inr ⟨_, hs, h⟩
  · rintro (rfl | ⟨s, hs, h⟩)
    · exact .here
    · exact .body hs h

theorem occursInStmt_expr {e : Expr} : x.OccursInStmt (.expr e) ↔ x.OccursIn e := by
  constructor
  · rintro ⟨h⟩
    exact h
  · exact .expr

theorem occursInStmt_assign {lhs rhs : List Expr} :
    x.OccursInStmt (.assign lhs rhs) ↔
      (∃ e ∈ lhs, x.OccursIn e) ∨ ∃ e ∈ rhs, x.OccursIn e := by
  constructor
  · intro h
    cases h with
    | lhs he h => exact .inl ⟨_, he, h⟩
    | rhs he h => exact .inr ⟨_, he, h⟩
  · rintro (⟨e, he, h⟩ | ⟨e, he, h⟩)
    · exact .lhs he h
    · exact .rhs he h

theorem occursInStmt_ret {values : List Expr} :
    x.OccursInStmt (.ret values) ↔ ∃ e ∈ values, x.OccursIn e := by
  constructor
  · intro h
    cases h with
    | ret he h => exact ⟨_, he, h⟩
  · rintro ⟨e, he, h⟩
    exact .ret he h

theorem occursInStmt_block {body : List Stmt} :
    x.OccursInStmt (.block body) ↔ ∃ s ∈ body, x.OccursInStmt s := by
  constructor
  · intro h
    cases h with
    | block hs h => exact ⟨_, hs, h⟩
  · rintro ⟨s, hs, h⟩
    exact .block hs h

theorem occursInStmt_cond {test : Expr} {thenBody elseBody : List Stmt} :
    x.OccursInStmt (.cond test thenBody elseBody) ↔
      (x.OccursIn test ∨ ∃ s ∈ thenBody, x.OccursInStmt s) ∨
        ∃ s ∈ elseBody, x.OccursInStmt s := by
  constructor
  · intro h
    cases h with
    | test h => exact .inl (.inl h)
    | thenBody hs h => exact .inl (.inr ⟨_, hs, h⟩)
    | elseBody hs h => exact .inr ⟨_, hs, h⟩
  · rintro ((h | ⟨s, hs, h⟩) | ⟨s, hs, h⟩)
    · exact .test h
    · exact .thenBody hs h
    · exact .elseBody hs h

/-! ## The calls that a walk visits -/

/-- A call is not an expression of another sort. -/
theorem ne_of_isCall {e : Expr} (hx : x.isCall = true) (he : e.isCall = false) : x ≠ e := by
  rintro rfl
  rw [he] at hx
  exact absurd hx (by decide)

end Expr

-- The induction follows the definition of the walk: each statement below is about one of its
-- mutually recursive functions, and each case rewrites by the parts of its constructor.
mutual

/-- **The walk misses no call.** The calls that the walk through an expression visits are
exactly the calls that occur in it. -/
theorem Expr.call_mem_visits {x : Expr} (hx : x.isCall = true) :
    ∀ e : Expr, Visit.call x ∈ e.visits ↔ x.OccursIn e
  | .ident node name => by
      have hne := Expr.ne_of_isCall (e := .ident node name) hx rfl
      simp [Expr.visits, Expr.occursIn_ident, hne]
  | .literal node kind value => by
      have hne := Expr.ne_of_isCall (e := .literal node kind value) hx rfl
      simp [Expr.visits, Expr.occursIn_literal, hne]
  | .selector node base selected => by
      have hne := Expr.ne_of_isCall (e := .selector node base selected) hx rfl
      simp [Expr.visits, Expr.occursIn_selector, hne, Expr.call_mem_visits hx base,
        Expr.call_mem_visits hx selected]
  | .call node callee args spread => by
      simp [Expr.visits, Expr.occursIn_call, Expr.call_mem_visits hx callee,
        call_mem_visitExprs hx args]
  | .composite node type elements => by
      have hne := Expr.ne_of_isCall (e := .composite node type elements) hx rfl
      simp [Expr.visits, Expr.occursIn_composite, hne, call_mem_visitOption hx type,
        call_mem_visitElements hx elements]
  | .unary node op operand => by
      have hne := Expr.ne_of_isCall (e := .unary node op operand) hx rfl
      simp [Expr.visits, Expr.occursIn_unary, hne, Expr.call_mem_visits hx operand]
  | .star node inner => by
      have hne := Expr.ne_of_isCall (e := .star node inner) hx rfl
      simp [Expr.visits, Expr.occursIn_star, hne, Expr.call_mem_visits hx inner]
  | .paren node inner => by
      have hne := Expr.ne_of_isCall (e := .paren node inner) hx rfl
      simp [Expr.visits, Expr.occursIn_paren, hne, Expr.call_mem_visits hx inner]
  | .closure node body => by
      have hne := Expr.ne_of_isCall (e := .closure node body) hx rfl
      simp [Expr.visits, Expr.occursIn_closure, hne, call_mem_visitStmts hx body]

/-- The calls visited in an expression that may be missing. -/
theorem call_mem_visitOption {x : Expr} (hx : x.isCall = true) :
    ∀ o : Option Expr, Visit.call x ∈ visitOption o ↔ ∃ e ∈ o, x.OccursIn e
  | none => by simp [visitOption]
  | some e => by simp [visitOption, Expr.call_mem_visits hx e]

/-- The calls visited in a list of expressions. -/
theorem call_mem_visitExprs {x : Expr} (hx : x.isCall = true) :
    ∀ es : List Expr, Visit.call x ∈ visitExprs es ↔ ∃ e ∈ es, x.OccursIn e
  | [] => by simp [visitExprs]
  | e :: es => by simp [visitExprs, Expr.call_mem_visits hx e, call_mem_visitExprs hx es]

/-- The calls visited in an element: those of its key and of its value. -/
theorem Element.call_mem_visits {x : Expr} (hx : x.isCall = true) :
    ∀ e : Element,
      Visit.call x ∈ e.visits ↔ (∃ k ∈ e.key, x.OccursIn k) ∨ x.OccursIn e.value
  | .mk key value => by
      simp [Element.visits, Element.key, Element.value, call_mem_visitOption hx key,
        Expr.call_mem_visits hx value]

/-- The calls visited in a list of elements. -/
theorem call_mem_visitElements {x : Expr} (hx : x.isCall = true) :
    ∀ es : List Element, Visit.call x ∈ visitElements es ↔
      ∃ e ∈ es, (∃ k ∈ e.key, x.OccursIn k) ∨ x.OccursIn e.value
  | [] => by simp [visitElements]
  | e :: es => by simp [visitElements, Element.call_mem_visits hx e, call_mem_visitElements hx es]

/-- The calls visited in a statement. -/
theorem Stmt.call_mem_visits {x : Expr} (hx : x.isCall = true) :
    ∀ s : Stmt, Visit.call x ∈ s.visits ↔ x.OccursInStmt s
  | .expr e => by simp [Stmt.visits, Expr.occursInStmt_expr, Expr.call_mem_visits hx e]
  | .assign lhs rhs => by
      simp [Stmt.visits, Expr.occursInStmt_assign, call_mem_visitExprs hx lhs,
        call_mem_visitExprs hx rhs]
  | .ret values => by simp [Stmt.visits, Expr.occursInStmt_ret, call_mem_visitExprs hx values]
  | .block body => by simp [Stmt.visits, Expr.occursInStmt_block, call_mem_visitStmts hx body]
  | .cond test thenBody elseBody => by
      simp [Stmt.visits, Expr.occursInStmt_cond, Expr.call_mem_visits hx test,
        call_mem_visitStmts hx thenBody, call_mem_visitStmts hx elseBody, or_assoc]

/-- The calls visited in a list of statements. -/
theorem call_mem_visitStmts {x : Expr} (hx : x.isCall = true) :
    ∀ ss : List Stmt, Visit.call x ∈ visitStmts ss ↔ ∃ s ∈ ss, x.OccursInStmt s
  | [] => by simp [visitStmts]
  | s :: ss => by simp [visitStmts, Stmt.call_mem_visits hx s, call_mem_visitStmts hx ss]

end

/-- The calls of a file are the calls that occur in its functions. -/
theorem SourceFile.mem_calls_iff {x : Expr} (hx : x.isCall = true) (file : SourceFile) :
    x ∈ file.calls ↔ x.OccursInFile file := by
  have hmem : x ∈ file.calls ↔ Visit.call x ∈ file.visits := by
    rw [SourceFile.calls, List.mem_filterMap]
    constructor
    · rintro ⟨v, hv, hcall⟩
      cases v with
      | call e =>
        cases hcall
        exact hv
      | _ => cases hcall
    · intro hv
      exact ⟨_, hv, rfl⟩
  rw [hmem]
  simp [SourceFile.visits, FunctionDef.visits, Expr.OccursInFile, call_mem_visitStmts hx]

end BindingAudit
