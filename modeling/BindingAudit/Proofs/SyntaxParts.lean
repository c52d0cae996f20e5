/-
# The parts of a syntax tree

An expression has parts, the expressions that stand in it with no other expression around them, and
these come in source order. Statements are no expressions, so a function literal has the expressions
of its statements as parts, those in nested blocks included.

The walk through an expression and the occurrences in it can both be said by parts, without the nine
kinds of expressions and five kinds of statements.

* `Expr.of_parts` : induction on the parts of an expression;
* `Expr.visits_eq_parts` : the walk goes through the parts from left to right;
* `Expr.occursIn_iff_parts` : what occurs in an expression occurs in one of its parts.
-/
import BindingAudit.Proofs.Occurrence

namespace BindingAudit

/-! ## Parts in source order -/

mutual

/-- The expressions that stand in a statement and in no other expression of it, in source order. -/
def Stmt.parts : Stmt → List Expr
  | .expr e => [e]
  | .assign lhs rhs => lhs ++ rhs
  | .ret values => values
  | .block body => partsOfStmts body
  | .cond test thenBody elseBody => test :: (partsOfStmts thenBody ++ partsOfStmts elseBody)

/-- The expressions that stand in a list of statements and in no other expression of it. -/
def partsOfStmts : List Stmt → List Expr
  | [] => []
  | s :: ss => s.parts ++ partsOfStmts ss

end

/-- The key of an element, if it has one, and its value. -/
def Element.parts (element : Element) : List Expr := element.key.toList ++ [element.value]

/-- The parts of an expression, in source order. The parts of a function literal are those of the
statements of its body. -/
def Expr.parts : Expr → List Expr
  | .ident _ _ => []
  | .literal _ _ _ => []
  | .selector _ base selected => [base, selected]
  | .call _ callee args _ => callee :: args
  | .composite _ type elements => type.toList ++ elements.flatMap Element.parts
  | .unary _ _ operand => [operand]
  | .star _ inner => [inner]
  | .paren _ inner => [inner]
  | .closure _ body => partsOfStmts body

-- One statement for each of the types that make up a syntax tree: what holds of an expression as
-- soon as it holds of its parts, holds of all expressions in a tree.
mutual

/-- **Induction on the parts of an expression.** -/
theorem Expr.of_parts {P : Expr → Prop} (h : ∀ e : Expr, (∀ x ∈ e.parts, P x) → P e) :
    ∀ e : Expr, P e
  | .ident _ _ => h _ (by simp [Expr.parts])
  | .literal _ _ _ => h _ (by simp [Expr.parts])
  | .selector _ base selected =>
      h _ (by simp [Expr.parts, Expr.of_parts h base, Expr.of_parts h selected])
  | .call _ callee args _ => h _ (by
      intro x hx
      rcases List.mem_cons.1 hx with hx | hx
      · rw [hx]
        exact Expr.of_parts h callee
      · exact of_parts_exprs h args x hx)
  | .composite _ type elements => h _ (by
      intro x hx
      rcases List.mem_append.1 hx with hx | hx
      · exact of_parts_option h type x hx
      · exact of_parts_elements h elements x hx)
  | .unary _ _ operand => h _ (by simp [Expr.parts, Expr.of_parts h operand])
  | .star _ inner => h _ (by simp [Expr.parts, Expr.of_parts h inner])
  | .paren _ inner => h _ (by simp [Expr.parts, Expr.of_parts h inner])
  | .closure _ body => h _ (of_parts_stmts h body)

theorem of_parts_option {P : Expr → Prop} (h : ∀ e : Expr, (∀ x ∈ e.parts, P x) → P e) :
    ∀ o : Option Expr, ∀ x ∈ o.toList, P x
  | none => by simp
  | some e => by simp [Expr.of_parts h e]

theorem of_parts_exprs {P : Expr → Prop} (h : ∀ e : Expr, (∀ x ∈ e.parts, P x) → P e) :
    ∀ es : List Expr, ∀ x ∈ es, P x
  | [] => by simp
  | e :: es => by
      intro x hx
      rcases List.mem_cons.1 hx with hx | hx
      · rw [hx]
        exact Expr.of_parts h e
      · exact of_parts_exprs h es x hx

theorem Element.of_parts {P : Expr → Prop} (h : ∀ e : Expr, (∀ x ∈ e.parts, P x) → P e) :
    ∀ element : Element, ∀ x ∈ element.parts, P x
  | .mk key value => by
      intro x hx
      rcases List.mem_append.1 hx with hx | hx
      · exact of_parts_option h key x hx
      · rw [List.mem_singleton.1 hx]
        exact Expr.of_parts h value

theorem of_parts_elements {P : Expr → Prop} (h : ∀ e : Expr, (∀ x ∈ e.parts, P x) → P e) :
    ∀ es : List Element, ∀ x ∈ es.flatMap Element.parts, P x
  | [] => by simp
  | e :: es => by
      intro x hx
      rcases List.mem_append.1 hx with hx | hx
      · exact Element.of_parts h e x hx
      · exact of_parts_elements h es x hx

theorem Stmt.of_parts {P : Expr → Prop} (h : ∀ e : Expr, (∀ x ∈ e.parts, P x) → P e) :
    ∀ s : Stmt, ∀ x ∈ s.parts, P x
  | .expr e => by simp [Stmt.parts, Expr.of_parts h e]
  | .assign lhs rhs => by
      intro x hx
      rcases List.mem_append.1 hx with hx | hx
      · exact of_parts_exprs h lhs x hx
      · exact of_parts_exprs h rhs x hx
  | .ret values => of_parts_exprs h values
  | .block body => of_parts_stmts h body
  | .cond test thenBody elseBody => by
      intro x hx
      rcases List.mem_cons.1 hx with hx | hx
      · rw [hx]
        exact Expr.of_parts h test
      · rcases List.mem_append.1 hx with hx | hx
        · exact of_parts_stmts h thenBody x hx
        · exact of_parts_stmts h elseBody x hx

theorem of_parts_stmts {P : Expr → Prop} (h : ∀ e : Expr, (∀ x ∈ e.parts, P x) → P e) :
    ∀ ss : List Stmt, ∀ x ∈ partsOfStmts ss, P x
  | [] => by simp [partsOfStmts]
  | s :: ss => by
      intro x hx
      rcases List.mem_append.1 hx with hx | hx
      · exact Stmt.of_parts h s x hx
      · exact of_parts_stmts h ss x hx

end

/-! ## The walk and the occurrences, by parts -/

theorem visitExprs_eq_flatMap (es : List Expr) : visitExprs es = es.flatMap Expr.visits := by
  induction es with
  | nil => rfl
  | cons e es ih => rw [visitExprs, ih, List.flatMap_cons]

theorem visitOption_eq_flatMap (o : Option Expr) :
    visitOption o = o.toList.flatMap Expr.visits := by
  cases o with
  | none => rfl
  | some e => simp [visitOption]

theorem visitElements_eq_flatMap (es : List Element) :
    visitElements es = (es.flatMap Element.parts).flatMap Expr.visits := by
  induction es with
  | nil => rfl
  | cons e es ih =>
    obtain ⟨key, value⟩ := e
    rw [visitElements, ih, Element.visits, visitOption_eq_flatMap, List.flatMap_cons,
      List.flatMap_append]
    simp [Element.parts, Element.key, Element.value]

mutual

theorem Stmt.visits_eq_flatMap : ∀ s : Stmt, s.visits = s.parts.flatMap Expr.visits
  | .expr e => by simp [Stmt.visits, Stmt.parts]
  | .assign lhs rhs => by simp [Stmt.visits, Stmt.parts, visitExprs_eq_flatMap]
  | .ret values => visitExprs_eq_flatMap values
  | .block body => visitStmts_eq_flatMap body
  | .cond test thenBody elseBody => by
      simp [Stmt.visits, Stmt.parts, visitStmts_eq_flatMap thenBody,
        visitStmts_eq_flatMap elseBody]

theorem visitStmts_eq_flatMap : ∀ ss : List Stmt,
    visitStmts ss = (partsOfStmts ss).flatMap Expr.visits
  | [] => rfl
  | s :: ss => by
      rw [visitStmts, partsOfStmts, List.flatMap_append, Stmt.visits_eq_flatMap s,
        visitStmts_eq_flatMap ss]

end

/-- The step at which the walk visits an expression as a call. -/
def Expr.callVisit (e : Expr) : List Visit := if e.isCall then [.call e] else []

/-- **The walk through an expression** goes through its parts, from left to right. -/
theorem Expr.visits_eq_parts (e : Expr) :
    e.visits =
      .enterExpr e :: (e.callVisit ++ e.parts.flatMap Expr.visits) ++ [.leaveExpr e] := by
  cases e with
  | ident | literal => rfl
  | selector | unary | star | paren =>
    simp [Expr.visits, Expr.callVisit, Expr.isCall, Expr.parts]
  | call node callee args spread =>
    simp [Expr.visits, Expr.callVisit, Expr.isCall, Expr.parts, visitExprs_eq_flatMap]
  | composite node type elements =>
    simp [Expr.visits, Expr.callVisit, Expr.isCall, Expr.parts, visitOption_eq_flatMap,
      visitElements_eq_flatMap]
  | closure node body =>
    simp [Expr.visits, Expr.callVisit, Expr.isCall, Expr.parts, visitStmts_eq_flatMap]

mutual

theorem Expr.occursInStmt_iff_parts {x : Expr} : ∀ s : Stmt,
    x.OccursInStmt s ↔ ∃ y ∈ s.parts, x.OccursIn y
  | .expr e => by simp [Expr.occursInStmt_expr, Stmt.parts]
  | .assign lhs rhs => by
      simp [Expr.occursInStmt_assign, Stmt.parts, or_and_right, exists_or]
  | .ret values => by simp [Expr.occursInStmt_ret, Stmt.parts]
  | .block body => by
      rw [Expr.occursInStmt_block, Stmt.parts, Expr.occursInStmts_iff_parts body]
  | .cond test thenBody elseBody => by
      rw [Expr.occursInStmt_cond, Expr.occursInStmts_iff_parts thenBody,
        Expr.occursInStmts_iff_parts elseBody]
      simp [Stmt.parts, or_and_right, exists_or, or_assoc]

theorem Expr.occursInStmts_iff_parts {x : Expr} : ∀ ss : List Stmt,
    (∃ s ∈ ss, x.OccursInStmt s) ↔ ∃ y ∈ partsOfStmts ss, x.OccursIn y
  | [] => by simp [partsOfStmts]
  | s :: ss => by
      simp only [List.mem_cons, exists_eq_or_imp, Expr.occursInStmt_iff_parts s,
        Expr.occursInStmts_iff_parts ss]
      simp [partsOfStmts, or_and_right, exists_or]

end

/-- **The parts are all there is**: what occurs in an expression is the expression or occurs in one
of its parts. -/
theorem Expr.occursIn_iff_parts {x e : Expr} :
    x.OccursIn e ↔ x = e ∨ ∃ y ∈ e.parts, x.OccursIn y := by
  cases e with
  | ident => simp [Expr.occursIn_ident, Expr.parts]
  | literal => simp [Expr.occursIn_literal, Expr.parts]
  | selector => simp [Expr.occursIn_selector, Expr.parts]
  | call => simp [Expr.occursIn_call, Expr.parts]
  | unary => simp [Expr.occursIn_unary, Expr.parts]
  | star => simp [Expr.occursIn_star, Expr.parts]
  | paren => simp [Expr.occursIn_paren, Expr.parts]
  | closure node body =>
    rw [Expr.occursIn_closure, Expr.occursInStmts_iff_parts, Expr.parts]
  | composite node type elements =>
    rw [Expr.occursIn_composite]
    refine or_congr_right ?_
    simp only [Expr.parts, Element.parts, List.mem_append, Option.mem_toList, List.mem_flatMap,
      List.mem_singleton, or_and_right, exists_or]
    refine or_congr_right ?_
    constructor
    · rintro ⟨element, he, ⟨key, hkey, hx⟩ | hx⟩
      · exact ⟨key, ⟨element, he, .inl hkey⟩, hx⟩
      · exact ⟨element.value, ⟨element, he, .inr rfl⟩, hx⟩
    · rintro ⟨y, ⟨element, he, hy | rfl⟩, hx⟩
      · exact ⟨element, he, .inl ⟨y, hy, hx⟩⟩
      · exact ⟨element, he, .inr hx⟩

end BindingAudit
