/-
# Counting occurrences

`Expr.places p e` is the number of places in `e` at which an expression that satisfies `p` stands.
It is counted along the syntax, one term for each part of a node, and does not speak of the walk.
An expression that stands at two places counts twice.

* `SourceFile.countP_calls` : the calls of a file that satisfy `p` are as many as the places in it
  at which such a call stands. The walk visits each call exactly once.
-/
import Mathlib.Algebra.Ring.Nat
import BindingAudit.Proofs.Occurrence

namespace BindingAudit

/-! ## Places -/

mutual

/-- The places in an expression at which one that satisfies `p` stands. -/
def Expr.places (p : Expr → Bool) (e : Expr) : Nat :=
  (p e).toNat + match e with
    | .ident _ _ => 0
    | .literal _ _ _ => 0
    | .selector _ base selected => base.places p + selected.places p
    | .call _ callee args _ => callee.places p + placesInExprs p args
    | .composite _ type elements => placesInOption p type + placesInElements p elements
    | .unary _ _ operand => operand.places p
    | .star _ inner => inner.places p
    | .paren _ inner => inner.places p
    | .closure _ body => placesInStmts p body

/-- The places in an expression that may be missing. -/
def placesInOption (p : Expr → Bool) : Option Expr → Nat
  | none => 0
  | some e => e.places p

/-- The places in a list of expressions. -/
def placesInExprs (p : Expr → Bool) : List Expr → Nat
  | [] => 0
  | e :: es => e.places p + placesInExprs p es

/-- The places in an element: those in its key and those in its value. -/
def Element.places (p : Expr → Bool) : Element → Nat
  | .mk key value => placesInOption p key + value.places p

/-- The places in a list of elements. -/
def placesInElements (p : Expr → Bool) : List Element → Nat
  | [] => 0
  | e :: es => e.places p + placesInElements p es

/-- The places in a statement. -/
def Stmt.places (p : Expr → Bool) : Stmt → Nat
  | .expr e => e.places p
  | .assign lhs rhs => placesInExprs p lhs + placesInExprs p rhs
  | .ret values => placesInExprs p values
  | .block body => placesInStmts p body
  | .cond test thenBody elseBody =>
      test.places p + placesInStmts p thenBody + placesInStmts p elseBody

/-- The places in a list of statements. -/
def placesInStmts (p : Expr → Bool) : List Stmt → Nat
  | [] => 0
  | s :: ss => s.places p + placesInStmts p ss

end

/-- The places in a file at which an expression that satisfies `p` stands. -/
def SourceFile.places (p : Expr → Bool) (file : SourceFile) : Nat :=
  (file.functions.map fun f => placesInStmts p f.body).sum

/-- The places in a unit at which an expression that satisfies `p` stands. -/
def CompilationUnit.places (p : Expr → Bool) (unit : CompilationUnit) : Nat :=
  (unit.files.map (SourceFile.places p)).sum

/-! ## The calls of a walk, counted -/

theorem countP_cons_toNat {α : Type} (p : α → Bool) (a : α) (l : List α) :
    (a :: l).countP p = (p a).toNat + l.countP p := by
  cases h : p a <;> simp [h, Nat.add_comm]

/-- The number of calls in a walk that satisfy `p`. -/
def callsIn (p : Expr → Bool) (visits : List Visit) : Nat :=
  (visits.filterMap Visit.call?).countP p

@[simp] theorem callsIn_nil (p : Expr → Bool) : callsIn p [] = 0 := rfl

@[simp] theorem callsIn_append (p : Expr → Bool) (vs ws : List Visit) :
    callsIn p (vs ++ ws) = callsIn p vs + callsIn p ws := by
  simp [callsIn]

@[simp] theorem callsIn_call (p : Expr → Bool) (e : Expr) (vs : List Visit) :
    callsIn p (.call e :: vs) = (p e).toNat + callsIn p vs :=
  countP_cons_toNat p e _

/-- Only the visits of calls count. -/
theorem callsIn_cons_of_call?_eq_none (p : Expr → Bool) {v : Visit} (hv : v.call? = none)
    (vs : List Visit) : callsIn p (v :: vs) = callsIn p vs := by
  simp [callsIn, hv]

@[simp] theorem callsIn_enterExpr (p : Expr → Bool) (e : Expr) (vs : List Visit) :
    callsIn p (.enterExpr e :: vs) = callsIn p vs :=
  callsIn_cons_of_call?_eq_none p rfl vs

@[simp] theorem callsIn_leaveExpr (p : Expr → Bool) (e : Expr) (vs : List Visit) :
    callsIn p (.leaveExpr e :: vs) = callsIn p vs :=
  callsIn_cons_of_call?_eq_none p rfl vs

/-- An expression that is no call has no place of its own. -/
theorem toNat_eq_zero_of_not_isCall {p : Expr → Bool} (hp : ∀ e, p e = true → e.isCall = true)
    {e : Expr} (he : e.isCall = false) : (p e).toNat = 0 := by
  cases h : p e with
  | false => rfl
  | true =>
    have hcall := hp e h
    rw [he] at hcall
    exact absurd hcall (by decide)

-- As for occurrences, each statement is about one of the functions of the walk. Of an
-- expression that is no call only the parts count.
mutual

/-- **The walk visits each call once.** -/
theorem Expr.callsIn_visits {p : Expr → Bool} (hp : ∀ e, p e = true → e.isCall = true) :
    ∀ e : Expr, callsIn p e.visits = e.places p
  | .ident node name => by
      have hown := toNat_eq_zero_of_not_isCall hp (e := .ident node name) rfl
      simp [Expr.visits, Expr.places, hown]
  | .literal node kind value => by
      have hown := toNat_eq_zero_of_not_isCall hp (e := .literal node kind value) rfl
      simp [Expr.visits, Expr.places, hown]
  | .selector node base selected => by
      have hown := toNat_eq_zero_of_not_isCall hp (e := .selector node base selected) rfl
      simp [Expr.visits, Expr.places, hown, Expr.callsIn_visits hp base,
        Expr.callsIn_visits hp selected]
  | .call node callee args spread => by
      simp [Expr.visits, Expr.places, Expr.callsIn_visits hp callee, callsIn_visitExprs hp args]
  | .composite node type elements => by
      have hown := toNat_eq_zero_of_not_isCall hp (e := .composite node type elements) rfl
      simp [Expr.visits, Expr.places, hown, callsIn_visitOption hp type,
        callsIn_visitElements hp elements]
  | .unary node op operand => by
      have hown := toNat_eq_zero_of_not_isCall hp (e := .unary node op operand) rfl
      simp [Expr.visits, Expr.places, hown, Expr.callsIn_visits hp operand]
  | .star node inner => by
      have hown := toNat_eq_zero_of_not_isCall hp (e := .star node inner) rfl
      simp [Expr.visits, Expr.places, hown, Expr.callsIn_visits hp inner]
  | .paren node inner => by
      have hown := toNat_eq_zero_of_not_isCall hp (e := .paren node inner) rfl
      simp [Expr.visits, Expr.places, hown, Expr.callsIn_visits hp inner]
  | .closure node body => by
      have hown := toNat_eq_zero_of_not_isCall hp (e := .closure node body) rfl
      simp [Expr.visits, Expr.places, hown, callsIn_visitStmts hp body]

/-- The calls visited in an expression that may be missing, counted. -/
theorem callsIn_visitOption {p : Expr → Bool} (hp : ∀ e, p e = true → e.isCall = true) :
    ∀ o : Option Expr, callsIn p (visitOption o) = placesInOption p o
  | none => by simp [visitOption, placesInOption]
  | some e => by simp [visitOption, placesInOption, Expr.callsIn_visits hp e]

/-- The calls visited in a list of expressions, counted. -/
theorem callsIn_visitExprs {p : Expr → Bool} (hp : ∀ e, p e = true → e.isCall = true) :
    ∀ es : List Expr, callsIn p (visitExprs es) = placesInExprs p es
  | [] => by simp [visitExprs, placesInExprs]
  | e :: es => by
      simp [visitExprs, placesInExprs, Expr.callsIn_visits hp e, callsIn_visitExprs hp es]

/-- The calls visited in an element, counted. -/
theorem Element.callsIn_visits {p : Expr → Bool} (hp : ∀ e, p e = true → e.isCall = true) :
    ∀ e : Element, callsIn p e.visits = e.places p
  | .mk key value => by
      simp [Element.visits, Element.places, callsIn_visitOption hp key,
        Expr.callsIn_visits hp value]

/-- The calls visited in a list of elements, counted. -/
theorem callsIn_visitElements {p : Expr → Bool} (hp : ∀ e, p e = true → e.isCall = true) :
    ∀ es : List Element, callsIn p (visitElements es) = placesInElements p es
  | [] => by simp [visitElements, placesInElements]
  | e :: es => by
      simp [visitElements, placesInElements, Element.callsIn_visits hp e,
        callsIn_visitElements hp es]

/-- The calls visited in a statement, counted. -/
theorem Stmt.callsIn_visits {p : Expr → Bool} (hp : ∀ e, p e = true → e.isCall = true) :
    ∀ s : Stmt, callsIn p s.visits = s.places p
  | .expr e => by simp [Stmt.visits, Stmt.places, Expr.callsIn_visits hp e]
  | .assign lhs rhs => by
      simp [Stmt.visits, Stmt.places, callsIn_visitExprs hp lhs, callsIn_visitExprs hp rhs]
  | .ret values => by simp [Stmt.visits, Stmt.places, callsIn_visitExprs hp values]
  | .block body => by simp [Stmt.visits, Stmt.places, callsIn_visitStmts hp body]
  | .cond test thenBody elseBody => by
      simp [Stmt.visits, Stmt.places, Expr.callsIn_visits hp test,
        callsIn_visitStmts hp thenBody, callsIn_visitStmts hp elseBody, Nat.add_assoc]

/-- The calls visited in a list of statements, counted. -/
theorem callsIn_visitStmts {p : Expr → Bool} (hp : ∀ e, p e = true → e.isCall = true) :
    ∀ ss : List Stmt, callsIn p (visitStmts ss) = placesInStmts p ss
  | [] => by simp [visitStmts, placesInStmts]
  | s :: ss => by
      simp [visitStmts, placesInStmts, Stmt.callsIn_visits hp s, callsIn_visitStmts hp ss]

end

/-- The calls in the walk through some functions, counted. -/
theorem callsIn_flatMap_visits {p : Expr → Bool} (hp : ∀ e, p e = true → e.isCall = true)
    (fs : List FunctionDef) :
    callsIn p (fs.flatMap FunctionDef.visits) = (fs.map fun f => placesInStmts p f.body).sum := by
  induction fs with
  | nil => rfl
  | cons f fs ih =>
    have henter : callsIn p f.visits = placesInStmts p f.body := by
      rw [FunctionDef.visits, List.cons_append, callsIn_cons_of_call?_eq_none p rfl,
        callsIn_append, callsIn_cons_of_call?_eq_none p rfl, callsIn_nil,
        callsIn_visitStmts hp, Nat.add_zero]
    rw [List.flatMap_cons, callsIn_append, henter, ih, List.map_cons, List.sum_cons]

/-- **The calls of a file, counted.** A call that satisfies `p` is listed once for each place in
the file at which it stands. -/
theorem SourceFile.countP_calls {p : Expr → Bool} (hp : ∀ e, p e = true → e.isCall = true)
    (file : SourceFile) : file.calls.countP p = file.places p := by
  change callsIn p file.visits = file.places p
  rw [SourceFile.visits, List.cons_append, callsIn_cons_of_call?_eq_none p rfl, callsIn_append,
    callsIn_cons_of_call?_eq_none p rfl, callsIn_nil, Nat.add_zero]
  exact callsIn_flatMap_visits hp file.functions

end BindingAudit
