/-
# Traversal of syntax trees

Walking a unit yields a list of visits: depth first and in source order, entering each
expression before its parts and leaving it after them. Function literals are walked into. What
an analysis wants to know of a unit, such as its calls, is read off that list.
-/
import BindingAudit.Program.CompilationUnit

namespace BindingAudit

/-- One step of a walk. -/
inductive Visit where
  | enterFile (file : SourceFile)
  | leaveFile (file : SourceFile)
  | enterFunction (func : FunctionDef)
  | leaveFunction (func : FunctionDef)
  | enterExpr (e : Expr)
  | leaveExpr (e : Expr)
  /-- A call, after it was entered and before its callee and arguments. -/
  | call (e : Expr)

/-! ## The walk -/

mutual

/-- The walk through an expression. -/
def Expr.visits (e : Expr) : List Visit :=
  .enterExpr e :: (match e with
    | .ident _ _ => []
    | .literal _ _ _ => []
    | .selector _ base selected => base.visits ++ selected.visits
    | .call _ callee args _ => .call e :: (callee.visits ++ visitExprs args)
    | .composite _ type elements => visitOption type ++ visitElements elements
    | .unary _ _ operand => operand.visits
    | .star _ inner => inner.visits
    | .paren _ inner => inner.visits
    | .closure _ body => visitStmts body) ++ [.leaveExpr e]

/-- The walk through an expression that may be missing. -/
def visitOption : Option Expr → List Visit
  | none => []
  | some e => e.visits

/-- The walk through a list of expressions. -/
def visitExprs : List Expr → List Visit
  | [] => []
  | e :: es => e.visits ++ visitExprs es

/-- The walk through an element: the key, then the value. -/
def Element.visits : Element → List Visit
  | .mk key value => visitOption key ++ value.visits

/-- The walk through a list of elements. -/
def visitElements : List Element → List Visit
  | [] => []
  | e :: es => e.visits ++ visitElements es

/-- The walk through a statement. -/
def Stmt.visits : Stmt → List Visit
  | .expr e => e.visits
  | .assign lhs rhs => visitExprs lhs ++ visitExprs rhs
  | .ret values => visitExprs values
  | .block body => visitStmts body
  | .cond test thenBody elseBody =>
      test.visits ++ visitStmts thenBody ++ visitStmts elseBody

/-- The walk through a list of statements. -/
def visitStmts : List Stmt → List Visit
  | [] => []
  | s :: ss => s.visits ++ visitStmts ss

end

/-- The walk through a function. -/
def FunctionDef.visits (f : FunctionDef) : List Visit :=
  .enterFunction f :: visitStmts f.body ++ [.leaveFunction f]

/-- The walk through a file. -/
def SourceFile.visits (f : SourceFile) : List Visit :=
  .enterFile f :: f.functions.flatMap FunctionDef.visits ++ [.leaveFile f]

/-- The walk through a unit. -/
def CompilationUnit.visits (unit : CompilationUnit) : List Visit :=
  unit.files.flatMap SourceFile.visits

/-! ## Reading a walk -/

/-- The expression that a step of a walk enters. -/
def Visit.entered? : Visit → Option Expr
  | .enterExpr e => some e
  | _ => none

/-- The call that a step of a walk visits. -/
def Visit.call? : Visit → Option Expr
  | .call e => some e
  | _ => none

/-- The calls of a file, in the order of the walk. -/
def SourceFile.calls (f : SourceFile) : List Expr := f.visits.filterMap Visit.call?

/-- The calls of a unit, in the order of the walk. -/
def CompilationUnit.calls (unit : CompilationUnit) : List Expr := unit.visits.filterMap Visit.call?

/-- The expressions of a unit, in the order of the walk. -/
def CompilationUnit.exprs (unit : CompilationUnit) : List Expr :=
  unit.visits.filterMap Visit.entered?

/-- How many nodes of each sort a walk has met. -/
structure NodeCount where
  functions : Nat := 0
  exprs : Nat := 0
  calls : Nat := 0
  closures : Nat := 0
  deriving DecidableEq, Repr

/-- Counts one step of a walk. -/
def NodeCount.step (n : NodeCount) : Visit → NodeCount
  | .enterFunction _ => { n with functions := n.functions + 1 }
  | .enterExpr (.closure _ _) => { n with exprs := n.exprs + 1, closures := n.closures + 1 }
  | .enterExpr _ => { n with exprs := n.exprs + 1 }
  | .call _ => { n with calls := n.calls + 1 }
  | _ => n

/-- Counts the nodes of a unit. -/
def CompilationUnit.nodeCount (unit : CompilationUnit) : NodeCount :=
  unit.visits.foldl NodeCount.step {}

end BindingAudit
