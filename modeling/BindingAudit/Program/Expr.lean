/-
# Syntax trees

Expressions and statements of the analyzed program, as far as the analysis has to walk through
them. Every expression has a node: its number within the unit and where it stands.
-/
import BindingAudit.Program.Id
import BindingAudit.Source
import BindingAudit.Text.Quoted

namespace BindingAudit

/-- What every expression carries: its number and its place. -/
structure Node where
  id : ExprId
  span : Span
  deriving DecidableEq, Repr, Inhabited

/-- Kinds of basic literals. -/
inductive LiteralKind where
  | int | float | imag | char | string
  deriving DecidableEq, Repr

/-- All kinds of literals. -/
def LiteralKind.all : List LiteralKind := [int, float, imag, char, string]

/-- The name that stands for a kind of literal in snapshots. -/
def LiteralKind.tag : LiteralKind → String
  | int => "Int"
  | float => "Float"
  | imag => "Imag"
  | char => "Char"
  | string => "String"

/-- Unary operators. -/
inductive UnaryOp where
  | addr | neg | not | recv
  deriving DecidableEq, Repr

/-- All unary operators. -/
def UnaryOp.all : List UnaryOp := [addr, neg, not, recv]

/-- The spelling in source text. -/
def UnaryOp.symbol : UnaryOp → String
  | addr => "&"
  | neg => "-"
  | not => "!"
  | recv => "<-"

/-- The name that stands for an operator in snapshots. -/
def UnaryOp.tag : UnaryOp → String
  | addr => "Addr"
  | neg => "Neg"
  | not => "Not"
  | recv => "Recv"

mutual

/-- Expressions. -/
inductive Expr where
  | ident (node : Node) (name : String)
  /-- `base.selected`, where the selected expression is an identifier. -/
  | selector (node : Node) (base selected : Expr)
  /-- A call; `spread` tells whether its last argument is spread. -/
  | call (node : Node) (callee : Expr) (args : List Expr) (spread : Bool)
  /-- A literal; the value of a string literal is its decoded content. -/
  | literal (node : Node) (kind : LiteralKind) (value : String)
  /-- `T{k: v, ...}`, where the type may be left out. -/
  | composite (node : Node) (type : Option Expr) (elements : List Element)
  | unary (node : Node) (op : UnaryOp) (operand : Expr)
  /-- `*x`, a dereference or a pointer type. -/
  | star (node : Node) (inner : Expr)
  | paren (node : Node) (inner : Expr)
  /-- A function literal. -/
  | closure (node : Node) (body : List Stmt)

/-- An element of a composite literal. -/
inductive Element where
  | mk (key : Option Expr) (value : Expr)

/-- Statements. -/
inductive Stmt where
  | expr (e : Expr)
  | assign (lhs rhs : List Expr)
  | ret (values : List Expr)
  | block (body : List Stmt)
  | cond (test : Expr) (thenBody elseBody : List Stmt)

end

instance : Inhabited Expr := ⟨.ident default ""⟩

instance : Inhabited Element := ⟨.mk none default⟩

instance : Inhabited Stmt := ⟨.block []⟩

/-- The key of an element. -/
def Element.key : Element → Option Expr
  | .mk key _ => key

/-- The value of an element. -/
def Element.value : Element → Expr
  | .mk _ value => value

namespace Expr

/-! ## Views -/

/-- The node of an expression. -/
def node : Expr → Node
  | ident n _ | selector n _ _ | call n _ _ _ | literal n _ _ | composite n _ _
  | unary n _ _ | star n _ | paren n _ | closure n _ => n

/-- The number of an expression. -/
def id (e : Expr) : ExprId := e.node.id

/-- Where an expression stands. -/
def span (e : Expr) : Span := e.node.span

/-- The name of an identifier. -/
def name? : Expr → Option String
  | ident _ name => some name
  | _ => none

/-- The two parts of a selector. -/
def selectorParts? : Expr → Option (Expr × Expr)
  | selector _ base selected => some (base, selected)
  | _ => none

/-- The expression without enclosing parentheses. -/
def stripParens : Expr → Expr
  | paren _ inner => inner.stripParens
  | e => e

/-- The content of a string literal, looking through parentheses. -/
def literalText? (e : Expr) : Option String :=
  match e.stripParens with
  | literal _ .string value => some value
  | _ => none

/-- Whether the expression is a function literal, looking through parentheses. -/
def isClosure (e : Expr) : Bool :=
  match e.stripParens with
  | closure _ _ => true
  | _ => false

/-- The identifier that names what an expression refers to: `F` for `pkg.F`, `T` for `&T{}`,
`f` for `f()`. Literals name nothing. -/
def namingIdent? : Expr → Option Expr
  | e@(ident _ _) => some e
  | selector _ _ selected => selected.namingIdent?
  | star _ inner => inner.namingIdent?
  | paren _ inner => inner.namingIdent?
  | unary _ _ operand => operand.namingIdent?
  | call _ callee _ _ => callee.namingIdent?
  | composite _ (some type) _ => type.namingIdent?
  | composite _ none _ => none
  | literal _ _ _ => none
  | closure _ _ => none

end Expr

/-! ## Source text -/

mutual

/-- An expression in source syntax. The body of a function literal is not shown. -/
def Expr.render : Expr → String
  | .ident _ name => name
  | .selector _ base selected => base.render ++ "." ++ selected.render
  | .call _ callee args spread =>
      callee.render ++ "(" ++ ", ".intercalate (renderExprs args) ++
        (if spread then "..." else "") ++ ")"
  | .literal _ .string value => Text.quoted value
  | .literal _ _ value => value
  | .composite _ type elements =>
      renderType type ++ Text.braced (", ".intercalate (renderElements elements))
  | .unary _ op operand => op.symbol ++ operand.render
  | .star _ inner => "*" ++ inner.render
  | .paren _ inner => "(" ++ inner.render ++ ")"
  | .closure _ _ => "func literal"

/-- The written type of a composite literal. -/
def renderType : Option Expr → String
  | none => ""
  | some type => type.render

/-- The expressions of a list, each in source syntax. -/
def renderExprs : List Expr → List String
  | [] => []
  | e :: es => e.render :: renderExprs es

/-- An element of a composite literal in source syntax. -/
def Element.render : Element → String
  | .mk key value => renderKey key ++ value.render

/-- The key of an element with its colon. -/
def renderKey : Option Expr → String
  | none => ""
  | some key => key.render ++ ": "

/-- The elements of a list, each in source syntax. -/
def renderElements : List Element → List String
  | [] => []
  | e :: es => e.render :: renderElements es

end

end BindingAudit
