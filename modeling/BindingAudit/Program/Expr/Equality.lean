/-
# Equality of syntax trees

Two syntax trees are equal when they have the same nodes, names and literals everywhere. The
comparison goes through both trees side by side.
-/
import BindingAudit.Program.Expr

namespace BindingAudit

mutual

/-- Whether two expressions are equal. -/
def Expr.sameAs : Expr → Expr → Bool
  | .ident n x, .ident m y => n == m && x == y
  | .selector n a b, .selector m c d => n == m && a.sameAs c && b.sameAs d
  | .call n f as s, .call m g bs r =>
      n == m && f.sameAs g && sameExprs as bs && s == r
  | .literal n k x, .literal m l y => n == m && k == l && x == y
  | .composite n t as, .composite m r bs => n == m && sameOption t r && sameElements as bs
  | .unary n o a, .unary m p b => n == m && o == p && a.sameAs b
  | .star n a, .star m b => n == m && a.sameAs b
  | .paren n a, .paren m b => n == m && a.sameAs b
  | .closure n as, .closure m bs => n == m && sameStmts as bs
  | _, _ => false

/-- Whether two optional expressions are equal. -/
def sameOption : Option Expr → Option Expr → Bool
  | none, none => true
  | some a, some b => a.sameAs b
  | _, _ => false

/-- Whether two lists of expressions are equal. -/
def sameExprs : List Expr → List Expr → Bool
  | [], [] => true
  | a :: as, b :: bs => a.sameAs b && sameExprs as bs
  | _, _ => false

/-- Whether two elements are equal. -/
def Element.sameAs : Element → Element → Bool
  | .mk k a, .mk l b => sameOption k l && a.sameAs b

/-- Whether two lists of elements are equal. -/
def sameElements : List Element → List Element → Bool
  | [], [] => true
  | a :: as, b :: bs => a.sameAs b && sameElements as bs
  | _, _ => false

/-- Whether two statements are equal. -/
def Stmt.sameAs : Stmt → Stmt → Bool
  | .expr a, .expr b => a.sameAs b
  | .assign as bs, .assign cs ds => sameExprs as cs && sameExprs bs ds
  | .ret as, .ret bs => sameExprs as bs
  | .block as, .block bs => sameStmts as bs
  | .cond a as bs, .cond b cs ds => a.sameAs b && sameStmts as cs && sameStmts bs ds
  | _, _ => false

/-- Whether two lists of statements are equal. -/
def sameStmts : List Stmt → List Stmt → Bool
  | [], [] => true
  | a :: as, b :: bs => a.sameAs b && sameStmts as bs
  | _, _ => false

end

instance : BEq Expr := ⟨Expr.sameAs⟩

instance : BEq Stmt := ⟨Stmt.sameAs⟩

end BindingAudit
