/-
# Callees that are static references

A callee that is not a string literal is resolved through the identifier at its core. An expression
that is built only from identifiers, selectors, parentheses, `*` and `&` is a reference to what that
identifier stands for. In every other expression something is computed at run time, be it a call, a
composite literal, an operator other than `&`, or a part that is a literal.

Resolution looks at the identifier only. As long as no function stands at the core of an expression
in which something is computed, it resolves string literals and references to functions and nothing
else. A call of a function, however, is resolved to the function that is called, as if that were the
callee, and so is a method of what the call returns to the method.

* `Expr.namingIdent?_eq_some_iff` : the identifier at the core of an expression;
* `Expr.not_isReference_iff` : what is no reference computes something;
* `Scene.resolve_eq_resolved_iff_core` : what is resolved, and to what;
* `Scene.resolve_static` : only static references are, but for what is computed from a function;
* `Scene.pickCall_resolved` : a call of a function is resolved, and a method of what it returns.
-/
import BindingAudit.Proofs.LiteralNames

namespace BindingAudit

namespace Expr

/-! ## References and values -/

/-- `i.Names e` : the identifier `i` stands at the core of the expression `e`. Of a selector the part
that is selected counts, of a call the callee, and of a composite literal the type. -/
inductive Names (i : Expr) : Expr → Prop where
  | ident (node : Node) (name : String) (h : i = .ident node name) : Names i (.ident node name)
  | selector (node : Node) (base : Expr) {selected : Expr} (h : Names i selected) :
      Names i (.selector node base selected)
  | star (node : Node) {inner : Expr} (h : Names i inner) : Names i (.star node inner)
  | paren (node : Node) {inner : Expr} (h : Names i inner) : Names i (.paren node inner)
  | unary (node : Node) (op : UnaryOp) {operand : Expr} (h : Names i operand) :
      Names i (.unary node op operand)
  | call (node : Node) {callee : Expr} (args : List Expr) (spread : Bool) (h : Names i callee) :
      Names i (.call node callee args spread)
  | composite (node : Node) {type : Expr} (elements : List Element) (h : Names i type) :
      Names i (.composite node (some type) elements)

/-- An expression that is built only from identifiers, selectors, parentheses, `*` and `&`. -/
inductive IsReference : Expr → Prop where
  | ident (node : Node) (name : String) : IsReference (.ident node name)
  | selector (node : Node) {base selected : Expr} (hbase : IsReference base)
      (hselected : IsReference selected) : IsReference (.selector node base selected)
  | star (node : Node) {inner : Expr} (h : IsReference inner) : IsReference (.star node inner)
  | paren (node : Node) {inner : Expr} (h : IsReference inner) : IsReference (.paren node inner)
  | addr (node : Node) {operand : Expr} (h : IsReference operand) :
      IsReference (.unary node .addr operand)

/-- An expression with something in it that is no reference: a call, a literal of some sort or an
operator other than `&`, be it the expression itself, an operand, or on either side of a selector. -/
inductive Computes : Expr → Prop where
  | call (node : Node) (callee : Expr) (args : List Expr) (spread : Bool) :
      Computes (.call node callee args spread)
  | composite (node : Node) (type : Option Expr) (elements : List Element) :
      Computes (.composite node type elements)
  | closure (node : Node) (body : List Stmt) : Computes (.closure node body)
  | literal (node : Node) (kind : LiteralKind) (value : String) :
      Computes (.literal node kind value)
  | operator (node : Node) {op : UnaryOp} (operand : Expr) (h : op ≠ .addr) :
      Computes (.unary node op operand)
  | operand (node : Node) (op : UnaryOp) {operand : Expr} (h : Computes operand) :
      Computes (.unary node op operand)
  | star (node : Node) {inner : Expr} (h : Computes inner) : Computes (.star node inner)
  | paren (node : Node) {inner : Expr} (h : Computes inner) : Computes (.paren node inner)
  | base (node : Node) {base : Expr} (selected : Expr) (h : Computes base) :
      Computes (.selector node base selected)
  | selected (node : Node) (base : Expr) {selected : Expr} (h : Computes selected) :
      Computes (.selector node base selected)

/-- A static reference to what the identifier `i` stands for. -/
def RefersTo (e i : Expr) : Prop := e.IsReference ∧ i.Names e

/-- A value that is computed at run time, with the identifier `i` at its core. -/
def IsComputedFrom (e i : Expr) : Prop := e.Computes ∧ i.Names e

/-- An expression that, apart from parentheses, is a call, a composite literal, a function literal
or an operation other than taking an address. -/
def IsComputed (e : Expr) : Prop :=
  match e.stripParens with
  | .call _ _ _ _ | .composite _ _ _ | .closure _ _ => True
  | .unary _ op _ => op ≠ .addr
  | .ident _ _ | .selector _ _ _ | .literal _ _ _ | .star _ _ | .paren _ _ => False

variable {e i : Expr}

/-- **The identifier at the core** is the one that names the expression. -/
theorem namingIdent?_eq_some_iff : e.namingIdent? = some i ↔ i.Names e := by
  constructor
  · intro h
    -- one case for each kind of expression that has a name
    fun_induction namingIdent? e with
    | case1 node name =>
      cases h
      exact .ident node name rfl
    | case2 node base selected ih => exact .selector node base (ih h)
    | case3 node inner ih => exact .star node (ih h)
    | case4 node inner ih => exact .paren node (ih h)
    | case5 node op operand ih => exact .unary node op (ih h)
    | case6 node callee args spread ih => exact .call node args spread (ih h)
    | case7 node type elements ih => exact .composite node elements (ih h)
    | case8 | case9 | case10 => cases h
  · intro hnames
    induction hnames with
    | ident node name h => rw [h, namingIdent?]
    | selector _ _ _ ih | star _ _ ih | paren _ _ ih | unary _ _ _ ih | call _ _ _ _ ih
    | composite _ _ _ ih =>
      rw [namingIdent?]
      exact ih

/-- A reference computes nothing. -/
theorem Computes.not_isReference (h : e.Computes) : ¬ e.IsReference := by
  induction h with
  | call | composite | closure | literal =>
    rintro ⟨⟩
  | operator _ _ hop =>
    rintro ⟨⟩
    exact hop rfl
  | operand _ _ _ ih | star _ _ ih | paren _ _ ih =>
    intro href
    cases href
    exact ih ‹_›
  | base _ _ _ ih =>
    rintro ⟨⟩
    exact ih ‹_›
  | selected _ _ _ ih =>
    rintro ⟨⟩
    exact ih ‹_›

/-- Every expression is a reference or computes something. -/
theorem isReference_or_computes : ∀ e : Expr, e.IsReference ∨ e.Computes
  | .ident node name => .inl (.ident node name)
  | .selector node base selected => by
    obtain hbase | hbase := isReference_or_computes base
    · obtain hselected | hselected := isReference_or_computes selected
      · exact .inl (.selector node hbase hselected)
      · exact .inr (.selected node base hselected)
    · exact .inr (.base node selected hbase)
  | .star node inner =>
    (isReference_or_computes inner).imp (.star node) (.star node)
  | .paren node inner =>
    (isReference_or_computes inner).imp (.paren node) (.paren node)
  | .unary node op operand => by
    by_cases hop : op = .addr
    · subst hop
      exact (isReference_or_computes operand).imp (.addr node) (.operand node .addr)
    · exact .inr (.operator node operand hop)
  | .call node callee args spread => .inr (.call node callee args spread)
  | .literal node kind value => .inr (.literal node kind value)
  | .composite node type elements => .inr (.composite node type elements)
  | .closure node body => .inr (.closure node body)

/-- **What is no reference computes something.** -/
theorem not_isReference_iff : ¬ e.IsReference ↔ e.Computes :=
  ⟨(isReference_or_computes e).resolve_left, Computes.not_isReference⟩

/-- Parentheses do not change what names an expression. -/
theorem namingIdent?_stripParens (e : Expr) : e.stripParens.namingIdent? = e.namingIdent? := by
  fun_induction stripParens e with
  | case1 node inner ih => rw [ih, namingIdent?]
  | case2 e hparen => rfl

theorem isStringLiteral_iff {text : String} :
    e.IsStringLiteral text ↔ e.literalText? = some text := by
  refine ⟨IsStringLiteral.literalText?, ?_⟩
  intro h
  unfold literalText? at h
  fun_induction stripParens e with
  | case1 node inner ih => exact .paren node (ih h)
  | case2 e hparen =>
    split at h
    · cases h
      exact .literal _
    · cases h

/-- String literals name nothing. -/
theorem namingIdent?_of_literalText? {text : String} (h : e.literalText? = some text) :
    e.namingIdent? = none := by
  rw [← namingIdent?_stripParens]
  unfold literalText? at h
  split at h
  · rename_i heq
    rw [heq, namingIdent?]
  · cases h

/-- Function literals name nothing. -/
theorem namingIdent?_of_isClosure (h : e.isClosure = true) : e.namingIdent? = none := by
  rw [← namingIdent?_stripParens]
  unfold isClosure at h
  split at h
  · rename_i heq
    rw [heq, namingIdent?]
  · cases h

/-- What is computed is no string literal. -/
theorem IsComputed.literalText? (h : e.IsComputed) : e.literalText? = none := by
  unfold IsComputed at h
  unfold Expr.literalText?
  cases hstrip : e.stripParens with
  | literal node kind value =>
    rw [hstrip] at h
    cases h
  | _ => rfl

/-- Parentheses around a computed expression change nothing. -/
theorem IsComputed.computes (h : e.IsComputed) : e.Computes := by
  unfold IsComputed at h
  fun_induction stripParens e with
  | case1 node inner ih => exact .paren node (ih h)
  | case2 e hparen =>
    cases e with
    | call node callee args spread => exact .call node callee args spread
    | composite node type elements => exact .composite node type elements
    | closure node body => exact .closure node body
    | unary node op operand => exact .operator node operand h
    | ident | selector | literal | star | paren => cases h

end Expr

/-! ## What is resolved -/

namespace Scene

variable {scene : Scene} {form : InvocationForm} {e : Expr} {d : Declaration}

/-- The recorded object of an identifier is a function with the declaration `d`. -/
def StandsFor (scene : Scene) (i : Expr) (d : Declaration) : Prop :=
  ∃ id, scene.unit.info.recordedObject? i = some (.func id) ∧ scene.defs.decl? id = some d

/-- A callee that is no string literal is resolved through the identifier at its core. -/
theorem resolve_eq_resolved_iff_names (hliteral : e.literalText? = none) :
    scene.resolve form e = .resolved d ↔ ∃ i, i.Names e ∧ scene.StandsFor i d := by
  simp only [← Expr.namingIdent?_eq_some_iff, resolve, hliteral]
  cases hnames : e.namingIdent? with
  | none => simp
  | some i =>
    have hclosure : e.isClosure = false := by
      rw [← Bool.not_eq_true]
      intro hclosure
      rw [Expr.namingIdent?_of_isClosure hclosure] at hnames
      cases hnames
    simp only [hclosure, Bool.false_eq_true, if_false, Option.some.injEq, exists_eq_left',
      StandsFor]
    cases scene.unit.info.recordedObject? i with
    | none => simp
    | some object =>
      cases object with
      | func id => cases hdecl : scene.defs.decl? id <;> simp [hdecl]
      | _ => simp

/-- **What is resolved, and to what.** A string literal is resolved to what is registered under its
text; any other callee to the function that the identifier at its core stands for, whatever is
computed around that. -/
theorem resolve_eq_resolved_iff_core :
    scene.resolve form e = .resolved d ↔
      (∃ text, e.IsStringLiteral text ∧ scene.findRegistered? form.role text = some d) ∨
        ∃ i, i.Names e ∧ scene.StandsFor i d := by
  cases hliteral : e.literalText? with
  | none =>
    rw [resolve_eq_resolved_iff_names hliteral]
    simp [Expr.isStringLiteral_iff, hliteral]
  | some text =>
    rw [resolve_eq_resolved_iff (Expr.isStringLiteral_iff.2 hliteral)]
    simp [Expr.isStringLiteral_iff, hliteral, ← Expr.namingIdent?_eq_some_iff,
      Expr.namingIdent?_of_literalText? hliteral]

/-- **Only static references are resolved**, unless a value is computed from a function. If no
function stands at the core of a callee in which something is computed, the callees that are resolved
are the string literals that are registered and the static references to functions, and a callee that
is computed at run time is not resolved. -/
theorem resolve_static (scene : Scene) (form : InvocationForm) (e : Expr)
    (hvalues : ∀ i d, e.IsComputedFrom i → ¬ scene.StandsFor i d) :
    (∀ d, scene.resolve form e = .resolved d ↔
      (∃ text, e.IsStringLiteral text ∧ scene.findRegistered? form.role text = some d) ∨
        ∃ i, e.RefersTo i ∧ scene.StandsFor i d) ∧
      (e.IsComputed → ∃ reason, scene.resolve form e = .unresolved reason) := by
  constructor
  · intro d
    rw [resolve_eq_resolved_iff_core]
    refine or_congr_right (exists_congr fun i => and_congr_left fun hfunc => ?_)
    constructor
    · intro hnames
      have href : e.IsReference := by
        by_contra hno
        exact hvalues i d ⟨Expr.not_isReference_iff.1 hno, hnames⟩ hfunc
      exact ⟨href, hnames⟩
    · exact And.right
  · intro hcomputed
    cases h : scene.resolve form e with
    | unresolved reason => exact ⟨reason, rfl⟩
    | resolved d =>
      exfalso
      obtain ⟨i, hnames, hfunc⟩ := (resolve_eq_resolved_iff_names hcomputed.literalText?).1 h
      exact hvalues i d ⟨hcomputed.computes, hnames⟩ hfunc

/-- A unit in which the identifier 0 is a function `pick` that returns a `Greeter`, the identifier 1 a
variable, and the identifier 6 the method `Greet` of `Greeter`. -/
def pickScene : Scene where
  defs :=
    ({ Definitions.predeclared with
        types := Definitions.predeclared.types.add (.named ⟨"app", "Greeter", none, []⟩) }
      |>.declareFunction "app" "pick" ⟨[], [⟨19⟩], false⟩
      |>.declareMethod ⟨19⟩ false "Greet" ⟨[], [], false⟩)
  unit :=
    { CompilationUnit.empty "app" with
      info := { Annotations.empty with
        uses := ((FinMap.empty.insert ⟨0⟩ (.func ⟨0⟩)).insert ⟨1⟩
          (.var "handler" (TypeTable.basic .string))).insert ⟨6⟩ (.func ⟨1⟩) } }
  registry := .empty "app"
  dependencies := []
  conventions := .temporal

/-- The call `pick()`. -/
def pickCall : Expr := .call ⟨⟨2⟩, .start⟩ (.ident ⟨⟨0⟩, .start⟩ "pick") [] false

/-- The method `pick().Greet`. -/
def pickMethod : Expr := .selector ⟨⟨7⟩, .start⟩ pickCall (.ident ⟨⟨6⟩, .start⟩ "Greet")

/-- The call `handler()`. -/
def handlerCall : Expr := .call ⟨⟨2⟩, .start⟩ (.ident ⟨⟨1⟩, .start⟩ "handler") [] false

/-- The reference `&(app.pick)`. -/
def pickReference : Expr :=
  .unary ⟨⟨5⟩, .start⟩ .addr (.paren ⟨⟨4⟩, .start⟩
    (.selector ⟨⟨3⟩, .start⟩ (.ident ⟨⟨2⟩, .start⟩ "app") (.ident ⟨⟨0⟩, .start⟩ "pick")))

/-- A call of the variable is not resolved. A reference to the function is, because it is one. -/
theorem handlerCall_unresolved :
    (∀ i d, handlerCall.IsComputedFrom i → ¬ pickScene.StandsFor i d) ∧
      handlerCall.IsComputed ∧
      (∃ reason, pickScene.resolve .executeActivity handlerCall = .unresolved reason) ∧
      (∀ i d, pickReference.IsComputedFrom i → ¬ pickScene.StandsFor i d) ∧
      ∃ d, pickScene.resolve .executeActivity pickReference = .resolved d ∧ d.name = "pick" := by
  have hvariable : ∀ i d, handlerCall.IsComputedFrom i → ¬ pickScene.StandsFor i d := by
    rintro i d ⟨-, hnames⟩ ⟨id, hid, -⟩
    cases Expr.namingIdent?_eq_some_iff.2 hnames
    cases hid
  have hrefers : pickReference.RefersTo (.ident ⟨⟨0⟩, .start⟩ "pick") :=
    ⟨.addr _ (.paren _ (.selector _ (.ident _ _) (.ident _ _))),
      .unary _ _ (.paren _ (.selector _ _ (.ident _ _ rfl)))⟩
  have hstatic : ∀ i d, pickReference.IsComputedFrom i → ¬ pickScene.StandsFor i d := by
    intro i d hcomputed
    exact absurd hrefers.1 hcomputed.1.not_isReference
  have hcall := resolve_static pickScene .executeActivity handlerCall hvariable
  have hreference := resolve_static pickScene .executeActivity pickReference hstatic
  have hresolved := (hreference.1 _).2 (.inr ⟨_, hrefers, ⟨0⟩, rfl, rfl⟩)
  exact ⟨hvariable, trivial, hcall.2 trivial, hstatic, _, hresolved, rfl⟩

/-- The call of the function is resolved to the function, although what it returns is known at run
time only, and a method of what it returns is resolved to the method. So there are callees that are
resolved and are no static references. -/
theorem pickCall_resolved :
    (pickCall.IsComputed ∧
        ∃ d, pickScene.resolve .executeActivity pickCall = .resolved d ∧ d.name = "pick") ∧
      (¬ pickMethod.IsReference ∧ (∀ text, ¬ pickMethod.IsStringLiteral text) ∧
        ∃ d, pickScene.resolve .executeActivity pickMethod = .resolved d ∧ d.name = "Greet") ∧
      ¬ ∀ (scene : Scene) (form : InvocationForm) (e : Expr),
        (∀ d, scene.resolve form e = .resolved d →
          (∃ text, e.IsStringLiteral text) ∨
            ∃ i id, e.RefersTo i ∧ scene.unit.info.recordedObject? i = some (.func id)) ∧
          (e.IsComputed → ∃ reason, scene.resolve form e = .unresolved reason) := by
  have hcomputes : pickMethod.Computes := .base _ _ (.call _ _ _ _)
  refine ⟨⟨trivial, _, rfl, rfl⟩, ⟨hcomputes.not_isReference, ?_, _, rfl, rfl⟩, ?_⟩
  · rintro text ⟨⟩
  · intro honlyStatic
    obtain ⟨reason, hreason⟩ := (honlyStatic pickScene .executeActivity pickCall).2 trivial
    cases hreason

end Scene

end BindingAudit
