/-
# Writing snapshots

Every part of a snapshot as a self-describing value: records with their fields under their names
and in order, choices by the name of the variant, identifiers as numbers.
-/
import BindingAudit.Audit.Snapshot
import BindingAudit.Codec.Wire
import BindingAudit.Diagnostic

namespace BindingAudit

variable {τ : Type} (d : Dialect τ)

/-! ## Identifiers and places -/

/-- A 32-bit number. -/
def word32 (n : UInt32) : Wire τ := .natural n.toNat

/-- A type identifier. -/
def TypeId.toWire (id : TypeId) : Wire τ := word32 id.raw

/-- A declaration identifier. -/
def DeclId.toWire (id : DeclId) : Wire τ := word32 id.raw

/-- An expression identifier. -/
def ExprId.toWire (id : ExprId) : Wire τ := word32 id.raw

/-- A scope identifier. -/
def ScopeId.toWire (id : ScopeId) : Wire τ := word32 id.raw

/-- A span. -/
def Span.toWire (s : Span) : Wire τ :=
  d.record [("line", word32 s.line), ("column", word32 s.column)]

/-- A position. -/
def Position.toWire (p : Position) : Wire τ :=
  d.record [("file", d.text p.file), ("line", word32 p.line), ("column", word32 p.column)]

/-- A diagnostic. -/
def Diagnostic.toWire (x : Diagnostic) : Wire τ :=
  d.record [("position", x.position.toWire d), ("category", d.text x.category.tag),
    ("message", d.text x.message)]

/-! ## Types and declarations -/

/-- A field. -/
def Field.toWire (f : Field) : Wire τ :=
  d.record [("name", d.text f.name), ("ty", f.ty.toWire), ("tag", Dialect.option d.text f.tag),
    ("embedded", .flag f.embedded)]

/-- A method. -/
def Method.toWire (m : Method) : Wire τ :=
  d.record [("name", d.text m.name), ("pointer_receiver", .flag m.pointerReceiver),
    ("decl", Dialect.option DeclId.toWire m.decl)]

/-- A named type. -/
def NamedType.toWire (n : NamedType) : Wire τ :=
  d.record [("module", d.text n.module), ("name", d.text n.name),
    ("underlying", Dialect.option TypeId.toWire n.underlying),
    ("methods", .list (n.methods.map (Method.toWire d)))]

/-- A signature. -/
def Signature.toWire (s : Signature) : Wire τ :=
  d.record [("params", .list (s.params.map TypeId.toWire)),
    ("results", .list (s.results.map TypeId.toWire)), ("variadic", .flag s.variadic)]

/-- An entry of a type table. -/
def TypeKind.toWire : TypeKind → Wire τ
  | .basic b => d.variant "Basic" (d.text b.tag)
  | .named n => d.variant "Named" (n.toWire d)
  | .pointer elem => d.variant "Pointer" elem.toWire
  | .slice elem => d.variant "Slice" elem.toWire
  | .array elem len =>
      d.variant "Array" (d.record [("elem", elem.toWire), ("len", .natural len.toNat)])
  | .map key value => d.variant "Map" (d.record [("key", key.toWire), ("value", value.toWire)])
  | .struct fields => d.variant "Struct" (.list (fields.map (Field.toWire d)))
  | .interface methods => d.variant "Interface" (.list (methods.map d.text))
  | .signature s => d.variant "Signature" (s.toWire d)
  | .chan elem => d.variant "Chan" elem.toWire

/-- A type table. -/
def TypeTable.toWire (t : TypeTable) : Wire τ :=
  d.record [("kinds", .list (t.kinds.map (TypeKind.toWire d)))]

/-- A declaration. -/
def Declaration.toWire (x : Declaration) : Wire τ :=
  d.record [("id", x.id.toWire), ("name", d.text x.name), ("module", d.text x.module),
    ("receiver", Dialect.option TypeId.toWire x.receiver), ("signature", x.signature.toWire d),
    ("ty", x.ty.toWire), ("span", x.span.toWire d)]

/-- The definitions of a program. -/
def Definitions.toWire (x : Definitions) : Wire τ :=
  d.record [("types", x.types.toWire d), ("decls", .list (x.decls.map (Declaration.toWire d)))]

/-! ## Scopes -/

/-- An object. -/
def Object.toWire : Object → Wire τ
  | .func decl => d.variant "Func" decl.toWire
  | .var name ty => d.variant "Var" (d.record [("name", d.text name), ("ty", ty.toWire)])
  | .module name path =>
      d.variant "Module" (d.record [("name", d.text name), ("path", d.text path)])
  | .typeName ty => d.variant "TypeName" ty.toWire

/-- A scope. -/
def Scope.toWire (s : Scope) : Wire τ :=
  d.record [("parent", Dialect.option ScopeId.toWire s.parent),
    ("names", d.nameTable (Object.toWire d) s.names)]

/-- A scope tree. -/
def ScopeTree.toWire (t : ScopeTree) : Wire τ :=
  d.record [("scopes", .list (t.scopes.map (Scope.toWire d)))]

/-! ## Syntax trees -/

/-- An expression, given its node and its kind. -/
def Node.toWire (n : Node) (kind : Wire τ) : Wire τ :=
  d.record [("id", n.id.toWire), ("span", n.span.toWire d), ("kind", kind)]

mutual

/-- An expression. -/
def Expr.toWire : Expr → Wire τ
  | .ident n name => n.toWire d (d.variant "Ident" (d.text name))
  | .selector n base selected => n.toWire d (d.variant "Selector"
      (d.record [("base", base.toWire), ("selected", selected.toWire)]))
  | .call n callee args spread => n.toWire d (d.variant "Call"
      (d.record [("callee", callee.toWire), ("args", .list (wireExprs args)),
        ("spread", .flag spread)]))
  | .literal n kind value => n.toWire d (d.variant "Literal"
      (d.record [("kind", d.text kind.tag), ("value", d.text value)]))
  | .composite n type elements => n.toWire d (d.variant "Composite"
      (d.record [("ty", wireOption type), ("elements", .list (wireElements elements))]))
  | .unary n op operand => n.toWire d (d.variant "Unary"
      (d.record [("op", d.text op.tag), ("operand", operand.toWire)]))
  | .star n inner => n.toWire d (d.variant "Star" inner.toWire)
  | .paren n inner => n.toWire d (d.variant "Paren" inner.toWire)
  | .closure n body => n.toWire d (d.variant "FuncLit" (.list (wireStmts body)))

/-- An expression that may be missing. -/
def wireOption : Option Expr → Wire τ
  | none => .null
  | some e => e.toWire

/-- A list of expressions. -/
def wireExprs : List Expr → List (Wire τ)
  | [] => []
  | e :: es => e.toWire :: wireExprs es

/-- An element of a composite literal. -/
def Element.toWire : Element → Wire τ
  | .mk key value => d.record [("key", wireOption key), ("value", value.toWire)]

/-- A list of elements. -/
def wireElements : List Element → List (Wire τ)
  | [] => []
  | e :: es => e.toWire :: wireElements es

/-- A statement. -/
def Stmt.toWire : Stmt → Wire τ
  | .expr e => d.variant "Expr" e.toWire
  | .assign lhs rhs => d.variant "Assign"
      (d.record [("lhs", .list (wireExprs lhs)), ("rhs", .list (wireExprs rhs))])
  | .ret values => d.variant "Return" (.list (wireExprs values))
  | .block body => d.variant "Block" (.list (wireStmts body))
  | .cond test thenBody elseBody => d.variant "If"
      (d.record [("cond", test.toWire), ("then", .list (wireStmts thenBody)),
        ("otherwise", .list (wireStmts elseBody))])

/-- A list of statements. -/
def wireStmts : List Stmt → List (Wire τ)
  | [] => []
  | s :: ss => s.toWire :: wireStmts ss

end

/-! ## Files, units and snapshots -/

/-- An import. -/
def Import.toWire (i : Import) : Wire τ :=
  d.record [("alias", Dialect.option d.text i.givenName), ("path", d.text i.path),
    ("span", i.span.toWire d)]

/-- A function. -/
def FunctionDef.toWire (f : FunctionDef) : Wire τ :=
  d.record [("name", d.text f.name), ("decl", Dialect.option DeclId.toWire f.decl),
    ("body", .list (wireStmts d f.body)), ("span", f.span.toWire d)]

/-- A file. -/
def SourceFile.toWire (f : SourceFile) : Wire τ :=
  d.record [("name", d.text f.name), ("imports", .list (f.imports.map (Import.toWire d))),
    ("functions", .list (f.functions.map (FunctionDef.toWire d)))]

/-- What is known about expressions. -/
def Annotations.toWire (i : Annotations) : Wire τ :=
  d.record [("types", d.idTable ExprId.index TypeId.toWire i.types),
    ("uses", d.idTable ExprId.index (Object.toWire d) i.uses),
    ("scopes", d.idTable ExprId.index ScopeId.toWire i.scopes)]

/-- A unit. -/
def CompilationUnit.toWire (u : CompilationUnit) : Wire τ :=
  d.record [("module", d.text u.module), ("files", .list (u.files.map (SourceFile.toWire d))),
    ("info", u.info.toWire d), ("scopes", u.scopes.toWire d),
    ("dependencies", .list (u.dependencies.map d.text))]

/-- A snapshot. -/
def Snapshot.toWire (s : Snapshot) : Wire τ :=
  d.record [("universe", s.defs.toWire d),
    ("units", .list (s.units.map (CompilationUnit.toWire d)))]

end BindingAudit
