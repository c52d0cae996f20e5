/-
# Reading snapshots

Every part of a snapshot from a self-describing value. A field may be left out only if its value
may be missing.
-/
import BindingAudit.Audit.Snapshot
import BindingAudit.Codec.Wire
import BindingAudit.Diagnostic

namespace BindingAudit

open Dialect (Reader many? optionalField?)

variable {τ : Type} (d : Dialect τ)

/-! ## Identifiers and places -/

/-- A type identifier. -/
def TypeId.ofWire? : Reader τ TypeId := fun _ w => w.word32?.map TypeId.mk

/-- A declaration identifier. -/
def DeclId.ofWire? : Reader τ DeclId := fun _ w => w.word32?.map DeclId.mk

/-- An expression identifier. -/
def ExprId.ofWire? : Reader τ ExprId := fun _ w => w.word32?.map ExprId.mk

/-- A scope identifier. -/
def ScopeId.ofWire? : Reader τ ScopeId := fun _ w => w.word32?.map ScopeId.mk

/-- A text. -/
def readText : Reader τ String := fun _ w => d.text? w

/-- A span. -/
def Span.ofWire? : Reader τ Span := fun room w =>
  match d.record? ["line", "column"] room w with
  | some ([some line, some column], _) => do
      return { line := ← line.word32?, column := ← column.word32? }
  | _ => none

/-- A category of diagnostics. -/
def Category.ofWire? : Reader τ Category := d.constant? Category.tag Category.all

/-! ## Types and declarations -/

/-- A field. -/
def Field.ofWire? : Reader τ Field := fun room w =>
  match d.record? ["name", "ty", "tag", "embedded"] room w with
  | some ([some name, some ty, tag, some embedded], room) => do
      return {
        name := ← d.text? name
        ty := ← TypeId.ofWire? room ty
        tag := ← optionalField? (readText d) room tag
        embedded := ← embedded.flag? }
  | _ => none

/-- A method. -/
def Method.ofWire? : Reader τ Method := fun room w =>
  match d.record? ["name", "pointer_receiver", "decl"] room w with
  | some ([some name, some pointerReceiver, decl], room) => do
      return {
        name := ← d.text? name
        pointerReceiver := ← pointerReceiver.flag?
        decl := ← optionalField? DeclId.ofWire? room decl }
  | _ => none

/-- A named type. -/
def NamedType.ofWire? : Reader τ NamedType := fun room w =>
  match d.record? ["module", "name", "underlying", "methods"] room w with
  | some ([some module, some name, underlying, some methods], room) => do
      return {
        module := ← d.text? module
        name := ← d.text? name
        underlying := ← optionalField? TypeId.ofWire? room underlying
        methods := ← many? (Method.ofWire? d) room methods }
  | _ => none

/-- A signature. -/
def Signature.ofWire? : Reader τ Signature := fun room w =>
  match d.record? ["params", "results", "variadic"] room w with
  | some ([some params, some results, some variadic], room) => do
      return {
        params := ← many? TypeId.ofWire? room params
        results := ← many? TypeId.ofWire? room results
        variadic := ← variadic.flag? }
  | _ => none

/-- The names of the kinds of types. -/
def TypeKind.tags : List String :=
  ["Basic", "Named", "Pointer", "Slice", "Array", "Map", "Struct", "Interface", "Signature",
   "Chan"]

/-- An entry of a type table. -/
def TypeKind.ofWire? : Reader τ TypeKind := fun room w =>
  match d.choice? TypeKind.tags room w with
  | some ("Basic", some p, room) =>
      (d.constant? Predeclared.tag Predeclared.all room p).map .basic
  | some ("Named", some p, room) => (NamedType.ofWire? d room p).map .named
  | some ("Pointer", some p, room) => (TypeId.ofWire? room p).map .pointer
  | some ("Slice", some p, room) => (TypeId.ofWire? room p).map .slice
  | some ("Array", some p, room) =>
      match d.record? ["elem", "len"] room p with
      | some ([some elem, some len], room) => do
          return .array (← TypeId.ofWire? room elem) (← len.word64?)
      | _ => none
  | some ("Map", some p, room) =>
      match d.record? ["key", "value"] room p with
      | some ([some key, some value], room) => do
          return .map (← TypeId.ofWire? room key) (← TypeId.ofWire? room value)
      | _ => none
  | some ("Struct", some p, room) => (many? (Field.ofWire? d) room p).map .struct
  | some ("Interface", some p, room) => (many? (readText d) room p).map .interface
  | some ("Signature", some p, room) => (Signature.ofWire? d room p).map .signature
  | some ("Chan", some p, room) => (TypeId.ofWire? room p).map .chan
  | _ => none

/-- A type table. -/
def TypeTable.ofWire? : Reader τ TypeTable := fun room w =>
  match d.record? ["kinds"] room w with
  | some ([some kinds], room) => (many? (TypeKind.ofWire? d) room kinds).map TypeTable.mk
  | _ => none

/-- A declaration. -/
def Declaration.ofWire? : Reader τ Declaration := fun room w =>
  match d.record? ["id", "name", "module", "receiver", "signature", "ty", "span"] room w with
  | some ([some id, some name, some module, receiver, some signature, some ty, some span],
      room) => do
      return {
        id := ← DeclId.ofWire? room id
        name := ← d.text? name
        module := ← d.text? module
        receiver := ← optionalField? TypeId.ofWire? room receiver
        signature := ← Signature.ofWire? d room signature
        ty := ← TypeId.ofWire? room ty
        span := ← Span.ofWire? d room span }
  | _ => none

/-- The definitions of a program. -/
def Definitions.ofWire? : Reader τ Definitions := fun room w =>
  match d.record? ["types", "decls"] room w with
  | some ([some types, some decls], room) => do
      return {
        types := ← TypeTable.ofWire? d room types
        decls := ← many? (Declaration.ofWire? d) room decls }
  | _ => none

/-! ## Scopes -/

/-- An object. -/
def Object.ofWire? : Reader τ Object := fun room w =>
  match d.choice? ["Func", "Var", "Module", "TypeName"] room w with
  | some ("Func", some p, room) => (DeclId.ofWire? room p).map .func
  | some ("Var", some p, room) =>
      match d.record? ["name", "ty"] room p with
      | some ([some name, some ty], room) => do
          return .var (← d.text? name) (← TypeId.ofWire? room ty)
      | _ => none
  | some ("Module", some p, room) =>
      match d.record? ["name", "path"] room p with
      | some ([some name, some path], _) => do return .module (← d.text? name) (← d.text? path)
      | _ => none
  | some ("TypeName", some p, room) => (TypeId.ofWire? room p).map .typeName
  | _ => none

/-- A scope. -/
def Scope.ofWire? : Reader τ Scope := fun room w =>
  match d.record? ["parent", "names"] room w with
  | some ([parent, some names], room) => do
      return {
        parent := ← optionalField? ScopeId.ofWire? room parent
        names := ← d.nameTable? (Object.ofWire? d) room names }
  | _ => none

/-- A scope tree. -/
def ScopeTree.ofWire? : Reader τ ScopeTree := fun room w =>
  match d.record? ["scopes"] room w with
  | some ([some scopes], room) => (many? (Scope.ofWire? d) room scopes).map ScopeTree.mk
  | _ => none

/-! ## Syntax trees

Every second step into a syntax tree enters at least one container, so twice the number of
containers that may be entered bounds the number of steps. -/

/-- The names of the kinds of expressions. -/
def Expr.tags : List String :=
  ["Ident", "Selector", "Call", "Literal", "Composite", "Unary", "Star", "Paren", "FuncLit"]

/-- The names of the kinds of statements. -/
def Stmt.tags : List String := ["Expr", "Assign", "Return", "Block", "If"]

/-- The node of an expression and its kind, still to be read. -/
def readNode : Reader τ (Node × Wire τ × Nat) := fun room w =>
  match d.record? ["id", "span", "kind"] room w with
  | some ([some id, some span, some kind], room) => do
      return (⟨← ExprId.ofWire? room id, ← Span.ofWire? d room span⟩, kind, room)
  | _ => none

/-- An element of a composite literal, given how expressions are read. -/
def readElement (readExpr : Reader τ Expr) : Reader τ Element := fun room w =>
  match d.record? ["key", "value"] room w with
  | some ([key, some value], room) => do
      return .mk (← optionalField? readExpr room key) (← readExpr room value)
  | _ => none

/-- The kind of an expression with a given node, given how its parts are read. -/
def readKind (readExpr : Reader τ Expr) (readStmt : Reader τ Stmt) (n : Node) : Reader τ Expr :=
  fun room w =>
  match d.choice? Expr.tags room w with
  | some ("Ident", some p, _) => (d.text? p).map (.ident n)
  | some ("Selector", some p, room) =>
      match d.record? ["base", "selected"] room p with
      | some ([some base, some selected], room) => do
          return .selector n (← readExpr room base) (← readExpr room selected)
      | _ => none
  | some ("Call", some p, room) =>
      match d.record? ["callee", "args", "spread"] room p with
      | some ([some callee, some args, some spread], room) => do
          return .call n (← readExpr room callee) (← many? readExpr room args) (← spread.flag?)
      | _ => none
  | some ("Literal", some p, room) =>
      match d.record? ["kind", "value"] room p with
      | some ([some kind, some value], room) => do
          return .literal n (← d.constant? LiteralKind.tag LiteralKind.all room kind)
            (← d.text? value)
      | _ => none
  | some ("Composite", some p, room) =>
      match d.record? ["ty", "elements"] room p with
      | some ([type, some elements], room) => do
          return .composite n (← optionalField? readExpr room type)
            (← many? (readElement d readExpr) room elements)
      | _ => none
  | some ("Unary", some p, room) =>
      match d.record? ["op", "operand"] room p with
      | some ([some op, some operand], room) => do
          return .unary n (← d.constant? UnaryOp.tag UnaryOp.all room op) (← readExpr room operand)
      | _ => none
  | some ("Star", some p, room) => (readExpr room p).map (.star n)
  | some ("Paren", some p, room) => (readExpr room p).map (.paren n)
  | some ("FuncLit", some p, room) => (many? readStmt room p).map (.closure n)
  | _ => none

/-- A statement, given how its parts are read. -/
def readStmtKind (readExpr : Reader τ Expr) (readStmt : Reader τ Stmt) : Reader τ Stmt :=
  fun room w =>
  match d.choice? Stmt.tags room w with
  | some ("Expr", some p, room) => (readExpr room p).map .expr
  | some ("Assign", some p, room) =>
      match d.record? ["lhs", "rhs"] room p with
      | some ([some lhs, some rhs], room) => do
          return .assign (← many? readExpr room lhs) (← many? readExpr room rhs)
      | _ => none
  | some ("Return", some p, room) => (many? readExpr room p).map .ret
  | some ("Block", some p, room) => (many? readStmt room p).map .block
  | some ("If", some p, room) =>
      match d.record? ["cond", "then", "otherwise"] room p with
      | some ([some test, some thenBody, some elseBody], room) => do
          return .cond (← readExpr room test) (← many? readStmt room thenBody)
            (← many? readStmt room elseBody)
      | _ => none
  | _ => none

mutual

/-- An expression, in at most `steps` steps into its parts. -/
def readExprWithin : Nat → Reader τ Expr
  | 0, _, _ => none
  | steps + 1, room, w =>
      (readNode d room w).bind fun (n, kind, room) =>
        readKind d (readExprWithin steps) (readStmtWithin steps) n room kind

/-- A statement, in at most `steps` steps into its parts. -/
def readStmtWithin : Nat → Reader τ Stmt
  | 0, _, _ => none
  | steps + 1, room, w =>
      readStmtKind d (readExprWithin steps) (readStmtWithin steps) room w

end

/-- An expression. -/
def Expr.ofWire? : Reader τ Expr := fun room w => readExprWithin d (2 * room + 2) room w

/-- A statement. -/
def Stmt.ofWire? : Reader τ Stmt := fun room w => readStmtWithin d (2 * room + 2) room w

/-! ## Files, units and snapshots -/

/-- An import. -/
def Import.ofWire? : Reader τ Import := fun room w =>
  match d.record? ["alias", "path", "span"] room w with
  | some ([givenName, some path, some span], room) => do
      return {
        givenName := ← optionalField? (readText d) room givenName
        path := ← d.text? path
        span := ← Span.ofWire? d room span }
  | _ => none

/-- A function. -/
def FunctionDef.ofWire? : Reader τ FunctionDef := fun room w =>
  match d.record? ["name", "decl", "body", "span"] room w with
  | some ([some name, decl, some body, some span], room) => do
      return {
        name := ← d.text? name
        decl := ← optionalField? DeclId.ofWire? room decl
        body := ← many? (Stmt.ofWire? d) room body
        span := ← Span.ofWire? d room span }
  | _ => none

/-- A file. -/
def SourceFile.ofWire? : Reader τ SourceFile := fun room w =>
  match d.record? ["name", "imports", "functions"] room w with
  | some ([some name, some imports, some functions], room) => do
      return {
        name := ← d.text? name
        imports := ← many? (Import.ofWire? d) room imports
        functions := ← many? (FunctionDef.ofWire? d) room functions }
  | _ => none

/-- What is known about expressions. -/
def Annotations.ofWire? : Reader τ Annotations := fun room w =>
  match d.record? ["types", "uses", "scopes"] room w with
  | some ([some types, some uses, some scopes], room) => do
      return {
        types := ← d.idTable? ExprId.mk TypeId.ofWire? room types
        uses := ← d.idTable? ExprId.mk (Object.ofWire? d) room uses
        scopes := ← d.idTable? ExprId.mk ScopeId.ofWire? room scopes }
  | _ => none

/-- A unit. -/
def CompilationUnit.ofWire? : Reader τ CompilationUnit := fun room w =>
  match d.record? ["module", "files", "info", "scopes", "dependencies"] room w with
  | some ([some module, some files, some info, some scopes, some dependencies], room) => do
      return {
        module := ← d.text? module
        files := ← many? (SourceFile.ofWire? d) room files
        info := ← Annotations.ofWire? d room info
        scopes := ← ScopeTree.ofWire? d room scopes
        dependencies := ← many? (readText d) room dependencies }
  | _ => none

/-- A snapshot. -/
def Snapshot.ofWire? : Reader τ Snapshot := fun room w =>
  match d.record? ["universe", "units"] room w with
  | some ([some defs, some units], room) => do
      return {
        defs := ← Definitions.ofWire? d room defs
        units := ← many? (CompilationUnit.ofWire? d) room units }
  | _ => none

end BindingAudit
