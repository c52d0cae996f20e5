/-
# Drafts of units

A draft is a unit that is made piece by piece. It numbers the expressions, keeps track of the
open scopes, and notes the type and object of every expression made in it, the way a type checker
resolves them against the definitions of the program.

An operation that makes an expression returns it together with the draft after it.
-/
import BindingAudit.Program.CompilationUnit
import BindingAudit.Program.Definitions

namespace BindingAudit

/-- A unit under construction. -/
structure Draft where
  defs : Definitions
  /-- The finished files, and everything else of the unit. -/
  unit : CompilationUnit
  /-- The file being written. -/
  file : SourceFile
  fileScope : ScopeId
  packageScope : ScopeId
  /-- The open scopes inside the file scope, innermost first. -/
  openScopes : List ScopeId
  nextExpr : UInt32
  /-- The place of the nodes made next. -/
  span : Span

namespace Draft

/-! ## Starting and finishing -/

/-- The bindings of the package scope of a module: its functions, then its named types. -/
def packageBindings (defs : Definitions) (module : String) : List (String × Object) :=
  let funcs := defs.decls.filter fun d => d.module == module && !d.isMethod
  let types := defs.types.entries.filterMap fun (id, kind) =>
    match kind with
    | .named n => if n.module == module then some (n.name, .typeName id) else none
    | _ => none
  funcs.map (fun d => (d.name, .func d.id)) ++ types

/-- Starts a unit of `module` whose first file is `fileName`. The package scope binds what the
definitions declare for the module. -/
def start (defs : Definitions) (module fileName : String) : Draft :=
  let blank := CompilationUnit.empty module
  let package := blank.scopes.nextId
  let bound := (packageBindings defs module).foldl
    (fun scopes (name, object) => scopes.insert package name object) (blank.scopes.add none)
  { defs
    unit := { blank with scopes := bound.add (some package) }
    file := .empty fileName
    fileScope := bound.nextId
    packageScope := package
    openScopes := []
    nextExpr := 0
    span := .start }

/-- Closes the current file and starts another. -/
def nextFile (b : Draft) (name : String) : Draft :=
  { b with
    unit := { b.unit with
      files := b.unit.files ++ [b.file]
      scopes := b.unit.scopes.add (some b.packageScope) }
    file := .empty name
    fileScope := b.unit.scopes.nextId
    openScopes := [] }

/-- Finishes the unit. -/
def finish (b : Draft) : CompilationUnit :=
  { b.unit with files := b.unit.files ++ [b.file] }

/-! ## Places, imports, dependencies and scopes -/

/-- Sets the place of the nodes made next. -/
def moveTo (b : Draft) (span : Span) : Draft := { b with span }

/-- The innermost open scope. -/
def innermost (b : Draft) : ScopeId := b.openScopes.headD b.fileScope

/-- Binds a name in a scope of the unit. -/
def bindIn (b : Draft) (scope : ScopeId) (name : String) (object : Object) : Draft :=
  { b with unit := { b.unit with scopes := b.unit.scopes.insert scope name object } }

/-- Imports a module; its local name is bound in the scope of the file. -/
def importModule (b : Draft) (givenName : Option String) (path : String) : Draft :=
  let item : Import := ⟨givenName, path, b.span⟩
  let bound := b.bindIn b.fileScope item.localName (.module item.localName path)
  { bound with file := { b.file with imports := b.file.imports ++ [item] } }

/-- Records that the unit depends on a module. -/
def dependOn (b : Draft) (module : String) : Draft :=
  { b with unit := { b.unit with dependencies := b.unit.dependencies ++ [module] } }

/-- Opens a scope inside the innermost one. -/
def openScope (b : Draft) : Draft :=
  { b with
    unit := { b.unit with scopes := b.unit.scopes.add (some b.innermost) }
    openScopes := b.unit.scopes.nextId :: b.openScopes }

/-- Closes the innermost scope. The file scope stays open. -/
def closeScope (b : Draft) : Draft := { b with openScopes := b.openScopes.tail }

/-- Binds an object in the innermost scope. -/
def bindName (b : Draft) (name : String) (object : Object) : Draft :=
  b.bindIn b.innermost name object

/-- Declares a variable in the innermost scope. -/
def declareVar (b : Draft) (name : String) (ty : TypeId) : Draft :=
  b.bindName name (.var name ty)

/-! ## Expressions -/

/-- The node of the expression made next. -/
def freshNode (b : Draft) : Node := ⟨⟨b.nextExpr⟩, b.span⟩

/-- Uses up the number of one expression. -/
def advance (b : Draft) : Draft := { b with nextExpr := b.nextExpr + 1 }

/-- Records the type of an expression, if it is known. -/
def noteType (b : Draft) (id : ExprId) : Option TypeId → Draft
  | none => b
  | some ty => { b with unit := { b.unit with info := { b.unit.info with
      types := b.unit.info.types.insert id ty } } }

/-- Records the object of an identifier, if it is known. -/
def noteObject (b : Draft) (id : ExprId) : Option Object → Draft
  | none => b
  | some object => { b with unit := { b.unit with info := { b.unit.info with
      uses := b.unit.info.uses.insert id object } } }

/-- Records the scope around an identifier. -/
def noteScope (b : Draft) (id : ExprId) (scope : ScopeId) : Draft :=
  { b with unit := { b.unit with info := { b.unit.info with
      scopes := b.unit.info.scopes.insert id scope } } }

/-- Makes an expression of a known type from its node. -/
def make (b : Draft) (build : Node → Expr) (ty : Option TypeId) : Expr × Draft :=
  (build b.freshNode, b.advance.noteType b.freshNode.id ty)

/-- The recorded type of an expression. -/
def recordedType? (b : Draft) (e : Expr) : Option TypeId := b.unit.info.recordedType? e

/-- The type of an object. -/
def objectType? (b : Draft) : Object → Option TypeId
  | .func decl => (b.defs.decl? decl).map Declaration.ty
  | .var _ ty => some ty
  | .typeName ty => some ty
  | .module _ _ => none

/-- An identifier that refers to a given object, in the innermost scope. -/
def identTo (b : Draft) (name : String) (object : Option Object) : Expr × Draft :=
  let id := b.freshNode.id
  let made := b.make (.ident · name) (object.bind b.objectType?)
  (made.1, (made.2.noteScope id b.innermost).noteObject id object)

/-- An identifier, resolved from the innermost scope outwards. -/
def ident (b : Draft) (name : String) : Expr × Draft :=
  b.identTo name ((b.unit.scopes.lookup b.innermost name).map Prod.snd)

/-- An identifier that could not be resolved. -/
def unknownIdent (b : Draft) (name : String) : Expr × Draft :=
  b.identTo name none

/-- An identifier that names a given function. -/
def reference (b : Draft) (decl : DeclId) : Expr × Draft :=
  b.identTo (((b.defs.decl? decl).map Declaration.name).getD "") (some (.func decl))

/-- The member of a module: a function, or else a named type. -/
def moduleMember? (defs : Definitions) (path name : String) : Option Object :=
  match defs.decls.find? fun d => d.module == path && d.name == name && !d.isMethod with
  | some d => some (.func d.id)
  | none => defs.types.entries.findSome? fun (id, kind) =>
      match kind with
      | .named n => if n.module == path && n.name == name then some (.typeName id) else none
      | _ => none

/-- The member of a value: a declared method, or else a field. -/
def valueMember? (types : TypeTable) (ty : TypeId) (name : String) : Option Object :=
  match ((types.methods ty).find? (·.name == name)).bind Method.decl with
  | some decl => some (.func decl)
  | none => (types.field? ty name).map fun f => .var f.name f.ty

/-- What `name` selects from an expression. -/
def member? (b : Draft) (base : Expr) (name : String) : Option Object :=
  match (b.unit.info.recordedObject? base).bind Object.modulePath? with
  | some path => moduleMember? b.defs path name
  | none => (b.recordedType? base).bind (valueMember? b.defs.types · name)

/-- `base.name`, a module member, method or field. The selected identifier is made first. -/
def selector (b : Draft) (base : Expr) (name : String) : Expr × Draft :=
  let object := b.member? base name
  let ty := object.bind b.objectType?
  let selected := b.make (.ident · name) ty
  (selected.2.noteObject b.freshNode.id object).make (.selector · base selected.1) ty

/-- Overrides the recorded type of an expression. -/
def retype (b : Draft) (e : Expr) (ty : TypeId) : Expr × Draft :=
  (e, b.noteType e.id (some ty))

/-- The result type of calling an expression, when its type is a signature with one result. -/
def callResult? (b : Draft) (callee : Expr) : Option TypeId :=
  (b.recordedType? callee).bind fun ty =>
    match b.defs.types.get? ty with
    | some (.signature ⟨_, [result], _⟩) => some result
    | _ => none

/-- A call. -/
def call (b : Draft) (callee : Expr) (args : List Expr) (spread : Bool) :
    Expr × Draft :=
  b.make (.call · callee args spread) (b.callResult? callee)

/-- A literal of a predeclared type. -/
def literal (b : Draft) (kind : LiteralKind) (value : String) (ty : Predeclared) :
    Expr × Draft :=
  b.make (.literal · kind value) (some (TypeTable.basic ty))

/-- A string literal. -/
def stringLiteral (b : Draft) (value : String) : Expr × Draft :=
  b.literal .string value .string

/-- An integer literal. -/
def intLiteral (b : Draft) (value : Int) : Expr × Draft :=
  b.literal .int (toString value) .int

/-- A floating-point literal, as written. -/
def floatLiteral (b : Draft) (text : String) : Expr × Draft :=
  b.literal .float text .float64

/-- The untyped `nil`. -/
def nilIdent (b : Draft) : Expr × Draft :=
  b.make (.ident · "nil") (some (TypeTable.basic .untypedNil))

/-- A composite literal of a given type, with the type as written, if it is. -/
def composite (b : Draft) (type : Option Expr) (ty : TypeId) (elements : List Element) :
    Expr × Draft :=
  b.make (.composite · type elements) (some ty)

/-- A `key: value` element. -/
def keyedElement (b : Draft) (key : String) (value : Expr) : Element × Draft :=
  let made := b.make (.ident · key) none
  (.mk (some made.1) value, made.2)

/-- `&operand`, typed only if the definitions hold the pointer type already. -/
def addressOf (b : Draft) (operand : Expr) : Expr × Draft :=
  b.make (.unary · .addr operand)
    ((b.recordedType? operand).bind fun ty => b.defs.types.find? (.pointer ty))

/-- `*inner`, a dereference. -/
def dereference (b : Draft) (inner : Expr) : Expr × Draft :=
  b.make (.star · inner) ((b.recordedType? inner).bind b.defs.types.pointerElem)

/-- `(inner)`. -/
def parenthesized (b : Draft) (inner : Expr) : Expr × Draft :=
  b.make (.paren · inner) (b.recordedType? inner)

/-- A function literal. -/
def closure (b : Draft) (body : List Stmt) : Expr × Draft :=
  b.make (.closure · body) none

/-! ## Functions -/

/-- Adds a function to the current file. -/
def addFunction (b : Draft) (name : String) (decl : Option DeclId) (body : List Stmt) :
    Draft :=
  { b with file := { b.file with functions := b.file.functions ++ [⟨name, decl, body, b.span⟩] } }

end Draft

end BindingAudit
