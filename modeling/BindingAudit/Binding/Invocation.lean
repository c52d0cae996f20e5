/-
# Invocations

An invocation is a call that starts a workflow or schedules an activity. Its callee is resolved
as far as that can be done: a string literal through the registries, a static reference through
the recorded objects. What cannot be resolved carries its reason.
-/
import BindingAudit.Binding.Registry
import BindingAudit.Program.Definitions
import BindingAudit.Program.Traversal

namespace BindingAudit

/-- Why a callee could not be resolved. -/
inductive Unresolved where
  /-- A literal name that no registry knows. -/
  | unknownName (name : String)
  /-- The callee is computed at run time. -/
  | notStatic
  /-- The declaration of the callee is not known. -/
  | unknownObject
  deriving DecidableEq, Repr

/-- The wording of a reason. -/
def Unresolved.message : Unresolved → String
  | .unknownName name => "no workflow or activity is registered as " ++ Text.quoted name
  | .notStatic => "the callee is not a static reference"
  | .unknownObject => "the callee's declaration is unknown"

/-- The declaration that an invocation targets, as far as it can be determined. -/
inductive Resolution where
  | resolved (decl : Declaration)
  | unresolved (reason : Unresolved)
  deriving DecidableEq, Repr

/-- The resolved declaration. -/
def Resolution.decl? : Resolution → Option Declaration
  | .resolved d => some d
  | .unresolved _ => none

/-- An argument that is handed on to the callee, with its static type if known. -/
structure Argument where
  expr : Expr
  ty : Option TypeId

/-- A well-formed invocation. -/
structure CallSite where
  position : Position
  form : InvocationForm
  /-- The callee as written. -/
  callee : Expr
  resolution : Resolution
  arguments : List Argument
  /-- Whether the last argument is spread. -/
  spread : Bool

namespace CallSite

/-- The name of the callee in messages: the declared one, or else the callee as written. -/
def calleeText (s : CallSite) : String :=
  match s.resolution with
  | .resolved d => d.name
  | .unresolved _ => s.callee.render

/-- The static types of the arguments. -/
def argTypes (s : CallSite) : List (Option TypeId) := s.arguments.map Argument.ty

end CallSite

/-- A call that was recognized as an invocation. -/
inductive Invocation where
  | site (s : CallSite)
  /-- The call has too few arguments to have a callee. -/
  | malformed (position : Position) (form : InvocationForm) (supplied : Nat)

/-- Everything that an invocation is resolved against. -/
structure Scene where
  defs : Definitions
  unit : CompilationUnit
  /-- The registry of the unit itself. -/
  registry : Registry
  /-- The registries of the units it depends on, nearest first. -/
  dependencies : List Registry
  conventions : Conventions

namespace Scene

variable (scene : Scene)

/-- The invocation form of a call, if it is made on the right receiver. -/
def form? (e : Expr) : Option InvocationForm :=
  match e with
  | .call _ (.selector _ base selected) _ _ => do
      let form ← InvocationForm.ofSelector? (← selected.name?)
      let matched := match form.receiver with
        | .client => (scene.unit.info.recordedType? base).any fun ty =>
            scene.defs.types.denotes ty scene.conventions.clientType
        | .workflowModule =>
            (scene.unit.meaningOf? base).bind Object.modulePath? ==
              some scene.conventions.workflowModule
      if matched then some form else none
  | _ => none

/-- Looks a literal name up in the unit's own registry, then in those it depends on. -/
def findRegistered? (role : Role) (name : String) : Option Declaration :=
  (scene.registry :: scene.dependencies).findSome? (·.lookup role name)

/-- Resolves the callee of an invocation. -/
def resolve (form : InvocationForm) (callee : Expr) : Resolution :=
  match callee.literalText? with
  | some name =>
      match scene.findRegistered? form.role name with
      | some d => .resolved d
      | none => .unresolved (.unknownName name)
  | none =>
      if callee.isClosure then .unresolved .notStatic
      else match callee.namingIdent? with
        | none => .unresolved .notStatic
        | some i =>
          match scene.unit.info.recordedObject? i with
          | some (.func id) =>
              match scene.defs.decl? id with
              | some d => .resolved d
              | none => .unresolved .unknownObject
          | some _ => .unresolved .notStatic
          | none => .unresolved .unknownObject

/-- An argument with its recorded type. -/
def argument (e : Expr) : Argument := ⟨e, scene.unit.info.recordedType? e⟩

/-- The invocation that a call of a file is, if it is one. -/
def invocation? (file : String) (e : Expr) : Option Invocation :=
  match e with
  | .call _ _ args spread => do
      let form ← scene.form? e
      let position := e.span.toPosition file
      match args[form.calleeIndex]? with
      | none => some (.malformed position form args.length)
      | some callee => some (.site {
          position, form, callee, spread
          resolution := scene.resolve form callee
          arguments := (args.drop form.firstArgIndex).map scene.argument })
  | _ => none

/-- All invocations of the unit, each with its call, in the order of the walk. -/
def invocationCalls : List (Expr × Invocation) :=
  scene.unit.files.flatMap fun file =>
    file.calls.filterMap fun e => (scene.invocation? file.name e).map (e, ·)

/-- All invocations of the unit, in the order of the walk. -/
def invocations : List Invocation := scene.invocationCalls.map Prod.snd

end Scene

end BindingAudit
