/-
# Registrations

Every call of a registration method on a worker value is an attempt to register something. The
attempt is recorded with all that was found out about it, so that the registrations, the
registry, the facts and the journal of a unit are each read off its attempts.
-/
import BindingAudit.Binding.Fact
import BindingAudit.Binding.Registry
import BindingAudit.Program.Definitions
import BindingAudit.Program.Traversal

namespace BindingAudit

/-- What an options value says about an additional name. -/
inductive OptionsReading where
  /-- There is no options value, or nothing is known about its type or its name field. -/
  | silent
  /-- The value has another type than the form expects. -/
  | unexpectedType (options : Expr) (expected : String)
  /-- The value is not written out in place. -/
  | notLiteral (options : Expr)
  /-- The value gives no name. -/
  | unnamed (options : Expr)
  | named (name : String)

/-- The additional name, if there is one. -/
def OptionsReading.name? : OptionsReading → Option String
  | .named name => some name
  | _ => none

/-- One registration of one declaration. -/
structure Registration where
  form : RegistrationForm
  role : Role
  target : Declaration
  /-- The additional name the target is registered under. -/
  extraName : Option String
  position : Position
  deriving DecidableEq, Repr

/-- A call of a registration method and what was found out about it. -/
structure RegistrationAttempt where
  form : RegistrationForm
  position : Position
  call : Expr
  /-- The argument to be registered, if there is one. -/
  target : Option Expr
  options : OptionsReading
  /-- The declarations that the argument stands for. -/
  decls : List Declaration
  /-- Whether the argument names a function, and is not a value with methods. -/
  direct : Bool

namespace Registration

variable (defs : Definitions) (conventions : Conventions) (unit : CompilationUnit)

/-! ## Recognizing and reading a call -/

/-- The registration form of a call of a worker's method. -/
def form? (e : Expr) : Option RegistrationForm :=
  match e with
  | .call _ (.selector _ base selected) _ _ => do
      let form ← RegistrationForm.ofSelector? (← selected.name?)
      let ty ← unit.info.recordedType? base
      if defs.types.denotes ty conventions.workerType then some form else none
  | _ => none

/-- The declarations an argument stands for: the function it names, or the exported methods of
its type. -/
def targetsOf (target : Expr) : List Declaration :=
  if target.isClosure then []
  else match unit.functionNamedBy? target with
    | some id => (defs.decl? id).toList
    | none =>
      match unit.info.recordedType? target with
      | none => []
      | some ty =>
          ((defs.types.methods ty).filter fun m => Text.isExported m.name).filterMap fun m =>
            m.decl.bind defs.decl?

/-- The options value without parentheses and without a leading `&`. -/
def optionsLiteral (options : Expr) : Expr :=
  match options.stripParens with
  | .unary _ .addr operand => operand.stripParens
  | e => e

/-- The name that the elements of an options literal give. An empty name is no name. -/
def nameIn? (field : String) (elements : List Element) : Option String :=
  ((elements.find? fun e => e.key.bind Expr.name? == some field).bind
    fun e => e.value.literalText?).filter (· != "")

/-- Reads the additional name out of an options value. -/
def readOptions (form : RegistrationForm) (options : Expr) : OptionsReading :=
  match conventions.expectedOptions? form, unit.info.recordedType? options with
  | some expected, some ty =>
      if !defs.types.denotes ty expected then .unexpectedType options expected
      else if (defs.types.field? ty conventions.nameField).isNone then .silent
      else match optionsLiteral options with
        | .composite _ _ elements =>
            match nameIn? conventions.nameField elements with
            | some name => .named name
            | none => .unnamed options
        | _ => .notLiteral options
  | _, _ => .silent

/-- The attempt that a call makes, if it is a registration. -/
def attempt? (file : String) (e : Expr) : Option RegistrationAttempt :=
  (form? defs conventions unit e).map fun form =>
    let args := match e with
      | .call _ _ args _ => args
      | _ => []
    { form
      position := e.span.toPosition file
      call := e
      target := args.head?
      options := match args with
        | _ :: options :: _ =>
            if form.hasOptions then readOptions defs conventions unit form options else .silent
        | _ => .silent
      decls := match args with
        | target :: _ => targetsOf defs unit target
        | [] => []
      direct := match args with
        | target :: _ => (unit.functionNamedBy? target).isSome
        | [] => false }

/-- All attempts of a unit, in the order of the walk. -/
def attempts : List RegistrationAttempt :=
  unit.files.flatMap fun file =>
    file.calls.filterMap (attempt? defs conventions unit file.name)

end Registration

namespace RegistrationAttempt

/-- The additional name for one declaration of an attempt. For the methods of a value the given
name is put in front of the method's own name. -/
def extraNameFor (a : RegistrationAttempt) (d : Declaration) : Option String :=
  a.options.name?.map fun name => if a.direct then name else name ++ d.name

/-- The registrations an attempt leads to. -/
def registrations (a : RegistrationAttempt) : List Registration :=
  a.decls.map fun d =>
    { form := a.form, role := a.form.role, target := d,
      extraName := a.extraNameFor d, position := a.position }

end RegistrationAttempt

/-! ## The outcome for a unit -/

/-- What the registrations of a unit amount to. -/
structure RegistrationOutcome where
  registry : Registry
  facts : ExportedFacts
  registrations : List Registration

namespace Registration

/-- Enters one registration into a registry, under its own and its additional name. -/
def enter (r : Registry) (reg : Registration) : Registry :=
  let own := r.register reg.role reg.target
  match reg.extraName with
  | some name => own.registerAs reg.role (reg.target.underName name)
  | none => own

/-- Exports the fact of one registration. A declaration of another unit adds none. -/
def exportFact (s : ExportedFacts) (reg : Registration) : ExportedFacts :=
  match s.exportRole reg.target reg.role with
  | .ok s' => s'
  | .error _ => s

/-- The outcome of the registrations of a unit. -/
def outcomeOf (module : String) (regs : List Registration) : RegistrationOutcome where
  registry := regs.foldl enter (.empty module)
  facts := regs.foldl exportFact (.empty module)
  registrations := regs

/-- Finds the registrations of a unit. -/
def discover (defs : Definitions) (conventions : Conventions) (unit : CompilationUnit) :
    RegistrationOutcome :=
  outcomeOf unit.module
    ((attempts defs conventions unit).flatMap RegistrationAttempt.registrations)

end Registration

end BindingAudit
