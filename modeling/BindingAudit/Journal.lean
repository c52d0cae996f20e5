/-
# The journal

What a developer of the tool may want to follow: one event per decision of a run, with its level
and its fields. The journal is read off the results of a run and has no influence on them.
-/
import BindingAudit.Binding.Analysis

namespace BindingAudit

/-- How much an event matters. -/
inductive Level where
  | trace | debug | info | warn
  deriving DecidableEq, Repr

/-- The name of a level. -/
def Level.name : Level → String
  | .trace => "TRACE"
  | .debug => "DEBUG"
  | .info => "INFO"
  | .warn => "WARN"

/-- One entry of the journal. -/
structure Event where
  level : Level
  message : String
  /-- Names and values, in order. -/
  fields : List (String × String)
  deriving DecidableEq, Repr

/-! ## Registrations -/

/-- The events of reading an options value. -/
def OptionsReading.journal : OptionsReading → List Event
  | .unexpectedType options expected =>
      [⟨.trace, "options value has an unexpected type",
        [("options", options.render), ("expected", expected)]⟩]
  | .notLiteral options =>
      [⟨.debug, "options value is not a literal, no alias", [("options", options.render)]⟩]
  | .unnamed options =>
      [⟨.debug, "options literal has no name, no alias", [("options", options.render)]⟩]
  | .silent => []
  | .named _ => []

/-- The events of one registration in a unit. -/
def Registration.journal (settings : Settings) (unit : String) (r : Registration) : List Event :=
  (if settings.debug then
    [⟨.debug, "registered",
      [("position", r.position.render), ("role", r.role.name),
       ("target", r.target.qualifiedName), ("alias", r.extraName.getD "")]⟩]
   else []) ++
  (if r.target.module = unit then []
   else [⟨.warn, "fact export failed",
      [("position", r.position.render), ("error", (ExportedFacts.refusal unit r.target).message)]⟩])

/-- The events of one attempt to register something in a unit. -/
def RegistrationAttempt.journal (settings : Settings) (unit : String)
    (a : RegistrationAttempt) : List Event :=
  ⟨.trace, "registration call", [("call", a.call.render), ("form", a.form.selector)]⟩ ::
  match a.target with
  | none =>
      [⟨.warn, "registration without a target, skipping",
        [("position", a.position.render), ("form", a.form.selector)]⟩]
  | some target =>
      a.options.journal ++
      if a.decls.isEmpty then
        [⟨.warn, "cannot determine the function being registered, skipping",
          [("position", a.position.render), ("target", target.render)]⟩]
      else a.registrations.flatMap (Registration.journal settings unit)

/-- The events of finding the registrations of a unit. -/
def Auditor.registrationJournal (auditor : Auditor) (defs : Definitions)
    (unit : CompilationUnit) : List Event :=
  let registry := (Registration.discover defs auditor.conventions unit).registry
  (Registration.attempts defs auditor.conventions unit).flatMap
    (RegistrationAttempt.journal auditor.settings unit.module) ++
  [⟨.debug, "registry built",
    [("module", unit.module), ("workflows", toString registry.workflows.length),
     ("activities", toString registry.activities.length),
     ("aliases", toString registry.extraNameCount)]⟩]

/-! ## Invocations -/

/-- The event of recognizing a call as an invocation. -/
def InvocationForm.journal (call : Expr) (form : InvocationForm) : Event :=
  ⟨.trace, "invocation call", [("call", call.render), ("form", form.selector)]⟩

/-- The event of resolving the callee of an invocation, or of failing to. -/
def CallSite.journal (s : CallSite) : Event :=
  match s.resolution with
  | .resolved d => ⟨.debug, "resolved invocation",
      [("position", s.position.render), ("callee", d.qualifiedName)]⟩
  | .unresolved reason => ⟨.debug, "unresolved invocation",
      [("position", s.position.render), ("callee", s.callee.render),
       ("reason", reason.message)]⟩

/-- The events of one invocation, given its call. -/
def Invocation.journal (call : Expr) : Invocation → List Event
  | .malformed _ form _ => [form.journal call]
  | .site s => [s.form.journal call, s.journal]

/-- The events of finding the invocations of a unit. -/
def Scene.journal (scene : Scene) : List Event :=
  scene.invocationCalls.flatMap fun (call, invocation) => invocation.journal call

/-! ## Units -/

/-- The counts of a summary in one line. -/
def Summary.render (s : Summary) : String :=
  "ValidationSummary " ++ Text.braced (" sites: " ++ toString s.sites ++
    ", resolved: " ++ toString s.resolved ++ ", unresolved: " ++ toString s.unresolved ++
    ", malformed: " ++ toString s.malformed ++ ", findings: " ++ toString s.findings ++ " ")

/-- The events of a pass over a unit. -/
def Auditor.unitJournal (auditor : Auditor) (r : UnitReport) : List Event :=
  auditor.registrationJournal r.scene.defs r.scene.unit ++ r.scene.journal ++
  [⟨.debug, "validation finished",
    [("module", r.scene.unit.module), ("summary", r.summary.render)]⟩,
   ⟨.debug, "unit analyzed",
    [("registered", toString r.outcome.registry.size), ("sites", toString r.summary.sites),
     ("findings", toString r.summary.findings)]⟩]

end BindingAudit
