/-
# Validation

Turns the invocations of a unit into diagnostics: unresolved callees if asked for, arguments that
cannot be transported, and arguments that do not fit the declared signature. The summary counts
what was seen; each part of a report brings the counts that belong to its own diagnostics, and
reports are put together by concatenation and addition.
-/
import BindingAudit.Binding.Invocation
import BindingAudit.Binding.Arguments
import BindingAudit.Binding.Transport
import BindingAudit.Diagnostic
import BindingAudit.Text.Ordinal

namespace BindingAudit

/-! ## Reports -/

/-- What a validation has counted. -/
structure Summary where
  /-- Invocations that were checked. -/
  sites : Nat := 0
  resolved : Nat := 0
  unresolved : Nat := 0
  /-- Calls without a callee, and callees without a parameter. -/
  malformed : Nat := 0
  /-- Diagnostics that describe problems. -/
  findings : Nat := 0
  deriving DecidableEq, Repr, Inhabited

/-- Counts are added one by one. -/
def Summary.add (a b : Summary) : Summary where
  sites := a.sites + b.sites
  resolved := a.resolved + b.resolved
  unresolved := a.unresolved + b.unresolved
  malformed := a.malformed + b.malformed
  findings := a.findings + b.findings

/-- Diagnostics in the order of their discovery, with the counts that go with them. -/
structure Report where
  diagnostics : List Diagnostic := []
  summary : Summary := {}
  deriving DecidableEq, Repr, Inhabited

namespace Report

/-- One report after the other. -/
def append (a b : Report) : Report :=
  ⟨a.diagnostics ++ b.diagnostics, a.summary.add b.summary⟩

instance : Append Report := ⟨append⟩

/-- The report of counts alone. -/
def counting (s : Summary) : Report := ⟨[], s⟩

/-- The report of one diagnostic, which counts as a finding unless it is trace output. -/
def single (position : Position) (category : Category) (message : String) : Report :=
  ⟨[⟨position, category, message⟩], { findings := if category.isFinding then 1 else 0 }⟩

/-- A report that is made only under a condition. -/
def onlyIf (condition : Bool) (r : Report) : Report := if condition then r else {}

/-- Many reports, one after the other. -/
def concat (rs : List Report) : Report := rs.foldl append {}

end Report

/-! ## Checking one invocation -/

namespace Scene

variable (scene : Scene) (settings : Settings)

/-- The report on an invocation without a callee. -/
def reportMalformed (position : Position) (form : InvocationForm) (supplied : Nat) : Report :=
  .counting { malformed := 1 } ++
  .single position .malformed
    ("Malformed call to `" ++ form.selector ++ "` - expected at least " ++
      toString form.minArgs ++ " arguments, got " ++ toString supplied)

/-- The report on how the callee resolved. -/
def reportResolution (site : CallSite) : Report :=
  match site.resolution with
  | .resolved _ => .counting { sites := 1, resolved := 1 }
  | .unresolved reason =>
      .counting { sites := 1, unresolved := 1 } ++
      .onlyIf settings.reportUnresolved (.single site.position .unresolved
        ("Could not resolve the type of the workflow/activity `" ++ site.calleeText ++ "`: " ++
          reason.message))

/-- The report on one argument, counted from zero. An argument of unknown type is passed over. -/
def reportArgument (site : CallSite) (index : Nat) (argument : Argument) : Report :=
  match argument.ty.bind (Transport.violation? scene.defs.types scene.conventions) with
  | none => {}
  | some violation => .single site.position .serialization
      (Text.ordinal (index + 1) ++ " argument to `" ++ site.calleeText ++
        "` is not serializable: " ++ violation.message ++ " - this value will not be visible" ++
        " on the receiving end and will assume a default")

/-- The report on the transport of all arguments. -/
def reportTransport (site : CallSite) : Report :=
  .concat (site.arguments.mapIdx (scene.reportArgument site))

/-- The report on a mismatch with the declared signature. -/
def reportFinding (site : CallSite) (d : Declaration) : ArgumentFinding → Report
  | .tooMany expected supplied => .single site.position .argumentCount
      ("Too many arguments to `" ++ d.name ++ "` - expected " ++ toString expected ++ ", got " ++
        toString supplied)
  | .tooFew expected supplied atLeast => .single site.position .argumentCount
      ("Too few arguments to `" ++ d.name ++ "` - expected " ++
        (if atLeast then "at least " else "") ++ toString expected ++ ", got " ++
        toString supplied)
  | .mismatch index expected actual => .single site.position .argumentType
      ("Type of " ++ Text.ordinal (index + 1) ++ " argument to `" ++ d.name ++
        "` does not match the type of the workflow/activity: expected " ++
        scene.defs.types.render expected ++ ", got " ++ scene.defs.types.render actual)

/-- The report on the arguments against the signature of the callee. A callee must have the
context carrier as its first parameter. -/
def reportSignature (site : CallSite) (d : Declaration) : Report :=
  if d.params.isEmpty then
    .counting { malformed := 1 } ++
    .single site.position .malformed
      ("`" ++ d.name ++ "` takes no parameters - a workflow/activity must take a context first")
  else
    .concat ((Arguments.findings scene.defs.types settings d site.argTypes site.spread).map
      (scene.reportFinding site d))

/-- The report on the resolved callee of an invocation. -/
def reportCallee (site : CallSite) : Report :=
  match site.resolution with
  | .resolved d =>
      .onlyIf settings.debug (.single site.position .trace
        ("Call to " ++ d.qualifiedName ++ " at " ++ site.position.render)) ++
      scene.reportSignature settings site d
  | .unresolved _ => {}

/-- The report on one invocation. -/
def reportInvocation : Invocation → Report
  | .malformed position form supplied => reportMalformed position form supplied
  | .site site =>
      reportResolution settings site ++ scene.reportTransport site ++
        scene.reportCallee settings site

/-! ## Checking a unit -/

/-- The report on all invocations of the unit. -/
def reportInvocations : Report :=
  .concat (scene.invocations.map (scene.reportInvocation settings))

/-- The report on the unit, with the number of checked invocations as trace output. -/
def fullReport : Report :=
  let report := scene.reportInvocations settings
  report ++ .onlyIf settings.debug (.single scene.unit.position .trace
    (toString report.summary.sites ++ " calls to workflows/activities checked"))

end Scene

end BindingAudit
