/-
# Analysis of a unit

One pass over one unit: its registrations are found first, then its invocations are validated
against its own registry and those of the units it depends on.
-/
import BindingAudit.Binding.Registration
import BindingAudit.Binding.Report

namespace BindingAudit

/-- What a pass finds out about a unit, apart from its diagnostics. -/
structure UnitResults where
  module : String
  registry : Registry
  facts : ExportedFacts
  registrations : List Registration
  summary : Summary

/-- Everything a pass over a unit produces, with what it was resolved against. -/
structure UnitReport where
  scene : Scene
  outcome : RegistrationOutcome
  diagnostics : List Diagnostic
  summary : Summary

/-- The results of a pass. -/
def UnitReport.analysis (r : UnitReport) : UnitResults where
  module := r.scene.unit.module
  registry := r.outcome.registry
  facts := r.outcome.facts
  registrations := r.outcome.registrations
  summary := r.summary

/-- Conventions and settings of a run. -/
structure Auditor where
  conventions : Conventions := .temporal
  settings : Settings := {}

namespace Auditor

variable (auditor : Auditor) (defs : Definitions) (unit : CompilationUnit)

/-- The trace output about the registrations of a unit. -/
def registrationTrace (registry : Registry) : Diagnostic :=
  ⟨unit.position, .trace,
    toString registry.workflows.length ++ " workflows, " ++
    toString registry.activities.length ++ " activities, " ++
    toString registry.extraNameCount ++ " aliases registered"⟩

/-- Analyzes a unit, given the registries of the units it depends on. -/
def analyze (dependencies : List Registry) : UnitReport :=
  let outcome := Registration.discover defs auditor.conventions unit
  let scene : Scene :=
    { defs, unit, dependencies, registry := outcome.registry, conventions := auditor.conventions }
  let report := scene.fullReport auditor.settings
  { scene, outcome
    diagnostics :=
      (if auditor.settings.debug then [registrationTrace unit outcome.registry] else []) ++
        report.diagnostics
    summary := report.summary }

end Auditor

end BindingAudit
