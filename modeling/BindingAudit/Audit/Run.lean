/-
# Auditing a program

All units of a snapshot are analyzed in dependency order. Each unit sees the registries of every
unit it depends on, directly or not, nearest first.
-/
import BindingAudit.Audit.DependencyOrder
import BindingAudit.Audit.Snapshot
import BindingAudit.Journal

namespace BindingAudit

/-- The reports on all units, in the order of their analysis. -/
structure AuditReport where
  reports : List UnitReport

namespace AuditReport

/-- The results for all units. -/
def units (r : AuditReport) : List UnitResults := r.reports.map UnitReport.analysis

/-- All diagnostics, in the order of their discovery. -/
def diagnostics (r : AuditReport) : List Diagnostic := r.reports.flatMap UnitReport.diagnostics

/-- The diagnostics that describe problems. -/
def findings (r : AuditReport) : List Diagnostic := r.diagnostics.filter Diagnostic.isFinding

/-- Whether there is a problem. -/
def hasFindings (r : AuditReport) : Bool := !r.findings.isEmpty

/-- The results for a module. -/
def unit? (r : AuditReport) (module : String) : Option UnitResults :=
  r.units.find? (·.module == module)

end AuditReport

namespace Auditor

variable (auditor : Auditor) (snapshot : Snapshot)

/-- Analyzes the `i`-th unit, given the reports on units analyzed before. -/
def analyzeNext (done : List (Nat × UnitReport)) (i : Nat) : List (Nat × UnitReport) :=
  match snapshot.units[i]? with
  | none => done
  | some unit =>
      let registries := (dependencyClosure snapshot.units i).filterMap fun j =>
        (done.lookup j).map (·.outcome.registry)
      done ++ [(i, auditor.analyze snapshot.defs unit registries)]

/-- Analyzes every unit of a snapshot. -/
def run : Except Fault AuditReport := do
  let order ← dependencyOrder snapshot.units
  return ⟨(order.foldl (auditor.analyzeNext snapshot) []).map Prod.snd⟩

/-- The events of a run that went through. -/
def runJournal (report : AuditReport) : List Event :=
  report.reports.flatMap auditor.unitJournal ++
  [⟨.info, "snapshot analyzed",
    [("units", toString report.reports.length), ("findings", toString report.findings.length)]⟩]

end Auditor

end BindingAudit
