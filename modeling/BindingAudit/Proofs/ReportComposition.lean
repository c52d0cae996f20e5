/-
# Reports, part by part

A report is put together from small ones by appending, and a run puts together the reports on its
units. What relates two reports can therefore be checked on their parts, and what relates two runs
can be checked on single units.

* `Report.Compositional` : a relation that holds between empty reports and is kept by appending;
* `Report.Compositional.concat` : such a relation holds between sequences of related reports;
* `Auditor.run_related` : two runs under the same conventions fail alike, or they report on the
  same units in the same order.

Beside these stand the categories that each part of a report can bring.
-/
import BindingAudit.Proofs.ReportExactness
import BindingAudit.Proofs.UnitPermutation

namespace BindingAudit

/-! ## Appending -/

/-- Two summaries that differ in the number of findings at most. -/
structure Summary.SameCounts (a b : Summary) : Prop where
  sites : a.sites = b.sites
  resolved : a.resolved = b.resolved
  unresolved : a.unresolved = b.unresolved
  malformed : a.malformed = b.malformed

theorem Summary.SameCounts.refl (a : Summary) : a.SameCounts a := ⟨rfl, rfl, rfl, rfl⟩

theorem Summary.SameCounts.add {a a' b b' : Summary} (ha : a.SameCounts a')
    (hb : b.SameCounts b') : (a.add b).SameCounts (a'.add b') where
  sites := congrArg₂ _ ha.sites hb.sites
  resolved := congrArg₂ _ ha.resolved hb.resolved
  unresolved := congrArg₂ _ ha.unresolved hb.unresolved
  malformed := congrArg₂ _ ha.malformed hb.malformed

namespace Report

@[simp] theorem summary_append (a b : Report) : (a ++ b).summary = a.summary.add b.summary := rfl

/-- A report is determined by its diagnostics and its counts. -/
theorem eq_of_parts {a b : Report} (hdiagnostics : a.diagnostics = b.diagnostics)
    (hsummary : a.summary = b.summary) : a = b := by
  cases a
  cases b
  simp_all

theorem append_assoc (a b c : Report) : a ++ b ++ c = a ++ (b ++ c) := by
  apply eq_of_parts
  · simp
  · simp [Summary.add, Nat.add_assoc]

theorem empty_append (r : Report) : {} ++ r = r := by
  apply eq_of_parts
  · simp
  · simp [Summary.add]

theorem append_empty (r : Report) : r ++ {} = r := by
  apply eq_of_parts
  · simp
  · simp [Summary.add]

instance : Std.Associative append := ⟨append_assoc⟩

@[simp] theorem concat_nil : concat [] = {} := rfl

/-- Many reports are the first one and the rest. -/
@[simp] theorem concat_cons (r : Report) (rs : List Report) : concat (r :: rs) = r ++ concat rs :=
  calc concat (r :: rs)
    _ = rs.foldl append ({} ++ r) := rfl
    _ = rs.foldl append (r ++ {}) := by rw [empty_append, append_empty]
    _ = r ++ concat rs := List.foldl_assoc

/-! ## Diagnostics of the smallest reports -/

@[simp] theorem notMem_diagnostics_counting {d : Diagnostic} {s : Summary} :
    d ∉ (counting s).diagnostics := by
  simp [counting]

@[simp] theorem mem_diagnostics_single {d : Diagnostic} {position : Position}
    {category : Category} {message : String} :
    d ∈ (single position category message).diagnostics ↔ d = ⟨position, category, message⟩ := by
  simp [single]

@[simp] theorem mem_diagnostics_onlyIf {d : Diagnostic} {condition : Bool} {r : Report} :
    d ∈ (onlyIf condition r).diagnostics ↔ condition = true ∧ d ∈ r.diagnostics := by
  cases condition <;> simp [onlyIf]

/-! ## Relations that are checked part by part -/

/-- A relation between reports that holds between empty ones and is kept by appending. -/
structure Compositional (R : Report → Report → Prop) : Prop where
  empty : R {} {}
  append : ∀ {a a' b b' : Report}, R a a' → R b b' → R (a ++ b) (a' ++ b')

/-- **Sequences of related reports.** -/
theorem Compositional.concat {R : Report → Report → Prop} (hR : Compositional R)
    {rs rs' : List Report} (h : List.Forall₂ R rs rs') : R (.concat rs) (.concat rs') := by
  induction h with
  | nil => exact hR.empty
  | cons hr _ ih =>
    rw [concat_cons, concat_cons]
    exact hR.append hr ih

/-- Two ways of reporting on the same things. -/
theorem Compositional.concat_map {R : Report → Report → Prop} (hR : Compositional R) {α : Type}
    {f g : α → Report} {xs : List α} (h : ∀ x ∈ xs, R (f x) (g x)) :
    R (.concat (xs.map f)) (.concat (xs.map g)) := by
  apply hR.concat
  rw [List.forall₂_map_left_iff, List.forall₂_map_right_iff, List.forall₂_same]
  exact h

end Report

/-! ## Categories of the parts -/

namespace Scene

variable (scene : Scene) (settings : Settings)

/-- The report on how a callee resolved is about one that did not. -/
theorem category_of_mem_reportResolution {site : CallSite} {d : Diagnostic}
    (h : d ∈ (reportResolution settings site).diagnostics) : d.category = .unresolved := by
  rw [reportResolution] at h
  split at h
  · simp at h
  · simp only [Report.diagnostics_append, List.mem_append, Report.notMem_diagnostics_counting,
      Report.mem_diagnostics_onlyIf, Report.mem_diagnostics_single, false_or] at h
    rw [h.2]

/-- The transport report is about transport only. -/
theorem category_of_mem_reportTransport {site : CallSite} {d : Diagnostic}
    (h : d ∈ (scene.reportTransport site).diagnostics) : d.category = .serialization := by
  rw [reportTransport, Report.diagnostics_concat] at h
  obtain ⟨r, hr, hd⟩ := List.mem_flatMap.1 h
  obtain ⟨i, hi, rfl⟩ := List.mem_mapIdx.1 hr
  rw [reportArgument] at hd
  split at hd
  · cases hd
  · rw [Report.mem_diagnostics_single.1 hd]

/-- A mismatch with a signature is about the count or the type of arguments. -/
theorem category_of_mem_reportFinding {site : CallSite} {decl : Declaration}
    {f : ArgumentFinding} {d : Diagnostic}
    (h : d ∈ (scene.reportFinding site decl f).diagnostics) :
    d.category = .argumentCount ∨ d.category = .argumentType := by
  cases f with
  | tooMany expected supplied => exact .inl (by rw [Report.mem_diagnostics_single.1 h])
  | tooFew expected supplied atLeast => exact .inl (by rw [Report.mem_diagnostics_single.1 h])
  | mismatch index expected actual => exact .inr (by rw [Report.mem_diagnostics_single.1 h])

/-- The signature report is about the callee itself or about the arguments against it. -/
theorem category_of_mem_reportSignature {site : CallSite} {decl : Declaration} {d : Diagnostic}
    (h : d ∈ (scene.reportSignature settings site decl).diagnostics) :
    d.category = .malformed ∨ d.category = .argumentCount ∨ d.category = .argumentType := by
  rw [reportSignature] at h
  split at h
  · exact .inl (by rw [List.mem_singleton.1 h])
  · rw [Report.diagnostics_concat, List.flatMap_map, List.mem_flatMap] at h
    obtain ⟨f, -, hd⟩ := h
    exact .inr (category_of_mem_reportFinding scene hd)

end Scene

/-! ## Passes and runs -/

/-- What holds between the diagnostics on each unit, and is kept by appending, holds between all
diagnostics of two reports. -/
theorem AuditReport.diagnostics_related {R : List Diagnostic → List Diagnostic → Prop}
    (hempty : R [] []) (happend : ∀ {l l' m m'}, R l l' → R m m' → R (l ++ m) (l' ++ m'))
    {report report' : AuditReport}
    (h : List.Forall₂ (fun r r' : UnitReport => R r.diagnostics r'.diagnostics)
      report.reports report'.reports) : R report.diagnostics report'.diagnostics := by
  rw [diagnostics, diagnostics]
  generalize report.reports = rs, report'.reports = rs' at h
  induction h with
  | nil => exact hempty
  | cons hr _ ih => exact happend hr ih

namespace Auditor

/-- What a pass over a unit resolves its invocations against, whatever the settings. -/
def passScene (conventions : Conventions) (defs : Definitions) (unit : CompilationUnit)
    (dependencies : List Registry) : Scene where
  defs := defs
  unit := unit
  registry := (Registration.discover defs conventions unit).registry
  dependencies := dependencies
  conventions := conventions

/-- All that a pass reports, as one report: on the registrations, if traces are asked for, and on
the invocations. -/
def passReport (settings : Settings) (scene : Scene) : Report :=
  .onlyIf settings.debug (.single scene.unit.position .trace
    (registrationTrace scene.unit scene.registry).message) ++ scene.fullReport settings

/-- A pass over a unit makes that report. -/
theorem analyze_eq (auditor : Auditor) (defs : Definitions) (unit : CompilationUnit)
    (dependencies : List Registry) :
    let scene := passScene auditor.conventions defs unit dependencies
    auditor.analyze defs unit dependencies =
      ⟨scene, Registration.discover defs auditor.conventions unit,
        (passReport auditor.settings scene).diagnostics,
        (passReport auditor.settings scene).summary⟩ := by
  intro scene
  have hdiagnostics : (auditor.analyze defs unit dependencies).diagnostics =
      (passReport auditor.settings scene).diagnostics := by
    rw [passReport, Report.diagnostics_append, analyze]
    cases auditor.settings.debug <;> rfl
  have hsummary : (auditor.analyze defs unit dependencies).summary =
      (passReport auditor.settings scene).summary := by
    rw [passReport, Report.summary_append, analyze]
    cases auditor.settings.debug <;> simp [Report.onlyIf, Report.single, Summary.add,
      Category.isFinding, scene, passScene]
  rw [← hdiagnostics, ← hsummary]
  rfl

/-- What a unit registers depends on the conventions alone. -/
theorem ownRegistry_congr {a b : Auditor} (h : a.conventions = b.conventions)
    (snapshot : Snapshot) : a.ownRegistry snapshot = b.ownRegistry snapshot := by
  funext unit
  rw [ownRegistry, ownRegistry, h]

/-- **Two runs under the same conventions.** They fail with the same fault, or they report on the
same units in the same order; what holds between the two passes over any unit then holds between
their reports. -/
theorem run_related {a b : Auditor} (hconventions : a.conventions = b.conventions)
    (snapshot : Snapshot) {R : UnitReport → UnitReport → Prop}
    (hR : ∀ unit dependencies, R (a.analyze snapshot.defs unit dependencies)
      (b.analyze snapshot.defs unit dependencies)) :
    (∃ fault, a.run snapshot = .error fault ∧ b.run snapshot = .error fault) ∨
      ∃ report report', a.run snapshot = .ok report ∧ b.run snapshot = .ok report' ∧
        List.Forall₂ R report.reports report'.reports := by
  cases horder : dependencyOrder snapshot.units with
  | error fault =>
    refine .inl ⟨fault, ?_, ?_⟩
    · rw [run, horder]
      rfl
    · rw [run, horder]
      rfl
  | ok order =>
    refine .inr ⟨_, _, (run_eq_ok_iff a snapshot).2 ⟨order, horder, rfl⟩,
      (run_eq_ok_iff b snapshot).2 ⟨order, horder, rfl⟩, ?_⟩
    clear horder
    induction order with
    | nil => exact .nil
    | cons i order ih =>
      simp only [List.filterMap_cons, reportAlone, ownRegistry_congr hconventions]
      cases snapshot.units[i]? with
      | none => exact ih
      | some unit => exact .cons (hR unit _) ih

/-- Every report of a run is that of a pass over some unit. -/
theorem exists_analyze_of_mem_reports {auditor : Auditor} {snapshot : Snapshot}
    {report : AuditReport} (h : auditor.run snapshot = .ok report) {r : UnitReport}
    (hr : r ∈ report.reports) :
    ∃ unit dependencies, r = auditor.analyze snapshot.defs unit dependencies := by
  obtain ⟨i, hi⟩ := (mem_reports_iff h).1 hr
  obtain ⟨unit, -, rfl⟩ := Option.map_eq_some_iff.1 hi
  exact ⟨unit, _, rfl⟩

end Auditor

end BindingAudit
