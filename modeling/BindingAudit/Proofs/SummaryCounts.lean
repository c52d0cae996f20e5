/-
# The summary counts what was reported

The counters of a summary are kept apart from the diagnostics, and each is increased in its own
branches of the checks. They agree with the diagnostics all the same.

* `Report.Tallied` : the counts of a report agree with each other and with its diagnostics;
* `Scene.tallied_fullReport` : so they do in the report on a unit, because they do in each part;
* `Scene.sites_add_places` : what was checked and what had no callee are together the calls that
  are invocations, counted over the syntax of the unit;
* `Auditor.summary_counts` : both, and what follows for the findings of a run.
-/
import BindingAudit.Proofs.OccurrenceCount
import BindingAudit.Proofs.ReportComposition

namespace BindingAudit

/-! ## Counts that agree with the diagnostics -/

namespace Report

/-- The counts of a report agree with each other and with its diagnostics. Unresolved callees are
counted in any case and reported only if asked for. -/
structure Tallied (reportUnresolved : Bool) (r : Report) : Prop where
  sites : r.summary.sites = r.summary.resolved + r.summary.unresolved
  malformed : r.diagnostics.countP (fun d => d.category = .malformed) = r.summary.malformed
  findings : r.diagnostics.countP (fun d => d.category ≠ .trace) = r.summary.findings
  unresolved : r.diagnostics.countP (fun d => d.category = .unresolved) =
    if reportUnresolved then r.summary.unresolved else 0

variable {reportUnresolved : Bool}

theorem tallied_empty : Tallied reportUnresolved {} := by
  constructor <;> simp

theorem Tallied.append {a b : Report} (ha : Tallied reportUnresolved a)
    (hb : Tallied reportUnresolved b) : Tallied reportUnresolved (a ++ b) where
  sites := by
    have := ha.sites
    have := hb.sites
    simp only [summary_append, Summary.add]
    omega
  malformed := by
    rw [diagnostics_append, List.countP_append, ha.malformed, hb.malformed]
    rfl
  findings := by
    rw [diagnostics_append, List.countP_append, ha.findings, hb.findings]
    rfl
  unresolved := by
    rw [diagnostics_append, List.countP_append, ha.unresolved, hb.unresolved]
    cases reportUnresolved <;> rfl

/-- Many reports are tallied together when each of them is. -/
theorem tallied_concat {rs : List Report} (h : ∀ r ∈ rs, Tallied reportUnresolved r) :
    Tallied reportUnresolved (concat rs) := by
  have hR : Compositional fun r _ => Tallied reportUnresolved r :=
    ⟨tallied_empty, Tallied.append⟩
  exact hR.concat (List.forall₂_same.2 h)

/-- A diagnostic whose category has no counter of its own is counted as it is reported. -/
theorem tallied_single {position : Position} {category : Category} {message : String}
    (hmalformed : category ≠ .malformed) (hunresolved : category ≠ .unresolved) :
    Tallied reportUnresolved (single position category message) := by
  cases category <;> constructor <;> simp_all [single, Category.isFinding]

/-- Trace output does not count, whether it is shown or not. -/
theorem tallied_trace (condition : Bool) (position : Position) (message : String) :
    Tallied reportUnresolved (onlyIf condition (single position .trace message)) := by
  cases condition
  · exact tallied_empty
  · exact tallied_single (by decide) (by decide)

/-- A diagnostic about a malformed call or callee goes with the counter for them. -/
theorem tallied_malformed (position : Position) (message : String) :
    Tallied reportUnresolved
      (counting { malformed := 1 } ++ single position .malformed message) := by
  constructor <;> simp [counting, single, Summary.add, Category.isFinding]

/-- What many reports have checked is what each of them has. -/
theorem sites_concat (rs : List Report) :
    (concat rs).summary.sites = (rs.map fun r => r.summary.sites).sum := by
  induction rs with
  | nil => rfl
  | cons r rs ih => rw [concat_cons, summary_append, Summary.add, List.map_cons, List.sum_cons, ih]

end Report

/-! ## The parts of the report on a unit -/

/-- Whether an invocation has a callee. -/
def Invocation.hasCallee : Invocation → Bool
  | .site _ => true
  | .malformed _ _ _ => false

namespace Scene

open Report

variable (scene : Scene) (settings : Settings)

theorem tallied_reportResolution (site : CallSite) :
    Tallied settings.reportUnresolved (reportResolution settings site) := by
  rw [reportResolution]
  cases site.resolution with
  | resolved d => constructor <;> simp [counting]
  | unresolved reason =>
    cases hreport : settings.reportUnresolved <;> constructor <;>
      simp [counting, onlyIf, single, Summary.add, Category.isFinding]

theorem tallied_reportTransport (site : CallSite) :
    Tallied settings.reportUnresolved (scene.reportTransport site) := by
  apply tallied_concat
  intro r hr
  obtain ⟨i, hi, rfl⟩ := List.mem_mapIdx.1 hr
  rw [reportArgument]
  split
  · exact tallied_empty
  · exact tallied_single (by decide) (by decide)

theorem tallied_reportFinding (site : CallSite) (d : Declaration) (f : ArgumentFinding) :
    Tallied settings.reportUnresolved (scene.reportFinding site d f) := by
  cases f <;> exact tallied_single (by decide) (by decide)

theorem tallied_reportSignature (site : CallSite) (d : Declaration) :
    Tallied settings.reportUnresolved (scene.reportSignature settings site d) := by
  rw [reportSignature]
  split
  · exact tallied_malformed _ _
  · apply tallied_concat
    intro r hr
    obtain ⟨f, -, rfl⟩ := List.mem_map.1 hr
    exact tallied_reportFinding scene settings site d f

theorem tallied_reportCallee (site : CallSite) :
    Tallied settings.reportUnresolved (scene.reportCallee settings site) := by
  rw [reportCallee]
  split
  · exact (tallied_trace _ _ _).append (tallied_reportSignature scene settings site _)
  · exact tallied_empty

/-- **One invocation.** -/
theorem tallied_reportInvocation (i : Invocation) :
    Tallied settings.reportUnresolved (scene.reportInvocation settings i) := by
  cases i with
  | malformed position form supplied => exact tallied_malformed _ _
  | site site =>
    have hresolution := tallied_reportResolution settings site
    have htransport := tallied_reportTransport scene settings site
    exact (hresolution.append htransport).append (tallied_reportCallee scene settings site)

/-- **The whole unit.** -/
theorem tallied_fullReport :
    Tallied settings.reportUnresolved (scene.fullReport settings) := by
  have hinvocations : Tallied settings.reportUnresolved (scene.reportInvocations settings) := by
    apply tallied_concat
    intro r hr
    obtain ⟨i, -, rfl⟩ := List.mem_map.1 hr
    exact tallied_reportInvocation scene settings i
  exact hinvocations.append (tallied_trace _ _ _)

/-! ## The number of checked invocations -/

theorem sites_reportTransport (site : CallSite) :
    (scene.reportTransport site).summary.sites = 0 := by
  rw [reportTransport, sites_concat]
  apply List.sum_eq_zero_iff_forall_eq_nat.2
  intro n hn
  obtain ⟨r, hr, rfl⟩ := List.mem_map.1 hn
  obtain ⟨i, hi, rfl⟩ := List.mem_mapIdx.1 hr
  rw [reportArgument]
  split <;> rfl

theorem sites_reportSignature (site : CallSite) (d : Declaration) :
    (scene.reportSignature settings site d).summary.sites = 0 := by
  rw [reportSignature]
  split
  · rfl
  · rw [sites_concat]
    apply List.sum_eq_zero_iff_forall_eq_nat.2
    intro n hn
    obtain ⟨r, hr, rfl⟩ := List.mem_map.1 hn
    obtain ⟨f, -, rfl⟩ := List.mem_map.1 hr
    cases f <;> rfl

theorem sites_reportCallee (site : CallSite) :
    (scene.reportCallee settings site).summary.sites = 0 := by
  rw [reportCallee]
  split
  · rw [summary_append, Summary.add, sites_reportSignature]
    cases settings.debug <;> rfl
  · rfl

/-- An invocation is counted as checked when it has a callee, whatever the checks say. -/
theorem sites_reportInvocation (i : Invocation) :
    (scene.reportInvocation settings i).summary.sites = i.hasCallee.toNat := by
  cases i with
  | malformed position form supplied => rfl
  | site site =>
    have hresolution : (reportResolution settings site).summary.sites = 1 := by
      rw [reportResolution]
      split
      · rfl
      · cases settings.reportUnresolved <;> rfl
    simp only [reportInvocation, summary_append, Summary.add, hresolution,
      sites_reportTransport, sites_reportCallee]
    rfl

theorem sites_fullReport :
    (scene.fullReport settings).summary.sites = scene.invocations.countP Invocation.hasCallee := by
  have htrace : ∀ position message,
      (onlyIf settings.debug (single position .trace message)).summary.sites = 0 := by
    intro position message
    cases settings.debug <;> rfl
  rw [fullReport, summary_append, Summary.add, htrace, Nat.add_zero, reportInvocations,
    sites_concat, List.map_map]
  induction scene.invocations with
  | nil => rfl
  | cons i is ih =>
    rw [List.map_cons, List.sum_cons, ih, Function.comp, sites_reportInvocation,
      countP_cons_toNat]

/-! ## Invocations and calls -/

/-- Whether a call is an invocation. -/
def invokes (e : Expr) : Bool := (scene.form? e).isSome

/-- Whether a call is an invocation with too few arguments to have a callee. -/
def lacksCallee : Expr → Bool
  | .call node fn args spread =>
      (scene.form? (.call node fn args spread)).any fun form => args.length < form.minArgs
  | _ => false

theorem isCall_of_invokes (e : Expr) (h : scene.invokes e = true) : e.isCall = true := by
  cases e with
  | call node fn args spread => rfl
  | _ => exact absurd h (by simp [invokes, form?])

theorem isCall_of_lacksCallee (e : Expr) (h : scene.lacksCallee e = true) : e.isCall = true := by
  cases e with
  | call node fn args spread => rfl
  | _ => exact absurd h (by simp [lacksCallee])

/-- A call that is an invocation has a callee or has too few arguments for one. -/
theorem hasCallee_add_lacksCallee (file : String) (e : Expr) :
    ((scene.invocation? file e).any Invocation.hasCallee).toNat + (scene.lacksCallee e).toNat =
      (scene.invokes e).toNat := by
  cases e with
  | call node fn args spread =>
    rw [invokes, invocation?, lacksCallee]
    cases hform : scene.form? (.call node fn args spread) with
    | none => rfl
    | some form =>
      simp only [Option.bind_eq_bind, Option.bind_some, Option.any_some, Option.isSome_some]
      cases hcallee : args[form.calleeIndex]? with
      | none =>
        have hshort : args.length < form.minArgs :=
          Nat.lt_succ_of_le (List.getElem?_eq_none_iff.1 hcallee)
        simp [Invocation.hasCallee, hshort]
      | some callee =>
        have henough : ¬ args.length < form.minArgs :=
          Nat.not_lt.2 (List.getElem?_eq_some_iff.1 hcallee).1
        simp [Invocation.hasCallee, henough]
  | _ => rfl

/-- The invocations among some calls of a file, with and without a callee. -/
theorem countP_filterMap_invocation? (file : String) (calls : List Expr) :
    (calls.filterMap (scene.invocation? file)).countP Invocation.hasCallee +
      calls.countP scene.lacksCallee = calls.countP scene.invokes := by
  induction calls with
  | nil => rfl
  | cons e calls ih =>
    have hfirst := hasCallee_add_lacksCallee scene file e
    have hhead : ((e :: calls).filterMap (scene.invocation? file)).countP Invocation.hasCallee =
        ((scene.invocation? file e).any Invocation.hasCallee).toNat +
          (calls.filterMap (scene.invocation? file)).countP Invocation.hasCallee := by
      cases h : scene.invocation? file e with
      | none => simp [h]
      | some i =>
        rw [List.filterMap_cons_some h, countP_cons_toNat]
        rfl
    rw [hhead, countP_cons_toNat, countP_cons_toNat]
    omega

/-- The invocations of a unit, file by file. -/
theorem invocations_eq_flatMap :
    scene.invocations =
      scene.unit.files.flatMap fun file => file.calls.filterMap (scene.invocation? file.name) := by
  simp only [invocations, invocationCalls, List.map_flatMap, List.map_filterMap, Option.map_map,
    Function.comp_def, Option.map_id']

/-- **Every invocation is checked or has no callee.** The calls are counted at their places in the
syntax of the unit. -/
theorem sites_add_places :
    (scene.fullReport settings).summary.sites + scene.unit.places scene.lacksCallee =
      scene.unit.places scene.invokes := by
  rw [sites_fullReport, invocations_eq_flatMap, CompilationUnit.places, CompilationUnit.places]
  induction scene.unit.files with
  | nil => rfl
  | cons file files ih =>
    have hfile := countP_filterMap_invocation? scene file.name file.calls
    rw [SourceFile.countP_calls scene.isCall_of_lacksCallee,
      SourceFile.countP_calls scene.isCall_of_invokes] at hfile
    rw [List.flatMap_cons, List.countP_append, List.map_cons, List.map_cons, List.sum_cons,
      List.sum_cons]
    omega

end Scene

/-! ## Runs -/

theorem Diagnostic.isFinding_eq (d : Diagnostic) :
    d.isFinding = decide (d.category ≠ .trace) := by
  rw [isFinding]
  cases d.category <;> rfl

namespace Auditor

theorem tallied_passReport (settings : Settings) (scene : Scene) :
    Report.Tallied settings.reportUnresolved (passReport settings scene) :=
  (Report.tallied_trace _ _ _).append (Scene.tallied_fullReport scene settings)

variable {auditor : Auditor} {snapshot : Snapshot} {report : AuditReport}

/-- The findings in the report on a unit are as many as its summary says. -/
theorem countP_isFinding_of_run (h : auditor.run snapshot = .ok report) :
    ∀ r ∈ report.reports, r.diagnostics.countP Diagnostic.isFinding = r.summary.findings := by
  intro r hr
  obtain ⟨unit, dependencies, rfl⟩ := exists_analyze_of_mem_reports h hr
  rw [analyze_eq, funext Diagnostic.isFinding_eq]
  exact (tallied_passReport auditor.settings _).findings

/-- The findings of a run are those that its units have counted. -/
theorem length_findings_of_run (h : auditor.run snapshot = .ok report) :
    report.findings.length = (report.units.map fun u => u.summary.findings).sum := by
  rw [AuditReport.findings, ← List.countP_eq_length_filter, AuditReport.diagnostics,
    List.countP_flatMap, AuditReport.units, List.map_map]
  exact congrArg List.sum (List.map_congr_left (countP_isFinding_of_run h))

/-- **The summary counts what was reported.** In the report on any unit the checked invocations
are the resolved and the unresolved ones, the counters for malformed calls, for findings and, if
they are reported, for unresolved callees are the numbers of such diagnostics, and the checked
invocations together with the calls without a callee are the calls that are invocations. The
findings of a run are the sum over its units, so there are none exactly when no unit has counted
any. -/
theorem summary_counts :
    (∀ (scene : Scene) (settings : Settings),
      Report.Tallied settings.reportUnresolved (scene.fullReport settings) ∧
      (scene.fullReport settings).summary.sites + scene.unit.places scene.lacksCallee =
        scene.unit.places scene.invokes) ∧
    ∀ (auditor : Auditor) (snapshot : Snapshot) (report : AuditReport),
      auditor.run snapshot = .ok report →
        report.findings.length = (report.units.map fun u => u.summary.findings).sum ∧
        (report.hasFindings = false ↔ ∀ u ∈ report.units, u.summary.findings = 0) := by
  refine ⟨fun scene settings => ⟨?_, ?_⟩, fun auditor snapshot report h => ⟨?_, ?_⟩⟩
  · exact Scene.tallied_fullReport scene settings
  · exact Scene.sites_add_places scene settings
  · exact length_findings_of_run h
  · have hempty : report.hasFindings = false ↔ report.findings.length = 0 := by
      simp [AuditReport.hasFindings]
    rw [hempty, length_findings_of_run h, List.sum_eq_zero_iff_forall_eq_nat,
      List.forall_mem_map]

/-- A unit that invokes an activity nobody registers, and another one without naming it. -/
def carelessUnit : CompilationUnit :=
  { Scene.nestedScene.unit with
    files := ⟨"extra.go", [], [⟨"extra", none, [.expr (.call ⟨⟨14⟩, .start⟩
      (.selector ⟨⟨12⟩, .start⟩ (.ident ⟨⟨0⟩, .start⟩ "workflow")
        (.ident ⟨⟨11⟩, .start⟩ "ExecuteActivity"))
      [.ident ⟨⟨13⟩, .start⟩ "ctx", .literal ⟨⟨10⟩, .start⟩ .string "missing"] false)],
      .start⟩]⟩ :: Scene.nestedScene.unit.files }

/-- Both invocations are found, one of them is checked, and each makes one finding. -/
theorem carelessUnit_summary_counts :
    ∃ report, Auditor.run { settings := .strict } ⟨.predeclared, [carelessUnit]⟩ = .ok report ∧
      report.units.map UnitResults.summary = [⟨1, 0, 1, 1, 2⟩] ∧ report.findings.length = 2 ∧
      ¬ ∀ u ∈ report.units, u.summary.findings = 0 := by
  have horder : dependencyOrder [carelessUnit] = .ok [0] := by decide +kernel
  have hrun := (run_eq_ok_iff { settings := .strict } ⟨.predeclared, [carelessUnit]⟩).2
    ⟨_, horder, rfl⟩
  obtain ⟨hlength, hnone⟩ := summary_counts.2 _ _ _ hrun
  refine ⟨_, hrun, by decide +kernel, hlength.trans (by decide +kernel), ?_⟩
  rw [← hnone]
  decide +kernel

end Auditor

end BindingAudit
