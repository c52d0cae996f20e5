/-
# Settings that only add output

Two settings decide how much is said: traces and unresolved callees are reported on demand. They
take no part in anything else. What a run says under any of these settings is what it says under
the verbose ones, less the diagnostics that were not asked for.

* `Report.Muted` : one report is what another one leaves when less is shown;
* `Scene.muted_reportInvocation` : so it is for the report on one invocation, part by part;
* `Report.Muted.findings_add` : what is missing in the count of findings is the unresolved ones;
* `Auditor.run_muted` : the comparison of two whole runs.
-/
import BindingAudit.Proofs.SummaryCounts

namespace BindingAudit

namespace Settings

/-- The same settings with everything shown. -/
def verbose (s : Settings) : Settings := { s with debug := true, reportUnresolved := true }

/-- Whether a diagnostic is shown: traces and unresolved callees are shown on demand. -/
def shows (s : Settings) (d : Diagnostic) : Bool :=
  (s.debug || d.category != .trace) && (s.reportUnresolved || d.category != .unresolved)

end Settings

/-! ## Muted reports -/

namespace Report

/-- `quiet` is what is left of `loud` when only that is shown which the settings ask for. -/
structure Muted (settings : Settings) (quiet loud : Report) : Prop where
  diagnostics : quiet.diagnostics = loud.diagnostics.filter settings.shows
  summary : quiet.summary.SameCounts loud.summary

variable {settings : Settings}

theorem compositional_muted : Compositional (Muted settings) where
  empty := ⟨rfl, .refl _⟩
  append := by
    intro a a' b b' ha hb
    refine ⟨?_, ha.summary.add hb.summary⟩
    rw [diagnostics_append, diagnostics_append, List.filter_append, ha.diagnostics,
      hb.diagnostics]

/-- A report that is shown in any case is not changed. -/
theorem muted_self {r : Report}
    (h : ∀ d ∈ r.diagnostics, d.category ≠ .trace ∧ d.category ≠ .unresolved) :
    Muted settings r r := by
  refine ⟨(List.filter_eq_self.2 ?_).symm, .refl _⟩
  intro d hd
  simp [Settings.shows, h d hd]

/-- A diagnostic is left out unless it is shown. -/
theorem muted_onlyIf {condition : Bool} {position : Position} {category : Category}
    {message : String} (h : settings.shows ⟨position, category, message⟩ = condition) :
    Muted settings (onlyIf condition (single position category message))
      (single position category message) := by
  refine ⟨?_, ?_⟩
  · cases condition <;> simp [onlyIf, single, h]
  · cases condition <;> exact ⟨rfl, rfl, rfl, rfl⟩

/-- Trace output is left out unless it is asked for. -/
theorem muted_trace (position : Position) (message : String) :
    Muted settings (onlyIf settings.debug (single position .trace message))
      (onlyIf settings.verbose.debug (single position .trace message)) :=
  muted_onlyIf (by simp [Settings.shows])

end Report

/-! ## The parts of the report on a unit -/

namespace Scene

open Report

variable (scene : Scene) (settings : Settings)

/-- An unresolved callee is counted in any case and reported if it is asked for. -/
theorem muted_reportResolution (site : CallSite) :
    Muted settings (reportResolution settings site) (reportResolution settings.verbose site) := by
  rw [reportResolution, reportResolution]
  cases site.resolution with
  | resolved d => exact muted_self (by simp [counting])
  | unresolved reason =>
    refine compositional_muted.append (muted_self (by simp [counting])) ?_
    exact muted_onlyIf (by simp [Settings.shows])

/-- What is said about the arguments is shown in any case. -/
theorem muted_reportTransport (site : CallSite) :
    Muted settings (scene.reportTransport site) (scene.reportTransport site) := by
  apply muted_self
  intro d hd
  rw [category_of_mem_reportTransport scene hd]
  decide

theorem muted_reportSignature (site : CallSite) (decl : Declaration) :
    Muted settings (scene.reportSignature settings site decl)
      (scene.reportSignature settings.verbose site decl) := by
  change Muted settings (scene.reportSignature settings site decl)
    (scene.reportSignature settings site decl)
  apply muted_self
  intro d hd
  rcases category_of_mem_reportSignature scene settings hd with h | h | h <;> rw [h] <;> decide

theorem muted_reportCallee (site : CallSite) :
    Muted settings (scene.reportCallee settings site)
      (scene.reportCallee settings.verbose site) := by
  rw [reportCallee, reportCallee]
  cases site.resolution with
  | resolved d =>
    exact compositional_muted.append (muted_trace _ _)
      (muted_reportSignature scene settings site d)
  | unresolved reason => exact compositional_muted.empty

/-- **One invocation.** -/
theorem muted_reportInvocation (i : Invocation) :
    Muted settings (scene.reportInvocation settings i)
      (scene.reportInvocation settings.verbose i) := by
  cases i with
  | malformed position form supplied =>
    apply muted_self
    intro d hd
    rw [List.mem_singleton.1 hd]
    simp
  | site site =>
    have hresolution := muted_reportResolution settings site
    have htransport := muted_reportTransport scene settings site
    have hcallee := muted_reportCallee scene settings site
    exact compositional_muted.append (compositional_muted.append hresolution htransport) hcallee

/-- **The whole unit.** The last trace tells a number, which is the same in both reports. -/
theorem muted_fullReport :
    Muted settings (scene.fullReport settings) (scene.fullReport settings.verbose) := by
  have hinvocations : Muted settings (scene.reportInvocations settings)
      (scene.reportInvocations settings.verbose) :=
    compositional_muted.concat_map fun i _ => muted_reportInvocation scene settings i
  rw [fullReport, fullReport, ← hinvocations.summary.sites]
  exact compositional_muted.append hinvocations (muted_trace _ _)

end Scene

/-! ## The count of findings -/

/-- Of the problems in a list, those that are not shown are the unresolved callees. -/
theorem Settings.countP_filter_shows (s : Settings) (ds : List Diagnostic) :
    ds.countP (fun d => d.category ≠ .trace) =
      (ds.filter s.shows).countP (fun d => d.category ≠ .trace) +
        if s.reportUnresolved then 0 else ds.countP fun d => d.category = .unresolved := by
  rw [List.countP_filter]
  cases hreport : s.reportUnresolved with
  | true =>
    rw [if_pos rfl, Nat.add_zero]
    apply List.countP_congr
    intro d _
    simp [shows, hreport, imp_or]
  | false =>
    rw [if_neg (by decide)]
    induction ds with
    | nil => rfl
    | cons d ds ih =>
      rw [countP_cons_toNat, countP_cons_toNat, countP_cons_toNat, ih]
      have hfirst : (decide (d.category ≠ .trace)).toNat =
          (decide (d.category ≠ .trace) && s.shows d).toNat +
            (decide (d.category = .unresolved)).toNat := by
        rw [shows, hreport]
        cases d.category <;> cases s.debug <;> rfl
      omega

/-- **What is missing in the count of findings** is the count of the unresolved callees, if these
are not shown. -/
theorem Report.Muted.findings_add {settings : Settings} {quiet loud : Report}
    (h : Muted settings quiet loud) (hquiet : Tallied settings.reportUnresolved quiet)
    (hloud : Tallied true loud) :
    loud.summary.findings = quiet.summary.findings +
      if settings.reportUnresolved then 0 else quiet.summary.unresolved := by
  have hunresolved := hloud.unresolved
  rw [if_pos rfl, ← h.summary.unresolved] at hunresolved
  rw [← hloud.findings, settings.countP_filter_shows, ← h.diagnostics, hquiet.findings,
    hunresolved]

/-! ## Runs -/

/-- The report on a unit under some settings, compared with the one under the verbose settings:
everything but the diagnostics and the findings is the same. -/
structure UnitReport.Muted (settings : Settings) (quiet loud : UnitReport) : Prop where
  /-- The unit, the registries and the conventions, so every resolution. -/
  scene : quiet.scene = loud.scene
  /-- The registry, the exported facts and the registrations. -/
  outcome : quiet.outcome = loud.outcome
  summary : quiet.summary.SameCounts loud.summary
  diagnostics : quiet.diagnostics = loud.diagnostics.filter settings.shows
  /-- Trace output is not counted. -/
  findings : quiet.summary.findings = quiet.diagnostics.countP fun d => d.category ≠ .trace
  findings_add : loud.summary.findings = quiet.summary.findings +
    if settings.reportUnresolved then 0 else quiet.summary.unresolved

namespace Auditor

theorem muted_passReport (settings : Settings) (scene : Scene) :
    Report.Muted settings (passReport settings scene) (passReport settings.verbose scene) :=
  Report.compositional_muted.append (Report.muted_trace _ _)
    (Scene.muted_fullReport scene settings)

/-- **One pass.** -/
theorem muted_analyze (conventions : Conventions) (settings : Settings) (defs : Definitions)
    (unit : CompilationUnit) (dependencies : List Registry) :
    UnitReport.Muted settings (analyze ⟨conventions, settings⟩ defs unit dependencies)
      (analyze ⟨conventions, settings.verbose⟩ defs unit dependencies) := by
  rw [analyze_eq, analyze_eq]
  have hmuted := muted_passReport settings (passScene conventions defs unit dependencies)
  have hquiet := tallied_passReport settings (passScene conventions defs unit dependencies)
  have hloud := tallied_passReport settings.verbose (passScene conventions defs unit dependencies)
  exact ⟨rfl, rfl, hmuted.summary, hmuted.diagnostics, hquiet.findings.symm,
    hmuted.findings_add hquiet hloud⟩

/-- **Traces and unresolved callees only add output.** A run under any settings fails with the
fault of the verbose run, or both succeed: they report on the same units in the same order with the
same results but for the count of findings, and the diagnostics are those of the verbose run less
the traces and the unresolved callees that were not asked for. -/
theorem run_muted (conventions : Conventions) (settings : Settings) (snapshot : Snapshot) :
    (∃ fault, run ⟨conventions, settings⟩ snapshot = .error fault ∧
      run ⟨conventions, settings.verbose⟩ snapshot = .error fault) ∨
    ∃ quiet loud, run ⟨conventions, settings⟩ snapshot = .ok quiet ∧
      run ⟨conventions, settings.verbose⟩ snapshot = .ok loud ∧
      List.Forall₂ (UnitReport.Muted settings) quiet.reports loud.reports ∧
      quiet.diagnostics = loud.diagnostics.filter settings.shows := by
  obtain hfault | ⟨quiet, loud, hquiet, hloud, hreports⟩ :=
    run_related (a := ⟨conventions, settings⟩) (b := ⟨conventions, settings.verbose⟩) rfl snapshot
      (muted_analyze conventions settings snapshot.defs)
  · exact .inl hfault
  · refine .inr ⟨quiet, loud, hquiet, hloud, hreports, ?_⟩
    refine AuditReport.diagnostics_related (R := fun l m => l = m.filter settings.shows) rfl ?_
      (hreports.imp fun _ _ hr => hr.diagnostics)
    intro l l' m m' hl hm
    rw [List.filter_append, hl, hm]

end Auditor

end BindingAudit
