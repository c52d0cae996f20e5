/-
# The order in which units are listed

A snapshot lists its units in any order. Listing them in another order changes the places of the
units, and with them the order of the analysis, but nothing that is found out about a unit.

The two lists are compared through the units that stand at their places, never through the places
themselves: two searches are in step when they have found the same units in the same order.

* `acyclic_of_perm` : circles do not depend on the places;
* `map_rounds_of_perm` : two searches that start from the same unit stay in step;
* `reportAlone_of_perm` : the report on a unit by itself does not depend on its place;
* `perm_reports` : the reports of two runs are the same, up to their order;
* `run_perm_units` : success, results and blocks of diagnostics of the two runs.
-/
import BindingAudit.Proofs.AuditRefinement

namespace BindingAudit

open Relation

/-! ## Lists with distinct keys -/

/-- Among entries with distinct keys each one is found by its key. -/
theorem find?_key_of_mem {α : Type} (key : α → String) {l : List α}
    (hnodup : (l.map key).Nodup) {a : α} (ha : a ∈ l) :
    l.find? (fun b => key b == key a) = some a := by
  cases hfind : l.find? (fun b => key b == key a) with
  | none =>
    have hne := List.find?_eq_none.1 hfind a ha
    exact absurd (beq_self_eq_true (key a)) hne
  | some b =>
    have hkey : key b = key a := by simpa using List.find?_some hfind
    rw [List.inj_on_of_nodup_map hnodup (List.mem_of_find?_eq_some hfind) ha hkey]

/-- Which entry has a key does not depend on the order of the entries. -/
theorem find?_key_of_perm {α : Type} (key : α → String) {l l' : List α} (hperm : l.Perm l')
    (hnodup : (l.map key).Nodup) (k : String) :
    l.find? (fun b => key b == k) = l'.find? (fun b => key b == k) := by
  have hnodup' : (l'.map key).Nodup := (hperm.map key).nodup_iff.1 hnodup
  cases hfind : l.find? (fun b => key b == k) with
  | none =>
    symm
    rw [List.find?_eq_none] at hfind ⊢
    exact fun b hb => hfind b (hperm.mem_iff.2 hb)
  | some a =>
    have hkey : key a = k := by simpa using List.find?_some hfind
    subst hkey
    exact (find?_key_of_mem key hnodup' (hperm.mem_iff.1 (List.mem_of_find?_eq_some hfind))).symm

namespace DependencyOrder

variable {units units' : List CompilationUnit}

/-! ## The graph of dependencies -/

/-- Every unit of the one list has a place in the other. -/
theorem exists_getElem?_of_perm (hperm : units.Perm units') {i : Nat} {unit : CompilationUnit}
    (h : units[i]? = some unit) : ∃ i' : Nat, units'[i']? = some unit :=
  List.mem_iff_getElem?.1 (hperm.mem_iff.1 (List.mem_of_getElem? h))

theorem modulesDistinct_of_perm (hperm : units.Perm units') (h : ModulesDistinct units) :
    ModulesDistinct units' :=
  (hperm.map CompilationUnit.module).nodup_iff.1 h

theorem dependenciesKnown_of_perm (hperm : units.Perm units') (h : DependenciesKnown units) :
    DependenciesKnown units' := by
  intro unit hunit m hm
  obtain ⟨other, hother, hmodule⟩ := h unit (hperm.mem_iff.2 hunit) m hm
  exact ⟨other, hperm.mem_iff.1 hother, hmodule⟩

/-- A dependency can be followed in the other list. -/
theorem dependsOn_of_perm (hperm : units.Perm units') {i j i' : Nat} {unit : CompilationUnit}
    (hunit : units[i]? = some unit) (hunit' : units'[i']? = some unit)
    (h : DependsOn units i j) :
    ∃ (other : CompilationUnit) (j' : Nat), units[j]? = some other ∧ units'[j']? = some other ∧
      DependsOn units' i' j' := by
  obtain ⟨u, other, hu, hother, hm⟩ := h
  rw [hunit, Option.some.injEq] at hu
  subst hu
  obtain ⟨j', hother'⟩ := exists_getElem?_of_perm hperm hother
  exact ⟨other, j', hother, hother', unit, other, hunit', hother', hm⟩

/-- A chain of dependencies can be followed in the other list, from unit to unit. -/
theorem transGen_of_perm (hperm : units.Perm units') {i j i' : Nat} {unit : CompilationUnit}
    (hunit : units[i]? = some unit) (hunit' : units'[i']? = some unit)
    (h : TransGen (DependsOn units) i j) :
    ∃ (other : CompilationUnit) (j' : Nat), units[j]? = some other ∧ units'[j']? = some other ∧
      TransGen (DependsOn units') i' j' := by
  induction h with
  | single hstep =>
    obtain ⟨other, j', hother, hother', hstep'⟩ := dependsOn_of_perm hperm hunit hunit' hstep
    exact ⟨other, j', hother, hother', .single hstep'⟩
  | tail _ hstep ih =>
    obtain ⟨mid, k', hmid, hmid', hreach⟩ := ih
    obtain ⟨other, j', hother, hother', hstep'⟩ := dependsOn_of_perm hperm hmid hmid' hstep
    exact ⟨other, j', hother, hother', hreach.tail hstep'⟩

/-- **Circles do not depend on the places.** -/
theorem acyclic_of_perm (hperm : units.Perm units') (hdistinct : ModulesDistinct units)
    (h : Acyclic units) : Acyclic units' := by
  intro i' hcycle
  obtain ⟨_, ⟨unit, -, hunit', -, -⟩, -⟩ := TransGen.head'_iff.1 hcycle
  obtain ⟨i, hunit⟩ := exists_getElem?_of_perm hperm.symm hunit'
  -- the chain comes back to the same unit, so with distinct modules to the same place
  obtain ⟨other, j, hother', hother, hreach⟩ :=
    transGen_of_perm hperm.symm hunit' hunit hcycle
  rw [hunit', Option.some.injEq] at hother'
  subst hother'
  have hij : j = i := IsUnitOf.unique hdistinct ⟨unit, hother, rfl⟩ ⟨unit, hunit, rfl⟩
  subst hij
  exact h j hreach

/-- Whether there is an order does not depend on the places. -/
theorem exists_dependencyOrder_of_perm (hperm : units.Perm units')
    (h : ∃ order, dependencyOrder units = .ok order) :
    ∃ order, dependencyOrder units' = .ok order := by
  rw [exists_dependencyOrder_iff] at h ⊢
  obtain ⟨hdistinct, hknown, hacyclic⟩ := h
  exact ⟨modulesDistinct_of_perm hperm hdistinct, dependenciesKnown_of_perm hperm hknown,
    acyclic_of_perm hperm hdistinct hacyclic⟩

/-! ## The closure -/

/-- Whether a place has been found can be seen from the units that have been found. -/
theorem mem_iff_some_mem_map (hdistinct : ModulesDistinct units) {found : List Nat} {j : Nat}
    {unit : CompilationUnit} (hunit : units[j]? = some unit) :
    j ∈ found ↔ some unit ∈ found.map (units[·]?) := by
  rw [List.mem_map]
  constructor
  · intro hj
    exact ⟨j, hj, hunit⟩
  · rintro ⟨k, hk, hunit'⟩
    rwa [IsUnitOf.unique hdistinct ⟨unit, hunit, rfl⟩ ⟨unit, hunit', rfl⟩]

/-- A look at one dependency keeps two searches in step. -/
theorem map_findNew_of_perm (hperm : units.Perm units') (hdistinct : ModulesDistinct units)
    {found found' : List Nat} (hsame : found.map (units[·]?) = found'.map (units'[·]?))
    (m : String) :
    (findNew units found m).map (units[·]?) = (findNew units' found' m).map (units'[·]?) := by
  have hdistinct' := modulesDistinct_of_perm hperm hdistinct
  unfold findNew
  cases hindex : indexOf? units m with
  | none =>
    have hindex' : indexOf? units' m = none := by
      rw [indexOf?_eq_none_iff] at hindex ⊢
      exact fun unit hunit => hindex unit (hperm.mem_iff.2 hunit)
    rw [hindex']
    exact hsame
  | some j =>
    obtain ⟨unit, hunit, hm⟩ := isUnitOf_of_indexOf? hindex
    obtain ⟨j', hunit'⟩ := exists_getElem?_of_perm hperm hunit
    rw [(indexOf?_eq_some_iff hdistinct').2 ⟨unit, hunit', hm⟩]
    -- `j` and `j'` are places of one unit, so both have been found or neither has
    have hmem : j ∈ found ↔ j' ∈ found' := by
      rw [mem_iff_some_mem_map hdistinct hunit, mem_iff_some_mem_map hdistinct' hunit', hsame]
    by_cases hj : j ∈ found
    · simp only [if_pos hj, if_pos (hmem.1 hj)]
      exact hsame
    · simp only [if_neg hj, if_neg (mt hmem.2 hj), List.map_append, List.map_cons, List.map_nil,
        hunit, hunit', hsame]

/-- So does a look at several dependencies. -/
theorem map_foldl_findNew_of_perm (hperm : units.Perm units') (hdistinct : ModulesDistinct units)
    (ms : List String) {found found' : List Nat}
    (hsame : found.map (units[·]?) = found'.map (units'[·]?)) :
    (ms.foldl (findNew units) found).map (units[·]?) =
      (ms.foldl (findNew units') found').map (units'[·]?) := by
  induction ms generalizing found found' with
  | nil => exact hsame
  | cons m ms ih => exact ih (map_findNew_of_perm hperm hdistinct hsame m)

/-- A round keeps two searches in step: it looks at the same unit in both. -/
theorem map_expand_of_perm (hperm : units.Perm units') (hdistinct : ModulesDistinct units)
    {found found' : List Nat} (hsame : found.map (units[·]?) = found'.map (units'[·]?))
    (k : Nat) :
    (expand units found k).map (units[·]?) = (expand units' found' k).map (units'[·]?) := by
  have hunit : (found[k]?).bind (units[·]?) = (found'[k]?).bind (units'[·]?) := by
    have hk := congrArg (fun l => (l[k]?).bind id) hsame
    simpa only [List.getElem?_map, Option.bind_map, Function.comp_def, id] using hk
  unfold expand
  rw [hunit]
  cases (found'[k]?).bind (units'[·]?) with
  | none => exact hsame
  | some unit => exact map_foldl_findNew_of_perm hperm hdistinct unit.dependencies hsame

/-- **Two searches from the same unit stay in step.** -/
theorem map_rounds_of_perm (hperm : units.Perm units') (hdistinct : ModulesDistinct units)
    {i i' : Nat} (hstart : units[i]? = units'[i']?) (k : Nat) :
    (rounds units i k).map (units[·]?) = (rounds units' i' k).map (units'[·]?) := by
  induction k with
  | zero =>
    show [units[i]?] = [units'[i']?]
    rw [hstart]
  | succ k ih =>
    rw [rounds_succ, rounds_succ]
    exact map_expand_of_perm hperm hdistinct ih k

/-- The closures of one unit hold the same units in the same order. -/
theorem map_dependencyClosure_of_perm (hperm : units.Perm units')
    (hdistinct : ModulesDistinct units) {i i' : Nat} (hstart : units[i]? = units'[i']?) :
    (dependencyClosure units i).map (units[·]?) =
      (dependencyClosure units' i').map (units'[·]?) := by
  have h := congrArg List.tail (map_rounds_of_perm hperm hdistinct hstart units.length)
  rw [← List.map_tail, ← List.map_tail] at h
  rwa [dependencyClosure_eq_tail_rounds, dependencyClosure_eq_tail_rounds, ← hperm.length_eq]

end DependencyOrder

namespace Auditor

open DependencyOrder

variable (auditor : Auditor)

/-! ## The reports -/

/-- A unit depends on the same units in both lists, in the same order. -/
theorem upstream_of_perm {units units' : List CompilationUnit} (hperm : units.Perm units')
    (hdistinct : ModulesDistinct units) {i i' : Nat} (hstart : units[i]? = units'[i']?) :
    upstream units i = upstream units' i' := by
  have h := congrArg (List.filterMap id) (map_dependencyClosure_of_perm hperm hdistinct hstart)
  rwa [List.filterMap_map, List.filterMap_map] at h

/-- **The report on a unit by itself does not depend on its place.** -/
theorem reportAlone_of_perm (defs : Definitions) {units units' : List CompilationUnit}
    (hperm : units.Perm units') (hdistinct : ModulesDistinct units) {i i' : Nat}
    (hstart : units[i]? = units'[i']?) :
    auditor.reportAlone ⟨defs, units⟩ i = auditor.reportAlone ⟨defs, units'⟩ i' := by
  unfold reportAlone
  rw [hstart, upstream_of_perm hperm hdistinct hstart]
  rfl

section Run

variable {auditor} {snapshot : Snapshot} {report : AuditReport}

/-- A run succeeds on distinct modules only. -/
theorem modulesDistinct_of_run (h : auditor.run snapshot = .ok report) :
    ModulesDistinct snapshot.units := by
  obtain ⟨order, horder, -⟩ := (run_eq_ok_iff auditor snapshot).1 h
  exact (dependencyOrder_settled snapshot.units horder).1

/-- The reports of a run are those on the units by themselves. -/
theorem mem_reports_iff (h : auditor.run snapshot = .ok report) {r : UnitReport} :
    r ∈ report.reports ↔ ∃ i, auditor.reportAlone snapshot i = some r := by
  obtain ⟨order, horder, rfl⟩ := (run_eq_ok_iff auditor snapshot).1 h
  obtain ⟨-, -, hperm⟩ := dependencyOrder_settled snapshot.units horder
  rw [List.mem_filterMap]
  constructor
  · rintro ⟨i, -, hi⟩
    exact ⟨i, hi⟩
  · rintro ⟨i, hi⟩
    have hunit := map_unit_reportAlone auditor snapshot i
    rw [hi, Option.map_some, eq_comm, List.getElem?_eq_some_iff] at hunit
    exact ⟨i, hperm.mem_iff.2 (List.mem_range.2 hunit.1), hi⟩

/-- A run reports on each module of the snapshot once. -/
theorem perm_map_module_units (h : auditor.run snapshot = .ok report) :
    (report.units.map UnitResults.module).Perm
      (snapshot.units.map CompilationUnit.module) := by
  obtain ⟨order, horder, rfl⟩ := (run_eq_ok_iff auditor snapshot).1 h
  obtain ⟨-, -, hperm⟩ := dependencyOrder_settled snapshot.units horder
  have hunits := (perm_map_unit_filterMap_reportAlone auditor snapshot hperm).map
    CompilationUnit.module
  rw [List.map_map] at hunits
  rwa [AuditReport.units, List.map_map]

/-- The modules that a run reports on are distinct. -/
theorem nodup_map_module_units (h : auditor.run snapshot = .ok report) :
    (report.units.map UnitResults.module).Nodup :=
  (perm_map_module_units h).nodup_iff.2 (modulesDistinct_of_run h)

end Run

section Permuted

variable {auditor} {defs : Definitions} {units units' : List CompilationUnit}
  {report report' : AuditReport}

/-- Each report of the one run is a report of the other. -/
theorem mem_reports_of_perm (hperm : units.Perm units')
    (h : auditor.run ⟨defs, units⟩ = .ok report) (h' : auditor.run ⟨defs, units'⟩ = .ok report')
    {r : UnitReport} (hr : r ∈ report.reports) : r ∈ report'.reports := by
  have hdistinct : ModulesDistinct units := modulesDistinct_of_run h
  obtain ⟨i, hi⟩ := (mem_reports_iff h).1 hr
  have hunit := map_unit_reportAlone auditor ⟨defs, units⟩ i
  rw [hi, Option.map_some] at hunit
  -- the same unit stands somewhere in the other list, and its place does not matter
  obtain ⟨i', hunit'⟩ := exists_getElem?_of_perm hperm hunit.symm
  rw [mem_reports_iff h']
  refine ⟨i', ?_⟩
  rw [← reportAlone_of_perm auditor defs hperm hdistinct (hunit.symm.trans hunit'.symm), hi]

/-- **The reports of the two runs are the same**, up to their order. -/
theorem perm_reports (hperm : units.Perm units')
    (h : auditor.run ⟨defs, units⟩ = .ok report) (h' : auditor.run ⟨defs, units'⟩ = .ok report') :
    report.reports.Perm report'.reports := by
  -- the modules of the reports are distinct, so membership decides
  have hnodup : report.reports.Nodup := ((nodup_map_module_units h).of_map _).of_map _
  have hnodup' : report'.reports.Nodup := ((nodup_map_module_units h').of_map _).of_map _
  rw [List.perm_ext_iff_of_nodup hnodup hnodup']
  intro r
  exact ⟨mem_reports_of_perm hperm h h', mem_reports_of_perm hperm.symm h' h⟩

end Permuted

end Auditor

/-! ## Blocks of diagnostics -/

namespace AuditReport

/-- The diagnostics of a report fall into blocks, one for each module in the order of the
analysis. The block of a module is what the pass over its unit found out, and it is given by the
module alone. -/
structure InBlocks (report : AuditReport) (block : String → List Diagnostic) : Prop where
  distinct : (report.units.map UnitResults.module).Nodup
  own : ∀ r ∈ report.reports, r.diagnostics = block r.scene.unit.module
  diagnostics : report.diagnostics = (report.units.map UnitResults.module).flatMap block

/-- The diagnostics on a module. -/
def blockOf (report : AuditReport) (module : String) : List Diagnostic :=
  ((report.reports.find? (·.scene.unit.module == module)).map UnitReport.diagnostics).getD []

variable {report report' : AuditReport}

/-- A report on distinct modules falls into the blocks of its modules. -/
theorem inBlocks_blockOf (hdistinct : (report.units.map UnitResults.module).Nodup) :
    report.InBlocks report.blockOf := by
  have hmodules : report.units.map UnitResults.module =
      report.reports.map fun r => r.scene.unit.module := by
    rw [units, List.map_map]
    rfl
  have hown : ∀ r ∈ report.reports, r.diagnostics = report.blockOf r.scene.unit.module := by
    intro r hr
    rw [hmodules] at hdistinct
    rw [blockOf, find?_key_of_mem (fun r : UnitReport => r.scene.unit.module) hdistinct hr]
    rfl
  refine ⟨hdistinct, hown, ?_⟩
  rw [hmodules, List.flatMap_map]
  exact List.flatMap_congr hown

/-- The blocks do not depend on the order of the reports. -/
theorem blockOf_of_perm (hperm : report.reports.Perm report'.reports)
    (hdistinct : (report.units.map UnitResults.module).Nodup) :
    report.blockOf = report'.blockOf := by
  funext module
  have hkeys : (report.reports.map fun r => r.scene.unit.module).Nodup := by
    rw [units, List.map_map] at hdistinct
    exact hdistinct
  rw [blockOf, blockOf, find?_key_of_perm (fun r : UnitReport => r.scene.unit.module) hperm hkeys]

end AuditReport

namespace Auditor

open DependencyOrder

/-- **A run does not depend on the order in which the units are listed.** It succeeds for the one
list when it succeeds for the other. The results for each module are then the same, and so are the
blocks that the diagnostics fall into; only the order of the blocks may differ. -/
theorem run_perm_units (auditor : Auditor) (defs : Definitions)
    {units units' : List CompilationUnit} (hperm : units.Perm units') :
    ((∃ report, auditor.run ⟨defs, units⟩ = .ok report) ↔
      ∃ report', auditor.run ⟨defs, units'⟩ = .ok report') ∧
    ∀ report report', auditor.run ⟨defs, units⟩ = .ok report →
      auditor.run ⟨defs, units'⟩ = .ok report' →
        (report.units.map UnitResults.module).Perm (units.map CompilationUnit.module) ∧
        (∀ module, report.unit? module = report'.unit? module) ∧
        report.diagnostics.Perm report'.diagnostics ∧
        ∃ block, report.InBlocks block ∧ report'.InBlocks block := by
  constructor
  · rw [exists_run_iff, exists_run_iff]
    exact ⟨exists_dependencyOrder_of_perm hperm, exists_dependencyOrder_of_perm hperm.symm⟩
  · intro report report' h h'
    have hreports := perm_reports hperm h h'
    have hdistinct := nodup_map_module_units h
    refine ⟨perm_map_module_units h, ?_, hreports.flatMap_right _, report.blockOf, ?_, ?_⟩
    · exact find?_key_of_perm UnitResults.module (hreports.map UnitReport.analysis) hdistinct
    · exact AuditReport.inBlocks_blockOf hdistinct
    · rw [AuditReport.blockOf_of_perm hreports hdistinct]
      exact AuditReport.inBlocks_blockOf (nodup_map_module_units h')

/-- Two units that depend on a third one, which is listed last. -/
def siblings : List CompilationUnit :=
  [{ CompilationUnit.empty "web" with dependencies := ["lib"] },
    { CompilationUnit.empty "cli" with dependencies := ["lib"] }, .empty "lib"]

/-- An auditor that traces each pass. -/
def tracing : Auditor := { settings := { debug := true } }

/-- Read backwards, the siblings are analyzed the other way round, with the same results. -/
theorem siblings_reverse :
    ∃ report report', tracing.run ⟨.predeclared, siblings⟩ = .ok report ∧
      tracing.run ⟨.predeclared, siblings.reverse⟩ = .ok report' ∧
      report.units.map UnitResults.module = ["lib", "web", "cli"] ∧
      report'.units.map UnitResults.module = ["lib", "cli", "web"] ∧
      report.diagnostics.length = 6 ∧
      (∀ module, report.unit? module = report'.unit? module) ∧
      report.diagnostics.Perm report'.diagnostics ∧
      ∃ block, report.InBlocks block ∧ report'.InBlocks block := by
  have horder : dependencyOrder siblings = .ok [2, 0, 1] := by decide +kernel
  have horder' : dependencyOrder siblings.reverse = .ok [0, 1, 2] := by decide +kernel
  have hrun := (run_eq_ok_iff tracing ⟨.predeclared, siblings⟩).2 ⟨_, horder, rfl⟩
  have hrun' := (run_eq_ok_iff tracing ⟨.predeclared, siblings.reverse⟩).2 ⟨_, horder', rfl⟩
  obtain ⟨-, hsame⟩ :=
    run_perm_units tracing .predeclared (List.reverse_perm siblings).symm
  obtain ⟨-, hunits, hdiagnostics, hblocks⟩ := hsame _ _ hrun hrun'
  exact ⟨_, _, hrun, hrun', rfl, rfl, by decide +kernel, hunits, hdiagnostics, hblocks⟩

end Auditor

end BindingAudit
