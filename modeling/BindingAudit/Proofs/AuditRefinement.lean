/-
# What a run means

A run analyzes the units one after the other and looks registries up among the reports it has
made so far. Said without that state: each unit is analyzed by itself, against the registries of
all units that it depends on, nearest first.

* `foldl_analyzeNext` : after any settled part of the order, the reports made so far are those of
  the units analyzed by themselves. Everything a unit depends on has been analyzed before it, so
  no registry is missing when it is looked up;
* `run_eq_ok_iff` : a run succeeds when there is an order, and reports on each unit by itself;
* `run_eq_slots` : results and diagnostics are what is left in the slots and the sink of a loop that
  has a slot for each unit and one sink for all;
* `run_refines_reportsOn` : the meaning of a run, as a statement about its report alone.
-/
import Mathlib.Data.List.Forall2
import Mathlib.Data.Option.Basic
import BindingAudit.Audit.Run
import BindingAudit.Proofs.DependencyClosure

namespace BindingAudit

open Relation DependencyOrder

/-! ## Lists of partial results -/

/-- A partial function that is defined on a whole list drops none of its entries. -/
theorem forall₂_filterMap {α β : Type} {R : α → β → Prop} {f : α → Option β} {l : List α}
    (h : ∀ a ∈ l, ∃ b, f a = some b ∧ R a b) : List.Forall₂ R l (l.filterMap f) := by
  induction l with
  | nil => exact .nil
  | cons a l ih =>
    obtain ⟨b, hb, hR⟩ := h a List.mem_cons_self
    rw [List.filterMap_cons_some hb]
    exact .cons hR (ih fun a ha => h a (List.mem_cons_of_mem _ ha))

/-- The same, as an equation between lists. -/
theorem map_eq_map_some_filterMap {α β : Type} {f : α → Option β} {l : List α}
    (h : ∀ a ∈ l, ∃ b, f a = some b) : l.map f = (l.filterMap f).map some := by
  have hall : List.Forall₂ (fun a b => f a = some b) l (l.filterMap f) :=
    forall₂_filterMap fun a ha => (h a ha).imp fun b hb => ⟨hb, hb⟩
  rw [← List.forall₂_eq_eq_eq, List.forall₂_map_left_iff, List.forall₂_map_right_iff]
  exact hall

/-- Results that are listed with their places are found again there. -/
theorem lookup_filterMap_self {β : Type} (f : Nat → Option β) (is : List Nat) (j : Nat) :
    (is.filterMap fun i => (f i).map (i, ·)).lookup j = if j ∈ is then f j else none := by
  induction is with
  | nil => rfl
  | cons i is ih =>
    by_cases hij : j = i
    · subst hij
      cases hf : f j with
      | none => simp [hf, ih]
      | some b => simp [hf]
    · cases hf : f i with
      | none => simp [hf, ih, hij]
      | some b => simp [hf, ih, hij, List.lookup_cons, beq_eq_false_iff_ne.2 hij]

namespace Auditor

variable (auditor : Auditor) (snapshot : Snapshot)

/-! ## Units by themselves -/

/-- The registry that the registrations of a unit make. -/
def ownRegistry (unit : CompilationUnit) : Registry :=
  (Registration.discover snapshot.defs auditor.conventions unit).registry

/-- The units that a unit depends on, directly or not, nearest first. -/
def upstream (units : List CompilationUnit) (i : Nat) : List CompilationUnit :=
  (dependencyClosure units i).filterMap (units[·]?)

/-- The report on the unit at place `i` by itself. -/
def reportAlone (i : Nat) : Option UnitReport :=
  (snapshot.units[i]?).map fun unit =>
    auditor.analyze snapshot.defs unit
      ((upstream snapshot.units i).map (auditor.ownRegistry snapshot))

/-- The registry in the report on a unit is the unit's own, whatever it was resolved against. -/
theorem map_registry_reportAlone (j : Nat) :
    ((auditor.reportAlone snapshot j).map fun r => r.outcome.registry) =
      (snapshot.units[j]?).map (auditor.ownRegistry snapshot) := by
  rw [reportAlone, Option.map_map]
  rfl

/-- Every place in the closure of a unit is a place of a unit. -/
theorem map_dependencyClosure {units : List CompilationUnit} (hdistinct : ModulesDistinct units)
    {i : Nat} (hi : i < units.length) :
    (dependencyClosure units i).map (units[·]?) = (upstream units i).map some := by
  refine map_eq_map_some_filterMap fun j hj => ?_
  have hreach := ((mem_dependencyClosure_iff hdistinct hi).1 hj).2
  have hlt := lt_length_of_reflTransGen hi hreach.to_reflTransGen
  exact ⟨units[j], List.getElem?_eq_getElem hlt⟩

/-! ## The loop -/

/-- **The loop over a settled order.** The reports made so far are those on the units by
themselves. -/
theorem foldl_analyzeNext (hdistinct : ModulesDistinct snapshot.units) {order : List Nat}
    (hsettled : Settled snapshot.units order) :
    order.foldl (auditor.analyzeNext snapshot) [] =
      order.filterMap fun j => (auditor.reportAlone snapshot j).map (j, ·) := by
  induction hsettled with
  | nil => rfl
  | @snoc order i unit hsettled hnew hunit hbefore ih =>
    have hi : i < snapshot.units.length := (List.getElem?_eq_some_iff.1 hunit).1
    -- with `i` at its end the order is still settled, so all that `i` depends on stands before it
    have hdone : ∀ j ∈ dependencyClosure snapshot.units i, j ∈ order := by
      intro j hj
      obtain ⟨hne, hreach⟩ := (mem_dependencyClosure_iff hdistinct hi).1 hj
      have hnext := Settled.snoc hsettled hnew hunit hbefore
      have hmem := (hnext.idxOf_lt_of_transGen hdistinct (by simp) hreach).1
      simpa [hne] using hmem
    -- nothing is dropped: each registry that is looked up is that of a unit analyzed before
    have hregistries : ((dependencyClosure snapshot.units i).filterMap fun j =>
          ((order.filterMap fun j => (auditor.reportAlone snapshot j).map (j, ·)).lookup j).map
            fun r => r.outcome.registry) =
        (upstream snapshot.units i).map (auditor.ownRegistry snapshot) := by
      rw [upstream, List.map_filterMap]
      refine List.filterMap_congr fun j hj => ?_
      rw [lookup_filterMap_self, if_pos (hdone j hj), map_registry_reportAlone]
    rw [List.foldl_append, ih, List.filterMap_append, List.foldl_cons, List.foldl_nil]
    simp only [analyzeNext, hunit, hregistries]
    simp [reportAlone, hunit]

/-- **When a run succeeds, and with which report.** -/
theorem run_eq_ok_iff {report : AuditReport} :
    auditor.run snapshot = .ok report ↔
      ∃ order, dependencyOrder snapshot.units = .ok order ∧
        report = ⟨order.filterMap (auditor.reportAlone snapshot)⟩ := by
  rw [run, bind_eq_ok_iff]
  refine exists_congr fun order => and_congr_right fun horder => ?_
  obtain ⟨hdistinct, hsettled, -⟩ := dependencyOrder_settled snapshot.units horder
  rw [foldl_analyzeNext auditor snapshot hdistinct hsettled, List.map_filterMap]
  simp only [Option.map_map, Function.comp_def, Option.map_id']
  constructor
  · rintro ⟨⟩
    rfl
  · rintro rfl
    rfl

/-- A run succeeds exactly when the units can be ordered. -/
theorem exists_run_iff :
    (∃ report, auditor.run snapshot = .ok report) ↔
      ∃ order, dependencyOrder snapshot.units = .ok order := by
  constructor
  · rintro ⟨report, h⟩
    obtain ⟨order, horder, -⟩ := (run_eq_ok_iff auditor snapshot).1 h
    exact ⟨order, horder⟩
  · rintro ⟨order, horder⟩
    exact ⟨_, (run_eq_ok_iff auditor snapshot).2 ⟨order, horder, rfl⟩⟩

/-! ## Slots and sink -/

/-- What a loop over the units has at hand: a slot for the results of each unit, and one sink for the
diagnostics of all. -/
structure Progress where
  slots : List (Option UnitResults)
  sink : List Diagnostic

/-- Nothing has been analyzed. -/
def Progress.start (units : List CompilationUnit) : Progress :=
  ⟨List.replicate units.length none, []⟩

/-- Analyzes the `i`-th unit: registries are looked up in the slots, the results go into a slot and
the diagnostics into the sink. -/
def advance (p : Progress) (i : Nat) : Progress :=
  match snapshot.units[i]? with
  | none => p
  | some unit =>
      let registries := (dependencyClosure snapshot.units i).filterMap fun j =>
        p.slots[j]?.join.map UnitResults.registry
      let r := auditor.analyze snapshot.defs unit registries
      ⟨p.slots.set i (some r.analysis), p.sink ++ r.diagnostics⟩

/-- Slots and sink hold what is in the reports made so far. -/
structure Progress.Holds (p : Progress) (done : List (Nat × UnitReport)) : Prop where
  length : p.slots.length = snapshot.units.length
  slots : ∀ j, p.slots[j]?.join = (done.lookup j).map UnitReport.analysis
  sink : p.sink = (done.map Prod.snd).flatMap UnitReport.diagnostics

theorem holds_start : (Progress.start snapshot.units).Holds snapshot [] where
  length := List.length_replicate
  slots j := by
    rw [Progress.start, List.getElem?_replicate]
    split <;> rfl
  sink := rfl

/-- **One unit.** Its results go where no report was. -/
theorem holds_advance {p : Progress} {done : List (Nat × UnitReport)} (h : p.Holds snapshot done)
    {i : Nat} (hnew : done.lookup i = none) :
    (auditor.advance snapshot p i).Holds snapshot (auditor.analyzeNext snapshot done i) := by
  unfold advance analyzeNext
  cases hunit : snapshot.units[i]? with
  | none => exact h
  | some unit =>
    have hlt : i < p.slots.length := by
      rw [h.length]
      exact (List.getElem?_eq_some_iff.1 hunit).1
    -- a registry is in a slot exactly if it is in a report made before
    have hregistries : ((dependencyClosure snapshot.units i).filterMap fun j =>
          p.slots[j]?.join.map UnitResults.registry) =
        (dependencyClosure snapshot.units i).filterMap fun j =>
          (done.lookup j).map fun r => r.outcome.registry := by
      simp only [h.slots, Option.map_map]
      rfl
    dsimp only
    rw [hregistries]
    refine ⟨?_, fun j => ?_, ?_⟩
    · rw [List.length_set, h.length]
    · rw [List.getElem?_set, List.lookup_append]
      by_cases hij : i = j
      · subst hij
        simp [hlt, hnew]
      · simp [hij, h.slots, List.lookup_cons, beq_eq_false_iff_ne.2 (Ne.symm hij)]
    · simp [h.sink]

/-- **All units** of a settled order. -/
theorem holds_foldl_advance (hdistinct : ModulesDistinct snapshot.units) {order : List Nat}
    (hsettled : Settled snapshot.units order) :
    (order.foldl (auditor.advance snapshot) (.start snapshot.units)).Holds snapshot
      (order.foldl (auditor.analyzeNext snapshot) []) := by
  induction hsettled with
  | nil => exact holds_start snapshot
  | @snoc order i unit hsettled hnew hunit hbefore ih =>
    rw [List.foldl_append, List.foldl_append]
    refine holds_advance auditor snapshot ih ?_
    rw [foldl_analyzeNext auditor snapshot hdistinct hsettled, lookup_filterMap_self, if_neg hnew]

/-- **What a run leaves in slots and sink.** The results of its report are those in the slots, taken
in the order of the analysis, and its diagnostics are those in the sink. -/
theorem run_eq_slots {report : AuditReport} (h : auditor.run snapshot = .ok report) :
    ∃ order p, dependencyOrder snapshot.units = .ok order ∧
      p = order.foldl (auditor.advance snapshot) (.start snapshot.units) ∧
      report.units = order.filterMap (p.slots[·]?.join) ∧ report.diagnostics = p.sink := by
  obtain ⟨order, horder, rfl⟩ := (run_eq_ok_iff auditor snapshot).1 h
  obtain ⟨hdistinct, hsettled, -⟩ := dependencyOrder_settled snapshot.units horder
  have hholds := holds_foldl_advance auditor snapshot hdistinct hsettled
  rw [foldl_analyzeNext auditor snapshot hdistinct hsettled] at hholds
  refine ⟨order, _, horder, rfl, ?_, ?_⟩
  · rw [AuditReport.units, List.map_filterMap]
    refine List.filterMap_congr fun i hi => ?_
    rw [hholds.slots, lookup_filterMap_self, if_pos hi]
  · rw [hholds.sink, AuditReport.diagnostics, List.map_filterMap]
    simp [Function.comp_def]

/-! ## The meaning of a run -/

/-- The units at all places, in order, are the units. -/
theorem filterMap_range_getElem? (units : List CompilationUnit) :
    (List.range units.length).filterMap (units[·]?) = units := by
  have hmap : (List.range units.length).map (units[·]?) = units.map some := by
    refine List.ext_getElem (by simp) fun i h₁ h₂ => ?_
    simp
  have hsome := map_eq_map_some_filterMap (f := (units[·]?)) (l := List.range units.length)
    fun i hi => ⟨_, List.getElem?_eq_getElem (List.mem_range.1 hi)⟩
  exact List.map_injective_iff.2 (Option.some_injective _) (hsome.symm.trans hmap)

/-- The unit of a report on a place is the unit there. -/
theorem map_unit_reportAlone (i : Nat) :
    ((auditor.reportAlone snapshot i).map fun r => r.scene.unit) = snapshot.units[i]? := by
  rw [reportAlone, Option.map_map]
  exact Option.map_id'

/-- The units that are reported on are those at the places of the order. -/
theorem map_unit_filterMap_reportAlone (order : List Nat) :
    ((order.filterMap (auditor.reportAlone snapshot)).map fun r => r.scene.unit) =
      order.filterMap (snapshot.units[·]?) := by
  rw [List.map_filterMap]
  exact List.filterMap_congr fun i _ => map_unit_reportAlone auditor snapshot i

/-- An order of all places reports on the units, each once. -/
theorem perm_map_unit_filterMap_reportAlone {order : List Nat}
    (hperm : order.Perm (List.range snapshot.units.length)) :
    ((order.filterMap (auditor.reportAlone snapshot)).map fun r => r.scene.unit).Perm
      snapshot.units := by
  rw [map_unit_filterMap_reportAlone]
  have hunits := hperm.filterMap (snapshot.units[·]?)
  rwa [filterMap_range_getElem?] at hunits

/-- `r` is the report on the unit at place `i` by itself: the unit is resolved against the
registries of exactly the units that it depends on, directly or not, in the order of its
closure. -/
def ReportsOn (i : Nat) (r : UnitReport) : Prop :=
  ∃ (unit : CompilationUnit) (others : List CompilationUnit), snapshot.units[i]? = some unit ∧
    (∀ j, j ∈ dependencyClosure snapshot.units i ↔ TransGen (DependsOn snapshot.units) i j) ∧
    (dependencyClosure snapshot.units i).map (snapshot.units[·]?) = others.map some ∧
    r = auditor.analyze snapshot.defs unit (others.map (auditor.ownRegistry snapshot))

/-- The report on a place is a report on the unit there. -/
theorem reportsOn_of_reportAlone (hdistinct : ModulesDistinct snapshot.units)
    (hacyclic : Acyclic snapshot.units) {i : Nat} (hi : i < snapshot.units.length) :
    ∃ r, auditor.reportAlone snapshot i = some r ∧ auditor.ReportsOn snapshot i r := by
  have hunit := List.getElem?_eq_getElem hi
  refine ⟨_, by rw [reportAlone, hunit]; rfl, _, _, hunit, ?_, ?_, rfl⟩
  · intro j
    exact mem_dependencyClosure_iff_of_acyclic hdistinct hacyclic hi
  · exact map_dependencyClosure hdistinct hi

/-- **The meaning of a run that succeeds.** It reports on the units of the snapshot, each once and
in dependency order; each report is the one on the unit by itself; and the diagnostics are those
of the reports, one after the other. -/
theorem run_refines_reportsOn {report : AuditReport} (h : auditor.run snapshot = .ok report) :
    ∃ order, dependencyOrder snapshot.units = .ok order ∧
      order.Perm (List.range snapshot.units.length) ∧
      (report.reports.map fun r => r.scene.unit).Perm snapshot.units ∧
      List.Forall₂ (auditor.ReportsOn snapshot) order report.reports ∧
      report.units = report.reports.map UnitReport.analysis ∧
      report.diagnostics = report.reports.flatMap UnitReport.diagnostics := by
  obtain ⟨order, horder, rfl⟩ := (run_eq_ok_iff auditor snapshot).1 h
  obtain ⟨hdistinct, -, hperm⟩ := dependencyOrder_settled snapshot.units horder
  have hacyclic := ((exists_dependencyOrder_iff snapshot.units).1 ⟨order, horder⟩).2.2
  refine ⟨order, horder, hperm, ?_, ?_, rfl, rfl⟩
  · exact perm_map_unit_filterMap_reportAlone auditor snapshot hperm
  · refine forall₂_filterMap fun i hi => ?_
    have hlt : i < snapshot.units.length := List.mem_range.1 (hperm.mem_iff.1 hi)
    exact reportsOn_of_reportAlone auditor snapshot hdistinct hacyclic hlt

/-- Three units, each listed before what it depends on. -/
def chain : Snapshot where
  defs := .predeclared
  units := [{ CompilationUnit.empty "app" with dependencies := ["lib"] },
    { CompilationUnit.empty "lib" with dependencies := ["base"] }, .empty "base"]

/-- The chain is analyzed from its end, and each report is the one on the unit by itself. -/
theorem chain_reportsOn :
    ∃ report, ({} : Auditor).run chain = .ok report ∧
      List.Forall₂ (({} : Auditor).ReportsOn chain) [2, 1, 0] report.reports := by
  have horder : dependencyOrder chain.units = .ok [2, 1, 0] := by decide +kernel
  have hrun := (run_eq_ok_iff {} chain).2 ⟨_, horder, rfl⟩
  obtain ⟨order, horder', -, -, hreports, -⟩ := run_refines_reportsOn {} chain hrun
  rw [horder] at horder'
  cases horder'
  exact ⟨_, hrun, hreports⟩

end Auditor

end BindingAudit
