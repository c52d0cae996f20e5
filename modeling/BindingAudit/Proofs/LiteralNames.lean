/-
# Names in string literals

A callee that is a string literal is looked up by name: in the registry of the unit, then in those
of the units that it depends on, nearest first.

Registries are asked for a role, but additional names are shared by both roles. Within one
registry the role is respected unless an additional name was last given under the other role. Over
a whole run no registration gets lost on the way: what a unit or any of its dependencies registers
under a role is found under that role.

* `IsStringLiteral` : callees that are looked up by name;
* `mem_invocations_iff` : where the invocations of a unit come from;
* `literal_name_foundUnder` : the role of what a name stands for, in any registry;
* `workflow_lookup_finds_activity` : it need not be the role that was asked for;
* `resolution_of_literal` : what a name stands for in a run, and which unit decides.
-/
import BindingAudit.Proofs.NearestFirst
import BindingAudit.Proofs.Occurrence
import BindingAudit.Proofs.RegistryHistory
import BindingAudit.Proofs.UnitPermutation

namespace BindingAudit

open Relation DependencyOrder

/-! ## Literal callees -/

/-- A string literal with a given content, possibly in parentheses. -/
inductive Expr.IsStringLiteral (text : String) : Expr → Prop where
  | literal (node : Node) : IsStringLiteral text (.literal node .string text)
  | paren (node : Node) {inner : Expr} (h : IsStringLiteral text inner) :
      IsStringLiteral text (.paren node inner)

theorem Expr.IsStringLiteral.literalText? {text : String} {e : Expr} (h : e.IsStringLiteral text) :
    e.literalText? = some text := by
  induction h with
  | literal node => rfl
  | paren node _ ih => exact ih

namespace Scene

variable {scene : Scene}

/-- A literal callee is resolved to what the registries know by its name. -/
theorem resolve_eq_resolved_iff {form : InvocationForm} {callee : Expr} {name : String}
    {d : Declaration} (hliteral : callee.IsStringLiteral name) :
    scene.resolve form callee = .resolved d ↔ scene.findRegistered? form.role name = some d := by
  simp only [resolve, hliteral.literalText?]
  cases scene.findRegistered? form.role name with
  | none => simp
  | some e => simp

/-- The invocations of a unit are those that its calls are. -/
theorem mem_invocations_iff {i : Invocation} :
    i ∈ scene.invocations ↔
      ∃ file ∈ scene.unit.files, ∃ e ∈ file.calls, scene.invocation? file.name e = some i := by
  simp only [invocations, invocationCalls, List.mem_map, List.mem_flatMap, List.mem_filterMap,
    Option.map_eq_some_iff]
  constructor
  · rintro ⟨_, ⟨file, hfile, e, he, _, hinvocation, rfl⟩, rfl⟩
    exact ⟨file, hfile, e, he, hinvocation⟩
  · rintro ⟨file, hfile, e, he, hinvocation⟩
    exact ⟨(e, i), ⟨file, hfile, e, he, i, hinvocation, rfl⟩, rfl⟩

/-- Every site is resolved through its callee. -/
theorem resolution_of_mem_invocations {site : CallSite}
    (h : Invocation.site site ∈ scene.invocations) :
    site.resolution = scene.resolve site.form site.callee := by
  obtain ⟨file, -, e, -, hinvocation⟩ := mem_invocations_iff.1 h
  cases e with
  | call node fn args spread =>
    simp only [invocation?, Option.bind_eq_bind, Option.bind_eq_some_iff] at hinvocation
    obtain ⟨form, -, hinvocation⟩ := hinvocation
    split at hinvocation
    · cases hinvocation
    · cases hinvocation
      rfl
  | _ => simp [invocation?] at hinvocation

end Scene

/-! ## Names and roles -/

namespace Registry

/-- **The role of what a name stands for.** In a registry that was made by calls, a look-up finds a
declaration of the role that it asks for, unless the name was last given under the other role; and
so does a literal callee, in one of the registries of its scene. -/
theorem literal_name_foundUnder :
    (∀ module calls role name d, (ofCalls module calls).lookup role name = some d →
      FoundUnder module calls role name d) ∧
    ∀ (scene : Scene) (histories : List (String × List RegistryCall)),
      scene.registry :: scene.dependencies = histories.map (fun h => ofCalls h.1 h.2) →
        ∀ form callee name d, Expr.IsStringLiteral name callee →
          scene.resolve form callee = .resolved d →
            ∃ h ∈ histories, FoundUnder h.1 h.2 form.role name d := by
  refine ⟨fun module calls role name d h => foundUnder_of_lookup h, ?_⟩
  intro scene histories hscene form callee name d hliteral h
  rw [Scene.resolve_eq_resolved_iff hliteral, Scene.findRegistered?, hscene] at h
  obtain ⟨r, hr, hlookup⟩ := List.exists_of_findSome?_eq_some h
  obtain ⟨history, hhistory, rfl⟩ := List.mem_map.1 hr
  exact ⟨history, hhistory, foundUnder_of_lookup hlookup⟩

/-- A workflow, and an activity under an additional name. -/
def mixedCalls : List RegistryCall :=
  [.register .workflow { (default : Declaration) with id := ⟨0⟩, name := "Start" },
    .registerAs .activity { (default : Declaration) with id := ⟨1⟩, name := "greet" }]

/-- A unit whose registry was made by these calls. -/
def mixedScene : Scene where
  defs := .predeclared
  unit := .empty "app"
  registry := ofCalls "app" mixedCalls
  dependencies := []
  conventions := .temporal

/-- A look-up of the activity as a workflow, and a literal callee that names the workflow. -/
theorem mixedCalls_foundUnder :
    (∃ d, (ofCalls "app" mixedCalls).lookup .workflow "greet" = some d ∧
      FoundUnder "app" mixedCalls .workflow "greet" d) ∧
    ∃ d, mixedScene.resolve .executeChildWorkflow (.literal ⟨⟨0⟩, .start⟩ .string "Start") =
        .resolved d ∧
      ∃ h ∈ [("app", mixedCalls)], FoundUnder h.1 h.2 .workflow "Start" d := by
  obtain ⟨hlookup, hresolve⟩ := literal_name_foundUnder
  refine ⟨⟨_, rfl, hlookup "app" mixedCalls .workflow "greet" _ rfl⟩, _, rfl, ?_⟩
  exact hresolve mixedScene [("app", mixedCalls)] rfl .executeChildWorkflow
    (.literal ⟨⟨0⟩, .start⟩ .string "Start") "Start" _ (.literal _) rfl

/-- Asked for as a workflow, the activity is found by its additional name, although no workflow
has been registered under it. So a look-up need not respect the role that it asks for. -/
theorem workflow_lookup_finds_activity :
    ¬ ∀ module calls role name d, (ofCalls module calls).lookup role name = some d →
      (ofCalls module calls).Lists role d := by
  intro hrespects
  obtain ⟨e, he, -, hname⟩ := hrespects "app" mixedCalls .workflow "greet" _ rfl
  have hlisted : (ofCalls "app" mixedCalls).declarations .workflow =
      [{ (default : Declaration) with id := ⟨0⟩, name := "Start" }] := rfl
  rw [hlisted, List.mem_singleton] at he
  subst he
  exact absurd hname (by decide)

end Registry

/-! ## Names across units -/

namespace DependencyOrder

/-- The units that the unit at place `i` depends on, directly or not, each once and nearest
first. -/
structure NearestFirst (units : List CompilationUnit) (i : Nat)
    (others : List CompilationUnit) : Prop where
  listed : (dependencyClosure units i).map (units[·]?) = others.map some
  nodup : (dependencyClosure units i).Nodup
  complete : ∀ j, j ∈ dependencyClosure units i ↔ TransGen (DependsOn units) i j
  sorted : (dependencyClosure units i).Pairwise (NoFarther units i)

/-- The closure of a unit lists its dependencies nearest first. -/
theorem nearestFirst_upstream {units : List CompilationUnit} (hdistinct : ModulesDistinct units)
    (hacyclic : Acyclic units) {i : Nat} (hi : i < units.length) :
    NearestFirst units i (Auditor.upstream units i) where
  listed := Auditor.map_dependencyClosure hdistinct hi
  nodup := nodup_dependencyClosure hdistinct i
  complete := fun _ => mem_dependencyClosure_iff_of_acyclic hdistinct hacyclic hi
  sorted := pairwise_dependencyClosure hdistinct i

end DependencyOrder

namespace Auditor

variable (auditor : Auditor) (snapshot : Snapshot)

/-- The registrations of a unit. -/
def ownRegistrations (unit : CompilationUnit) : List Registration :=
  (Registration.discover snapshot.defs auditor.conventions unit).registrations

/-- A unit registers a name under a role: as the name of a target or as an additional one. -/
def Registers (unit : CompilationUnit) (role : Role) (name : String) : Prop :=
  ∃ reg ∈ auditor.ownRegistrations snapshot unit,
    reg.role = role ∧ (reg.target.name = name ∨ reg.extraName = some name)

/-- Of the units of a list, the first whose registry knows a name knows it as `d`, by one of its
registrations. -/
def FirstToKnow (units : List CompilationUnit) (role : Role) (name : String) (d : Declaration) :
    Prop :=
  ∃ before unit after, units = before ++ unit :: after ∧
    (∀ earlier ∈ before, (auditor.ownRegistry snapshot earlier).lookup role name = none) ∧
    (auditor.ownRegistry snapshot unit).lookup role name = some d ∧
    ∃ reg ∈ auditor.ownRegistrations snapshot unit, reg.Introduces d

variable {auditor snapshot}

/-- The registry of a unit knows every name that the unit registers. -/
theorem Registers.exists_lookup {unit : CompilationUnit} {role : Role} {name : String}
    (h : auditor.Registers snapshot unit role name) :
    ∃ d, (auditor.ownRegistry snapshot unit).lookup role name = some d := by
  obtain ⟨reg, hreg, rfl, hname⟩ := h
  have hintroduces : ∃ d, reg.Introduces d ∧ d.name = name := by
    rcases hname with hname | hname
    · exact ⟨reg.target, .inl rfl, hname⟩
    · exact ⟨reg.target.underName name, .inr ⟨name, hname, rfl⟩, rfl⟩
  obtain ⟨d, hd, rfl⟩ := hintroduces
  obtain ⟨c, hc, hrole, rfl⟩ := hd.exists_call
  rw [ownRegistry, Registration.registry_discover, ← hrole]
  exact Registry.exists_lookup_of_call (List.mem_flatMap.2 ⟨reg, hreg, hc⟩)

/-- What the registry of a unit knows by a name has that name, and a registration of the unit
introduces it. -/
theorem exists_introduces_of_lookup {unit : CompilationUnit} {role : Role} {name : String}
    {d : Declaration} (h : (auditor.ownRegistry snapshot unit).lookup role name = some d) :
    d.name = name ∧ ∃ reg ∈ auditor.ownRegistrations snapshot unit, reg.Introduces d := by
  rw [ownRegistry, Registration.registry_discover] at h
  obtain ⟨hname, horigin⟩ := Registry.exists_call_of_lookup h
  refine ⟨hname, ?_⟩
  have hcall : ∃ c ∈ (auditor.ownRegistrations snapshot unit).flatMap Registration.calls,
      c.decl = d := by
    rcases horigin with ⟨other, before, after, hcalls, -⟩ | ⟨c, hc, -, hd⟩
    · refine ⟨.registerAs other d, ?_, rfl⟩
      rw [ownRegistrations, hcalls]
      simp
    · exact ⟨c, hc, hd⟩
  obtain ⟨c, hc, rfl⟩ := hcall
  obtain ⟨reg, hreg, hc⟩ := List.mem_flatMap.1 hc
  exact ⟨reg, hreg, (Registration.mem_calls hc).2⟩

/-- A name that is looked up in the registries of several units is found if one of them registers
it. -/
theorem exists_findSome?_lookup {units : List CompilationUnit} {role : Role} {name : String}
    (h : ∃ unit ∈ units, auditor.Registers snapshot unit role name) :
    ∃ d, (units.map (auditor.ownRegistry snapshot)).findSome? (·.lookup role name) = some d := by
  obtain ⟨unit, hunit, hregisters⟩ := h
  obtain ⟨d, hd⟩ := hregisters.exists_lookup
  rw [← Option.isSome_iff_exists, List.findSome?_isSome_iff]
  exact ⟨_, List.mem_map_of_mem hunit, by rw [hd]; rfl⟩

/-- What is found there is what the first unit that knows the name knows it as. -/
theorem firstToKnow_of_findSome?_lookup {units : List CompilationUnit} {role : Role}
    {name : String} {d : Declaration}
    (h : (units.map (auditor.ownRegistry snapshot)).findSome? (·.lookup role name) = some d) :
    d.name = name ∧ auditor.FirstToKnow snapshot units role name d := by
  rw [List.findSome?_map, List.findSome?_eq_some_iff] at h
  obtain ⟨before, unit, after, hunits, hlookup, hbefore⟩ := h
  obtain ⟨hname, hreg⟩ := exists_introduces_of_lookup hlookup
  exact ⟨hname, before, unit, after, hunits, hbefore, hlookup, hreg⟩

/-- The registries that a unit is analyzed with are its own and those it is given. -/
theorem findRegistered?_analyze (unit : CompilationUnit) (others : List CompilationUnit)
    (role : Role) (name : String) :
    (auditor.analyze snapshot.defs unit
      (others.map (auditor.ownRegistry snapshot))).scene.findRegistered? role name =
      ((unit :: others).map (auditor.ownRegistry snapshot)).findSome? (·.lookup role name) := rfl

/-- A run succeeds only if no dependency runs in a circle. -/
theorem acyclic_of_run {report : AuditReport} (h : auditor.run snapshot = .ok report) :
    Acyclic snapshot.units := by
  obtain ⟨order, horder, -⟩ := (run_eq_ok_iff auditor snapshot).1 h
  exact ((exists_dependencyOrder_iff snapshot.units).1 ⟨order, horder⟩).2.2

/-- A run reports on each unit of the snapshot once. -/
theorem perm_map_unit_reports {report : AuditReport} (h : auditor.run snapshot = .ok report) :
    (report.reports.map fun r => r.scene.unit).Perm snapshot.units := by
  obtain ⟨order, horder, rfl⟩ := (run_eq_ok_iff auditor snapshot).1 h
  obtain ⟨-, -, hperm⟩ := dependencyOrder_settled snapshot.units horder
  exact perm_map_unit_filterMap_reportAlone auditor snapshot hperm

/-- **Resolution of literal names in a run.** A run that succeeds reports on every unit once. At an
invocation in a unit whose callee is a string literal, the name is resolved if the unit or one that
it depends on registers it under the role of the invocation; and whatever it is resolved to has
that name and comes from the first unit that knows it, the unit itself coming first and its
dependencies nearest first. -/
theorem resolution_of_literal {report : AuditReport} (h : auditor.run snapshot = .ok report) :
    (report.reports.map fun r => r.scene.unit).Perm snapshot.units ∧
    ∀ r ∈ report.reports, ∃ i others, snapshot.units[i]? = some r.scene.unit ∧
      NearestFirst snapshot.units i others ∧
      ∀ site name, Invocation.site site ∈ r.scene.invocations →
        Expr.IsStringLiteral name site.callee →
          ((∃ unit ∈ r.scene.unit :: others,
              auditor.Registers snapshot unit site.form.role name) →
            ∃ d, site.resolution = .resolved d) ∧
          ∀ d, site.resolution = .resolved d →
            d.name = name ∧
              auditor.FirstToKnow snapshot (r.scene.unit :: others) site.form.role name d := by
  refine ⟨perm_map_unit_reports h, fun r hr => ?_⟩
  obtain ⟨i, hi⟩ := (mem_reports_iff h).1 hr
  obtain ⟨unit, hunit, rfl⟩ := Option.map_eq_some_iff.1 hi
  have hlt := (List.getElem?_eq_some_iff.1 hunit).1
  have hnearest := nearestFirst_upstream (modulesDistinct_of_run h) (acyclic_of_run h) hlt
  refine ⟨i, upstream snapshot.units i, hunit, hnearest, ?_⟩
  intro site name hsite hliteral
  rw [Scene.resolution_of_mem_invocations hsite]
  simp only [Scene.resolve_eq_resolved_iff hliteral, findRegistered?_analyze]
  exact ⟨exists_findSome?_lookup, fun d => firstToKnow_of_findSome?_lookup⟩

/-- A function `Hello`, a worker type and the type of activity options. -/
def greetingDefs : Definitions :=
  Definitions.declareFunction
    ⟨((TypeTable.predeclared.add (.named ⟨"go.temporal.io/sdk/worker", "Worker", none, []⟩)).add
      (.struct [⟨"Name", TypeTable.basic .string, none, false⟩])).add
        (.named ⟨"go.temporal.io/sdk/activity", "RegisterOptions", some ⟨20⟩, []⟩), []⟩
    "base" "Hello" ⟨[], [], false⟩

/-- A unit that registers `Hello` as an activity, with `greet` as an additional name. -/
def greetingBase : CompilationUnit :=
  { CompilationUnit.empty "base" with
    files := [⟨"base.go", [], [⟨"main", none, [.expr (.call ⟨⟨7⟩, .start⟩
      (.selector ⟨⟨2⟩, .start⟩ (.ident ⟨⟨0⟩, .start⟩ "w")
        (.ident ⟨⟨1⟩, .start⟩ "RegisterActivityWithOptions"))
      [.ident ⟨⟨3⟩, .start⟩ "Hello", .composite ⟨⟨6⟩, .start⟩ none
        [.mk (some (.ident ⟨⟨5⟩, .start⟩ "Name")) (.literal ⟨⟨4⟩, .start⟩ .string "greet")]]
      false)], .start⟩]⟩]
    info := { Annotations.empty with
      types := (FinMap.empty.insert ⟨0⟩ ⟨19⟩).insert ⟨6⟩ ⟨21⟩
      uses := FinMap.empty.insert ⟨3⟩ (.func ⟨0⟩) } }

/-- The call `workflow.ExecuteActivity(ctx, ("greet"))`. -/
def greetingCall : Expr :=
  .call ⟨⟨6⟩, .start⟩
    (.selector ⟨⟨2⟩, .start⟩ (.ident ⟨⟨0⟩, .start⟩ "workflow")
      (.ident ⟨⟨1⟩, .start⟩ "ExecuteActivity"))
    [.ident ⟨⟨3⟩, .start⟩ "ctx", .paren ⟨⟨5⟩, .start⟩ (.literal ⟨⟨4⟩, .start⟩ .string "greet")]
    false

/-- A unit that makes this call. -/
def greetingApp : CompilationUnit :=
  { CompilationUnit.empty "app" with
    dependencies := ["lib"]
    files := [⟨"app.go", [], [⟨"main", none, [.expr greetingCall], .start⟩]⟩]
    info := { Annotations.empty with
      uses := FinMap.empty.insert ⟨0⟩ (.module "workflow" "go.temporal.io/sdk/workflow") } }

/-- The two units, with a third one between them. -/
def greeting : Snapshot where
  defs := greetingDefs
  units :=
    [greetingApp, { CompilationUnit.empty "lib" with dependencies := ["base"] }, greetingBase]

/-- The report on the unit that makes the call. -/
def greetingReport : UnitReport :=
  ({} : Auditor).analyze greeting.defs greetingApp
    ((upstream greeting.units 0).map (({} : Auditor).ownRegistry greeting))

/-- The call as an invocation. -/
def greetingSite : CallSite where
  position := Span.start.toPosition "app.go"
  form := .executeActivity
  callee := .paren ⟨⟨5⟩, .start⟩ (.literal ⟨⟨4⟩, .start⟩ .string "greet")
  resolution := .resolved
    ⟨⟨0⟩, "greet", "base", none, ⟨[], [], false⟩, ⟨22⟩, .unknown⟩
  arguments := []
  spread := false

/-- The name is found two units away, as an additional name of `Hello`. -/
theorem greeting_resolution :
    ∃ report d others, ({} : Auditor).run greeting = .ok report ∧
      greetingReport ∈ report.reports ∧
      Invocation.site greetingSite ∈ greetingReport.scene.invocations ∧
      Expr.IsStringLiteral "greet" greetingSite.callee ∧
      greetingSite.resolution = .resolved d ∧ d.id = ⟨0⟩ ∧ d.name = "greet" ∧
      ({} : Auditor).FirstToKnow greeting (greetingApp :: others) .activity "greet" d := by
  have horder : dependencyOrder greeting.units = .ok [2, 1, 0] := by decide +kernel
  have hrun := (run_eq_ok_iff {} greeting).2 ⟨_, horder, rfl⟩
  have hr := (mem_reports_iff hrun (r := greetingReport)).2 ⟨0, rfl⟩
  have hform : greetingReport.scene.form? greetingCall = some .executeActivity := by
    decide +kernel
  have hresolve : greetingReport.scene.resolve .executeActivity greetingSite.callee =
      greetingSite.resolution := by decide +kernel
  have hsite : Invocation.site greetingSite ∈ greetingReport.scene.invocations := by
    refine Scene.mem_invocations_iff.2 ⟨_, .head _, greetingCall, ?_, ?_⟩
    · exact (SourceFile.mem_calls_iff rfl _).2 ⟨_, .head _, _, .head _, .expr .here⟩
    · rw [greetingCall] at hform ⊢
      rw [Scene.invocation?, hform]
      exact congrArg
        (fun resolution => some (Invocation.site { greetingSite with resolution })) hresolve
  have hliteral : Expr.IsStringLiteral "greet" greetingSite.callee := .paren _ (.literal _)
  obtain ⟨-, hnames⟩ := resolution_of_literal hrun
  obtain ⟨i, others, -, -, hnames⟩ := hnames _ hr
  obtain ⟨hname, hfirst⟩ := (hnames greetingSite "greet" hsite hliteral).2 _ rfl
  exact ⟨_, _, others, hrun, hr, hsite, hliteral, rfl, rfl, hname, hfirst⟩

end Auditor

end BindingAudit
