/-
# What the registrations of a unit amount to

The registrations of a unit fill three structures with different rules for repetitions: the lists of
the registry keep the first of two entries with one identity and name, its table of additional names
keeps the last declaration with a name, and a fact is exported once. Each of them is exactly what the
recorded registrations say.

The structures are described one by one, each as a fold over all registrations. They are also what
one pass over the calls leaves behind, in which a registration is made in full before the next one.

* `RegistrationOutcome.record` : what one registration does to all three;
* `Registration.discover_eq_foldl` : the outcome for a unit is that of a pass over its calls;
* `RegistrationOutcome.Exact` : what the structures say of the registrations;
* `Registration.discover_exact` : it holds of the outcome for every unit.
-/
import Mathlib.Tactic.SplitIfs
import BindingAudit.Proofs.RegistryHistory

namespace BindingAudit

/-! ## Lists -/

namespace Registry

/-- No two declarations of a list have both their identity and their name in common. -/
def Distinct (ds : List Declaration) : Prop := (ds.map fun d => (d.id, d.name)).Nodup

theorem distinct_enlist {ds : List Declaration} (h : Distinct ds) (d : Declaration) :
    Distinct (enlist d ds) := by
  unfold enlist
  split
  · exact h
  · rename_i hnew
    have hfresh : ∀ e ∈ ds, (e.id, e.name) ≠ (d.id, d.name) := by
      intro e he heq
      have hpair := Prod.mk.inj heq
      exact hnew (List.any_eq_true.2 ⟨e, he, by simp [hpair]⟩)
    rw [Distinct, List.map_append, List.nodup_append]
    refine ⟨h, by simp, ?_⟩
    intro x hx y hy
    obtain ⟨e, he, rfl⟩ := List.mem_map.1 hx
    obtain rfl : y = (d.id, d.name) := by simpa using hy
    exact hfresh e he

theorem distinct_ofCalls (module : String) (calls : List RegistryCall) (role : Role) :
    Distinct ((ofCalls module calls).declarations role) := by
  induction calls using List.reverseRecOn with
  | nil => cases role <;> exact List.nodup_nil
  | append_singleton calls c ih =>
    rw [ofCalls_concat, declarations_apply]
    split
    · exact distinct_enlist ih c.decl
    · exact ih

end Registry

namespace Registration

/-! ## Additional names -/

/-- Of the registrations with an additional name `name`, `reg` is the last one. -/
def LastGiven (regs : List Registration) (name : String) (reg : Registration) : Prop :=
  ∃ before after, regs = before ++ reg :: after ∧ reg.extraName = some name ∧
    ∀ later ∈ after, later.extraName ≠ some name

/-- What a registration binds an additional name to. -/
def binding? (name : String) (reg : Registration) : Option Declaration :=
  if reg.extraName = some name then some (reg.target.underName name) else none

theorem binding?_eq_some_iff {name : String} {reg : Registration} {d : Declaration} :
    reg.binding? name = some d ↔ reg.extraName = some name ∧ d = reg.target.underName name := by
  simp [binding?, eq_comm]

theorem binding?_eq_none_iff {name : String} {reg : Registration} :
    reg.binding? name = none ↔ reg.extraName ≠ some name := by
  simp [binding?]

theorem byExtraName?_enter (r : Registry) (reg : Registration) (name : String) :
    (enter r reg).byExtraName? name = (reg.binding? name).or (r.byExtraName? name) := by
  unfold enter binding?
  cases reg.extraName with
  | none => simpa using Registry.byExtraName?_register r reg.role reg.target name
  | some given =>
    rw [Registry.byExtraName?_registerAs, Registry.byExtraName?_register]
    by_cases h : given = name
    · subst h
      simp [Declaration.underName]
    · have h' : name ≠ given := fun heq => h heq.symm
      simp [Declaration.underName, h, h']

/-- The latest binding of an additional name counts. -/
theorem byExtraName?_foldl_enter (module : String) (regs : List Registration) (name : String) :
    (regs.foldl enter (.empty module)).byExtraName? name = regs.reverse.findSome? (binding? name) := by
  induction regs using List.reverseRecOn with
  | nil => rfl
  | append_singleton regs reg ih =>
    rw [List.foldl_append, List.foldl_cons, List.foldl_nil, byExtraName?_enter, ih,
      List.reverse_append, List.reverse_singleton, List.singleton_append, List.findSome?_cons]
    cases reg.binding? name <;> rfl

/-- An additional name that a registration gives stands for some declaration. -/
theorem isSome_byExtraName?_foldl_enter {module : String} {regs : List Registration}
    {reg : Registration} (hreg : reg ∈ regs) {name : String} (hname : reg.extraName = some name) :
    ((regs.foldl enter (.empty module)).byExtraName? name).isSome := by
  rw [byExtraName?_foldl_enter, List.findSome?_isSome_iff]
  exact ⟨reg, List.mem_reverse.2 hreg, by simp [binding?, hname]⟩

/-- **An additional name stands for what was given it last.** -/
theorem byExtraName?_foldl_enter_iff {module : String} {regs : List Registration} {name : String}
    {d : Declaration} :
    (regs.foldl enter (.empty module)).byExtraName? name = some d ↔
      ∃ reg, LastGiven regs name reg ∧ d = reg.target.underName name := by
  rw [byExtraName?_foldl_enter, List.findSome?_eq_some_iff]
  constructor
  · rintro ⟨later, reg, before, heq, hbinding, hlater⟩
    obtain ⟨hname, rfl⟩ := binding?_eq_some_iff.1 hbinding
    refine ⟨reg, ⟨before.reverse, later.reverse, ?_, hname, fun r hr => ?_⟩, rfl⟩
    · simpa using congrArg List.reverse heq
    · exact binding?_eq_none_iff.1 (hlater r (List.mem_reverse.1 hr))
  · rintro ⟨reg, ⟨before, after, rfl, hname, hafter⟩, rfl⟩
    refine ⟨after.reverse, reg, before.reverse, by simp, binding?_eq_some_iff.2 ⟨hname, rfl⟩, ?_⟩
    exact fun r hr => binding?_eq_none_iff.2 (hafter r (List.mem_reverse.1 hr))

/-! ## Facts -/

theorem labelOf_eq_iff {d : Declaration} {role : Role} {label : RoleLabel} :
    ExportedFacts.labelOf d role = label ↔
      role = label.role ∧ d.id = label.decl ∧ d.name = label.name := by
  cases label
  simp only [ExportedFacts.labelOf, RoleLabel.mk.injEq]
  exact ⟨fun ⟨hid, hname, hrole⟩ => ⟨hrole, hid, hname⟩, fun ⟨hrole, hid, hname⟩ => ⟨hid, hname, hrole⟩⟩

theorem module_exportFact (s : ExportedFacts) (reg : Registration) :
    (exportFact s reg).module = s.module := by
  unfold exportFact ExportedFacts.exportRole
  split_ifs <;> rfl

theorem facts_exportFact (s : ExportedFacts) (reg : Registration) :
    (exportFact s reg).facts =
      if reg.target.module = s.module ∧ ExportedFacts.labelOf reg.target reg.role ∉ s.facts then
        s.facts ++ [ExportedFacts.labelOf reg.target reg.role]
      else s.facts := by
  unfold exportFact ExportedFacts.exportRole
  split_ifs <;> simp_all

/-- One registration adds its own label, if it is about a declaration of the module. -/
theorem mem_facts_exportFact_iff {s : ExportedFacts} {reg : Registration} {label : RoleLabel} :
    label ∈ (exportFact s reg).facts ↔ label ∈ s.facts ∨
      ExportedFacts.labelOf reg.target reg.role = label ∧ reg.target.module = s.module := by
  rw [facts_exportFact]
  split_ifs with h
  · simp [h.1, eq_comm]
  · refine ⟨.inl, ?_⟩
    rintro (hlabel | ⟨rfl, hmodule⟩)
    · exact hlabel
    · by_contra hnew
      exact h ⟨hmodule, hnew⟩

theorem nodup_facts_exportFact {s : ExportedFacts} (hs : s.facts.Nodup) (reg : Registration) :
    (exportFact s reg).facts.Nodup := by
  rw [facts_exportFact]
  split_ifs with h
  · refine List.nodup_append.2 ⟨hs, by simp, ?_⟩
    rintro label hlabel _ hsame rfl
    exact h.2 (List.mem_singleton.1 hsame ▸ hlabel)
  · exact hs

theorem module_foldl_exportFact (module : String) (regs : List Registration) :
    (regs.foldl exportFact (.empty module)).module = module := by
  induction regs using List.reverseRecOn with
  | nil => rfl
  | append_singleton regs reg ih =>
    rw [List.foldl_append, List.foldl_cons, List.foldl_nil, module_exportFact, ih]

/-- **The facts** are the labels of the registered declarations of the module. -/
theorem mem_foldl_exportFact_iff {module : String} {regs : List Registration} {label : RoleLabel} :
    label ∈ (regs.foldl exportFact (.empty module)).facts ↔
      ∃ reg ∈ regs, ExportedFacts.labelOf reg.target reg.role = label ∧
        reg.target.module = module := by
  induction regs using List.reverseRecOn with
  | nil => simp [ExportedFacts.empty]
  | append_singleton regs reg ih =>
    rw [List.foldl_append, List.foldl_cons, List.foldl_nil, mem_facts_exportFact_iff, ih,
      module_foldl_exportFact]
    simp only [List.mem_append, List.mem_singleton, or_and_right, exists_or, exists_eq_left]

theorem nodup_foldl_exportFact (module : String) (regs : List Registration) :
    (regs.foldl exportFact (.empty module)).facts.Nodup := by
  induction regs using List.reverseRecOn with
  | nil => exact List.nodup_nil
  | append_singleton regs reg ih =>
    rw [List.foldl_append, List.foldl_cons, List.foldl_nil]
    exact nodup_facts_exportFact ih reg

end Registration

/-! ## One pass -/

namespace RegistrationOutcome

/-- The outcome without any registration. -/
def empty (module : String) : RegistrationOutcome := ⟨.empty module, .empty module, []⟩

/-- The outcome with one more registration. Its fact is exported or refused. In either case it is
registered, also under its additional name, and recorded. -/
def record (o : RegistrationOutcome) (reg : Registration) : RegistrationOutcome :=
  let exported := match o.facts.exportRole reg.target reg.role with
    | .ok facts => { o with facts }
    | .error _ => o
  let own := { exported with registry := exported.registry.register reg.role reg.target }
  let named := match reg.extraName with
    | some name =>
        { own with registry := own.registry.registerAs reg.role (reg.target.underName name) }
    | none => own
  { named with registrations := named.registrations ++ [reg] }

/-- The outcome with the registrations of one more call. -/
def recordCall (o : RegistrationOutcome) (a : RegistrationAttempt) : RegistrationOutcome :=
  a.registrations.foldl record o

theorem record_eq (o : RegistrationOutcome) (reg : Registration) :
    o.record reg =
      ⟨Registration.enter o.registry reg, Registration.exportFact o.facts reg,
        o.registrations ++ [reg]⟩ := by
  unfold record Registration.enter Registration.exportFact
  cases o.facts.exportRole reg.target reg.role <;> cases reg.extraName <;> rfl

theorem foldl_record (o : RegistrationOutcome) (regs : List Registration) :
    regs.foldl record o =
      ⟨regs.foldl Registration.enter o.registry, regs.foldl Registration.exportFact o.facts,
        o.registrations ++ regs⟩ := by
  induction regs generalizing o with
  | nil => simp
  | cons reg regs ih => simp [ih, record_eq]

end RegistrationOutcome

/-- **One pass over the calls** of a unit makes the outcome. -/
theorem Registration.discover_eq_foldl (defs : Definitions) (conventions : Conventions)
    (unit : CompilationUnit) :
    discover defs conventions unit =
      (attempts defs conventions unit).foldl RegistrationOutcome.recordCall
        (.empty unit.module) := by
  have hpass := RegistrationOutcome.foldl_record (.empty unit.module)
    ((attempts defs conventions unit).flatMap RegistrationAttempt.registrations)
  rw [List.foldl_flatMap] at hpass
  exact hpass.symm

/-! ## The outcome -/

/-- The outcome for a module says exactly what its registrations say. -/
structure RegistrationOutcome.Exact (o : RegistrationOutcome) (module : String)
    (attempts : List RegistrationAttempt) : Prop where
  /-- Every declaration that an attempt stands for is registered, whether its fact is exported or
  refused. -/
  recorded : ∀ a ∈ attempts, ∀ d ∈ a.decls, ∃ reg ∈ o.registrations,
    reg.target = d ∧ reg.role = a.form.role ∧ reg.extraName = a.extraNameFor d
  /-- A registered declaration is listed under its role. -/
  listed : ∀ reg ∈ o.registrations, o.registry.Lists reg.role reg.target
  /-- It is listed under its additional name as well, which stands for some declaration. -/
  listedAs : ∀ reg ∈ o.registrations, ∀ name, reg.extraName = some name →
    o.registry.Lists reg.role (reg.target.underName name) ∧ (o.registry.byExtraName? name).isSome
  /-- Nothing else is listed. -/
  introduced : ∀ role, ∀ d ∈ o.registry.declarations role,
    ∃ reg ∈ o.registrations, reg.role = role ∧ reg.Introduces d
  /-- Nothing is listed twice. -/
  distinct : ∀ role, Registry.Distinct (o.registry.declarations role)
  /-- An additional name stands for what was given it last. -/
  latest : ∀ name d, o.registry.byExtraName? name = some d ↔
    ∃ reg, Registration.LastGiven o.registrations name reg ∧ d = reg.target.underName name
  /-- The facts are those about registered declarations of the module itself. -/
  exported : ∀ label, label ∈ o.facts.facts ↔ ∃ reg ∈ o.registrations, reg.role = label.role ∧
    reg.target.id = label.decl ∧ reg.target.name = label.name ∧ reg.target.module = module
  /-- No fact is exported twice. -/
  exportedOnce : o.facts.facts.Nodup

namespace Registration

variable (defs : Definitions) (conventions : Conventions) (unit : CompilationUnit)

/-- A declaration is listed under a role if and only if a registration introduces it there. -/
theorem lists_discover_iff {role : Role} {d : Declaration} :
    (discover defs conventions unit).registry.Lists role d ↔
      ∃ reg ∈ (discover defs conventions unit).registrations, reg.role = role ∧
        ∃ e, reg.Introduces e ∧ e.id = d.id ∧ e.name = d.name := by
  rw [registry_discover, Registry.lists_ofCalls_iff]
  constructor
  · rintro ⟨c, hc, rfl, hsame⟩
    obtain ⟨reg, hreg, hcall⟩ := List.mem_flatMap.1 hc
    obtain ⟨hrole, hintro⟩ := mem_calls hcall
    exact ⟨reg, hreg, hrole.symm, c.decl, hintro, hsame⟩
  · rintro ⟨reg, hreg, rfl, e, hintro, hsame⟩
    obtain ⟨c, hc, hrole, rfl⟩ := hintro.exists_call
    exact ⟨c, List.mem_flatMap.2 ⟨reg, hreg, hc⟩, hrole, hsame⟩

/-- **The registry, its additional names and the facts are exactly what the registrations of a unit
say**, and every declaration that a registration call stands for is registered. -/
theorem discover_exact : (discover defs conventions unit).Exact unit.module
    (attempts defs conventions unit) where
  recorded a ha d hd := by
    let reg : Registration := ⟨a.form, a.form.role, d, a.extraNameFor d, a.position⟩
    exact ⟨reg, List.mem_flatMap.2 ⟨a, ha, List.mem_map_of_mem hd⟩, rfl, rfl, rfl⟩
  listed reg hreg :=
    (lists_discover_iff defs conventions unit).2
      ⟨reg, hreg, rfl, reg.target, .inl rfl, rfl, rfl⟩
  listedAs reg hreg name hname := by
    refine ⟨(lists_discover_iff defs conventions unit).2 ?_,
      isSome_byExtraName?_foldl_enter hreg hname⟩
    exact ⟨reg, hreg, rfl, reg.target.underName name, .inr ⟨name, hname, rfl⟩, rfl, rfl⟩
  introduced role d hd := by
    rw [registry_discover] at hd
    obtain ⟨c, hc, hrole, rfl⟩ := Registry.mem_declarations_ofCalls hd
    obtain ⟨reg, hreg, hcall⟩ := List.mem_flatMap.1 hc
    obtain ⟨hsame, hintro⟩ := mem_calls hcall
    exact ⟨reg, hreg, hsame.symm.trans hrole, hintro⟩
  distinct role := by
    rw [registry_discover]
    exact Registry.distinct_ofCalls _ _ role
  latest name d := byExtraName?_foldl_enter_iff
  exported label := by
    refine mem_foldl_exportFact_iff.trans (exists_congr fun reg => and_congr_right fun _ => ?_)
    rw [labelOf_eq_iff, and_assoc, and_assoc]
  exportedOnce := nodup_foldl_exportFact _ _

/-- A function of the unit `app`, one of the unit `lib`, and a worker type. -/
def sharedDefs : Definitions :=
  ({ Definitions.predeclared with
      types := Definitions.predeclared.types.add
        (.named ⟨"go.temporal.io/sdk/worker", "Worker", none, []⟩) }
    |>.declareFunction "app" "Start" ⟨[], [], false⟩
    |>.declareFunction "lib" "Run" ⟨[], [], false⟩)

/-- The call `w.RegisterWorkflow(e)`. -/
def registerWorkflow (e : Expr) : Expr :=
  .call ⟨⟨4⟩, .start⟩ (.selector ⟨⟨2⟩, .start⟩ (.ident ⟨⟨0⟩, .start⟩ "w")
    (.ident ⟨⟨1⟩, .start⟩ "RegisterWorkflow")) [e] false

/-- The unit `app`, which registers both functions. -/
def sharedUnit : CompilationUnit :=
  { CompilationUnit.empty "app" with
    files := [⟨"app.go", [], [⟨"main", none,
      [.expr (registerWorkflow (.ident ⟨⟨5⟩, .start⟩ "Run")),
        .expr (registerWorkflow (.ident ⟨⟨6⟩, .start⟩ "Start"))], .start⟩]⟩]
    info := { Annotations.empty with
      types := FinMap.empty.insert ⟨0⟩ ⟨19⟩
      uses := (FinMap.empty.insert ⟨5⟩ (.func ⟨1⟩)).insert ⟨6⟩ (.func ⟨0⟩) } }

/-- The registration of a function in that unit. -/
def sharedRegistration (target : Declaration) : Registration :=
  ⟨.workflow, .workflow, target, none, Span.start.toPosition "app.go"⟩

/-- The function of the unit. -/
def startDecl : Declaration := ⟨⟨0⟩, "Start", "app", none, ⟨[], [], false⟩, ⟨20⟩, .unknown⟩

/-- The function of the other unit. -/
def runDecl : Declaration := ⟨⟨1⟩, "Run", "lib", none, ⟨[], [], false⟩, ⟨21⟩, .unknown⟩

/-- The fact about the function of the other unit is refused. The function is recorded and listed all
the same, and the fact about the other function is exported after that. -/
theorem sharedUnit_discover_exact :
    sharedRegistration runDecl ∈ (discover sharedDefs .temporal sharedUnit).registrations ∧
      (ExportedFacts.empty "app").exportRole runDecl .workflow =
        .error (ExportedFacts.refusal "app" runDecl) ∧
      (discover sharedDefs .temporal sharedUnit).registry.Lists .workflow runDecl ∧
      (∀ role, ⟨runDecl.id, "Run", role⟩ ∉ (discover sharedDefs .temporal sharedUnit).facts.facts) ∧
      ⟨startDecl.id, "Start", .workflow⟩ ∈ (discover sharedDefs .temporal sharedUnit).facts.facts := by
  have hexact := discover_exact sharedDefs .temporal sharedUnit
  have hregs : (discover sharedDefs .temporal sharedUnit).registrations =
      [sharedRegistration runDecl, sharedRegistration startDecl] := by
    decide +kernel
  have hmodule : sharedUnit.module = "app" := rfl
  have hmem : sharedRegistration runDecl ∈
      (discover sharedDefs .temporal sharedUnit).registrations := by
    simp [hregs]
  refine ⟨hmem, rfl, hexact.listed _ hmem, ?_, ?_⟩
  · intro role
    rw [hexact.exported, hregs, hmodule]
    simp [sharedRegistration, runDecl, startDecl]
  · rw [hexact.exported, hregs, hmodule]
    simp [sharedRegistration, runDecl, startDecl]

end Registration

end BindingAudit
