/-
# The history of a registry

A registry is made by a sequence of calls, each of which registers a declaration under a role,
some of them with the name of the declaration as an additional one. What a look-up returns is read
off that sequence.

There is one table of additional names for both roles. So a name that was given to an activity
last leads to that activity, also when a workflow is looked up; a name that is not an additional
one leads to a declaration of the role only.

* `lists_ofCalls_iff` : a role lists what was registered under it;
* `byExtraName?_ofCalls_iff` : the last call that gives an additional name decides;
* `exists_lookup_of_call` : a name that was registered under a role is found;
* `foundUnder_of_lookup` : which role a declaration that is looked up was registered under;
* `registry_discover` : the registry of a unit is made by the calls of its registrations.
-/
import Mathlib.Data.List.Induction
import BindingAudit.Binding.Registration

namespace BindingAudit

/-- A call that changes a registry. -/
inductive RegistryCall where
  | register (role : Role) (decl : Declaration)
  | registerAs (role : Role) (decl : Declaration)

namespace RegistryCall

/-- The role that a call registers under. -/
def role : RegistryCall → Role
  | register role _ | registerAs role _ => role

/-- The declaration that a call registers. -/
def decl : RegistryCall → Declaration
  | register _ d | registerAs _ d => d

/-- What a call makes of a registry. -/
def apply (r : Registry) : RegistryCall → Registry
  | register role d => r.register role d
  | registerAs role d => r.registerAs role d

/-- The call gives a name as an additional one. -/
def Names (c : RegistryCall) (name : String) : Prop :=
  ∃ role d, c = registerAs role d ∧ d.name = name

end RegistryCall

namespace Registry

/-- The registry of a module that a sequence of calls makes. -/
def ofCalls (module : String) (calls : List RegistryCall) : Registry :=
  calls.foldl RegistryCall.apply (.empty module)

/-- The registry lists a declaration with the identity and the name of `d` under a role. -/
def Lists (r : Registry) (role : Role) (d : Declaration) : Prop :=
  ∃ e ∈ r.declarations role, e.id = d.id ∧ e.name = d.name

/-! ## One call -/

/-- Enlisting keeps what is listed and adds at most the declaration itself. -/
theorem mem_enlist {d e : Declaration} {ds : List Declaration} (h : e ∈ enlist d ds) :
    e ∈ ds ∨ e = d := by
  unfold enlist at h
  split at h
  · exact .inl h
  · simpa using h

theorem subset_enlist (d : Declaration) (ds : List Declaration) : ds ⊆ enlist d ds := by
  unfold enlist
  split
  · exact List.Subset.refl _
  · exact List.subset_append_left _ _

/-- After enlisting, a declaration is listed by identity and name. -/
theorem exists_mem_enlist (d : Declaration) (ds : List Declaration) :
    ∃ e ∈ enlist d ds, e.id = d.id ∧ e.name = d.name := by
  unfold enlist
  split
  · rename_i hany
    obtain ⟨e, he, hsame⟩ := List.any_eq_true.1 hany
    exact ⟨e, he, by simpa using hsame⟩
  · exact ⟨d, by simp, rfl, rfl⟩

theorem declarations_register (r : Registry) (role role' : Role) (d : Declaration) :
    (r.register role d).declarations role' =
      if role' = role then enlist d (r.declarations role') else r.declarations role' := by
  cases role <;> cases role' <;> rfl

theorem byExtraName?_register (r : Registry) (role : Role) (d : Declaration) (name : String) :
    (r.register role d).byExtraName? name = r.byExtraName? name := by
  cases role <;> rfl

/-- A call enlists its declaration under its role and leaves the other role as it is. -/
theorem declarations_apply (r : Registry) (c : RegistryCall) (role : Role) :
    (c.apply r).declarations role =
      if role = c.role then enlist c.decl (r.declarations role) else r.declarations role := by
  cases c with
  | register role' d => exact declarations_register r role' role d
  | registerAs role' d =>
    rw [RegistryCall.apply, registerAs, declarations_register]
    cases role <;> rfl

/-- A call with an additional name binds that name. -/
theorem byExtraName?_registerAs (r : Registry) (role : Role) (d : Declaration) (name : String) :
    (r.registerAs role d).byExtraName? name =
      if name = d.name then some d else r.byExtraName? name := by
  rw [registerAs, byExtraName?_register]
  exact FinMap.find?_insert r.extraNames d.name name d

/-- A call that does not give a name leaves the name as it is. -/
theorem byExtraName?_apply_of_not_names {r : Registry} {c : RegistryCall} {name : String}
    (h : ¬ c.Names name) : (c.apply r).byExtraName? name = r.byExtraName? name := by
  cases c with
  | register role d => exact byExtraName?_register r role d name
  | registerAs role d =>
    rw [RegistryCall.apply, byExtraName?_registerAs, if_neg]
    rintro rfl
    exact h ⟨role, d, rfl, rfl⟩

/-! ## All calls -/

theorem ofCalls_concat (module : String) (calls : List RegistryCall) (c : RegistryCall) :
    ofCalls module (calls ++ [c]) = c.apply (ofCalls module calls) := by
  rw [ofCalls, List.foldl_append]
  rfl

/-- Everything that is listed under a role was registered under it. -/
theorem mem_declarations_ofCalls {module : String} {calls : List RegistryCall} {role : Role}
    {d : Declaration} (h : d ∈ (ofCalls module calls).declarations role) :
    ∃ c ∈ calls, c.role = role ∧ c.decl = d := by
  induction calls using List.reverseRecOn with
  | nil => cases role <;> cases h
  | append_singleton calls c ih =>
    rw [ofCalls_concat, declarations_apply] at h
    have hlater : (∃ c' ∈ calls, c'.role = role ∧ c'.decl = d) →
        ∃ c' ∈ calls ++ [c], c'.role = role ∧ c'.decl = d := by
      rintro ⟨c', hc', hsame⟩
      exact ⟨c', List.mem_append_left _ hc', hsame⟩
    split at h
    · rename_i hrole
      rcases mem_enlist h with h | rfl
      · exact hlater (ih h)
      · exact ⟨c, by simp, hrole.symm, rfl⟩
    · exact hlater (ih h)

/-- **A role lists what was registered under it**, by identity and name. -/
theorem lists_ofCalls_iff {module : String} {calls : List RegistryCall} {role : Role}
    {d : Declaration} :
    (ofCalls module calls).Lists role d ↔
      ∃ c ∈ calls, c.role = role ∧ c.decl.id = d.id ∧ c.decl.name = d.name := by
  constructor
  · rintro ⟨e, he, hsame⟩
    obtain ⟨c, hc, hrole, rfl⟩ := mem_declarations_ofCalls he
    exact ⟨c, hc, hrole, hsame⟩
  · rintro ⟨c, hc, rfl, hid, hname⟩
    induction calls using List.reverseRecOn with
    | nil => cases hc
    | append_singleton calls c' ih =>
      unfold Lists
      rw [ofCalls_concat, declarations_apply]
      rcases List.mem_append.1 hc with hc | hc
      · obtain ⟨e, he, hsame⟩ := ih hc
        split
        · exact ⟨e, subset_enlist _ _ he, hsame⟩
        · exact ⟨e, he, hsame⟩
      · obtain rfl := List.mem_singleton.1 hc
        rw [if_pos rfl]
        obtain ⟨e, he, hid', hname'⟩ := exists_mem_enlist c.decl
          ((ofCalls module calls).declarations c.role)
        exact ⟨e, he, hid'.trans hid, hname'.trans hname⟩

/-- Of the calls that give an additional name, the last one registers `d` under a role. -/
def LastNamed (calls : List RegistryCall) (name : String) (role : Role) (d : Declaration) : Prop :=
  ∃ before after, calls = before ++ .registerAs role d :: after ∧ d.name = name ∧
    ∀ c ∈ after, ¬ c.Names name

/-- What the last call that gives an additional name registers is listed under its role. -/
theorem LastNamed.lists {module : String} {calls : List RegistryCall} {name : String} {role : Role}
    {d : Declaration} (h : LastNamed calls name role d) : (ofCalls module calls).Lists role d := by
  obtain ⟨before, after, rfl, -⟩ := h
  exact lists_ofCalls_iff.2 ⟨.registerAs role d, by simp, rfl, rfl, rfl⟩

/-- **The last call that gives an additional name decides** what it stands for. -/
theorem byExtraName?_ofCalls_iff {module : String} {calls : List RegistryCall} {name : String}
    {d : Declaration} :
    (ofCalls module calls).byExtraName? name = some d ↔ ∃ role, LastNamed calls name role d := by
  constructor
  · intro h
    induction calls using List.reverseRecOn with
    | nil => cases h
    | append_singleton calls c ih =>
      rw [ofCalls_concat] at h
      by_cases hnames : c.Names name
      · obtain ⟨role, e, rfl, rfl⟩ := hnames
        rw [RegistryCall.apply, byExtraName?_registerAs, if_pos rfl] at h
        cases h
        exact ⟨role, calls, [], rfl, rfl, by simp⟩
      · rw [byExtraName?_apply_of_not_names hnames] at h
        obtain ⟨role, before, after, rfl, hname, hafter⟩ := ih h
        refine ⟨role, before, after ++ [c], by simp, hname, fun c' hc' => ?_⟩
        rcases List.mem_append.1 hc' with hc' | hc'
        · exact hafter c' hc'
        · obtain rfl := List.mem_singleton.1 hc'
          exact hnames
  · rintro ⟨role, before, after, rfl, rfl, hafter⟩
    induction after using List.reverseRecOn with
    | nil => rw [ofCalls_concat, RegistryCall.apply, byExtraName?_registerAs, if_pos rfl]
    | append_singleton after c ih =>
      have hc : ¬ c.Names d.name := hafter c (by simp)
      rw [← List.cons_append, ← List.append_assoc, ofCalls_concat,
        byExtraName?_apply_of_not_names hc]
      exact ih fun c' hc' => hafter c' (List.mem_append_left _ hc')

/-! ## Looking a name up -/

/-- Where a declaration that is looked up comes from: the last call that gives its name as an
additional one, or else a call under the role. -/
theorem exists_call_of_lookup {module : String} {calls : List RegistryCall} {role : Role}
    {name : String} {d : Declaration} (h : (ofCalls module calls).lookup role name = some d) :
    d.name = name ∧
      ((∃ other, LastNamed calls name other d) ∨ ∃ c ∈ calls, c.role = role ∧ c.decl = d) := by
  rw [lookup] at h
  split at h
  · rename_i e hextra
    cases h
    obtain ⟨other, hlast⟩ := byExtraName?_ofCalls_iff.1 hextra
    have hname : d.name = name := by
      obtain ⟨_, _, _, hname, -⟩ := hlast
      exact hname
    exact ⟨hname, .inl ⟨other, hlast⟩⟩
  · refine ⟨by simpa using List.find?_some h, .inr ?_⟩
    exact mem_declarations_ofCalls (List.mem_of_find?_eq_some h)

/-- A name that was registered under a role is found there. -/
theorem exists_lookup_of_call {module : String} {calls : List RegistryCall} {c : RegistryCall}
    (hc : c ∈ calls) : ∃ d, (ofCalls module calls).lookup c.role c.decl.name = some d := by
  rw [lookup]
  cases (ofCalls module calls).byExtraName? c.decl.name with
  | some d => exact ⟨d, rfl⟩
  | none =>
    have hlists : (ofCalls module calls).Lists c.role c.decl :=
      lists_ofCalls_iff.2 ⟨c, hc, rfl, rfl, rfl⟩
    obtain ⟨e, he, -, hname⟩ := hlists
    rw [← Option.isSome_iff_exists, List.find?_isSome]
    exact ⟨e, he, by simpa using hname⟩

/-- How a name that was asked for under a role stands for `d` in the registry that `calls` made. -/
structure FoundUnder (module : String) (calls : List RegistryCall) (role : Role) (name : String)
    (d : Declaration) : Prop where
  /-- The declaration has the name that was asked for. -/
  named : d.name = name
  /-- It is listed under the role, unless the name was last given as an additional one under
  another role. -/
  listed : (∀ other e, LastNamed calls name other e → other = role) →
    (ofCalls module calls).Lists role d
  /-- If the name was given as an additional one, the last call that did so is the one that
  counts, and its role lists the declaration. -/
  given : ∀ other e, LastNamed calls name other e →
    d = e ∧ (ofCalls module calls).Lists other d

/-- **Which role a declaration that is looked up has.** -/
theorem foundUnder_of_lookup {module : String} {calls : List RegistryCall} {role : Role}
    {name : String} {d : Declaration} (h : (ofCalls module calls).lookup role name = some d) :
    FoundUnder module calls role name d := by
  have hname := (exists_call_of_lookup h).1
  have hdecides : ∀ other e, LastNamed calls name other e →
      (ofCalls module calls).byExtraName? name = some e :=
    fun other e hlast => byExtraName?_ofCalls_iff.2 ⟨other, hlast⟩
  rw [lookup] at h
  cases hextra : (ofCalls module calls).byExtraName? name with
  | some e =>
    rw [hextra] at h
    cases h
    obtain ⟨given, hgiven⟩ := byExtraName?_ofCalls_iff.1 hextra
    refine ⟨hname, fun honly => honly given d hgiven ▸ hgiven.lists, fun other e hlast => ?_⟩
    have he := hdecides other e hlast
    rw [hextra, Option.some.injEq] at he
    exact ⟨he, he ▸ hlast.lists⟩
  | none =>
    rw [hextra] at h
    refine ⟨hname, fun _ => ⟨d, List.mem_of_find?_eq_some h, rfl, rfl⟩, fun other e hlast => ?_⟩
    have he := hdecides other e hlast
    rw [hextra] at he
    cases he

end Registry

/-! ## The calls of registrations -/

namespace Registration

/-- The calls that enter a registration: under its own name, then under its additional one. -/
def calls (reg : Registration) : List RegistryCall :=
  .register reg.role reg.target ::
    (reg.extraName.map fun name => RegistryCall.registerAs reg.role
      (reg.target.underName name)).toList

/-- A declaration that a registration makes known: its target, under its own or its additional
name. -/
def Introduces (reg : Registration) (d : Declaration) : Prop :=
  d = reg.target ∨ ∃ name, reg.extraName = some name ∧ d = reg.target.underName name

theorem enter_eq_foldl_calls (r : Registry) (reg : Registration) :
    enter r reg = reg.calls.foldl RegistryCall.apply r := by
  unfold enter calls
  cases reg.extraName <;> rfl

/-- The calls of a registration are made under its role and for what it introduces. -/
theorem mem_calls {reg : Registration} {c : RegistryCall} (h : c ∈ reg.calls) :
    c.role = reg.role ∧ reg.Introduces c.decl := by
  unfold calls at h
  rcases List.mem_cons.1 h with rfl | h
  · exact ⟨rfl, .inl rfl⟩
  · obtain ⟨name, hname, rfl⟩ := by simpa using h
    exact ⟨rfl, .inr ⟨name, hname, rfl⟩⟩

/-- Everything that a registration introduces has its call. -/
theorem Introduces.exists_call {reg : Registration} {d : Declaration} (h : reg.Introduces d) :
    ∃ c ∈ reg.calls, c.role = reg.role ∧ c.decl = d := by
  unfold calls
  rcases h with rfl | ⟨name, hname, rfl⟩
  · exact ⟨_, List.mem_cons_self, rfl, rfl⟩
  · exact ⟨.registerAs reg.role (reg.target.underName name), by simp [hname], rfl, rfl⟩

/-- **The registry of a unit** is made by the calls of its registrations. -/
theorem registry_discover (defs : Definitions) (conventions : Conventions)
    (unit : CompilationUnit) :
    (discover defs conventions unit).registry =
      .ofCalls unit.module ((discover defs conventions unit).registrations.flatMap calls) := by
  rw [Registry.ofCalls, List.foldl_flatMap]
  simp only [← enter_eq_foldl_calls]
  rfl

end Registration

end BindingAudit
