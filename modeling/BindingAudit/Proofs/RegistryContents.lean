/-
# What a registry holds

A registry is determined by the calls that made it. The lists of the roles keep the first of several
entries with one identity and name, the table of additional names keeps the last declaration with
a name, and neither depends on how calls under the two roles are interleaved. Making all calls once
more changes nothing: every entry is there already, and every name was given last what it is given
again.

* `declarations_foldl_apply` : the list of a role after any calls;
* `byExtraName?_foldl_apply` : what an additional name stands for after any calls;
* `foldl_apply_ofCalls` : making the same calls again changes nothing;
* `Recorded` : what the registry is that a history leaves;
* `ofCalls_recorded` : every history leaves that registry, also when it is gone through twice.
-/
import Mathlib.Data.Finset.Card
import BindingAudit.Proofs.RegistryHistory

namespace BindingAudit

namespace RegistryCall

/-- The additional name that a call gives. -/
def givenName? : RegistryCall → Option String
  | register _ _ => none
  | registerAs _ d => some d.name

theorem givenName?_eq_some_iff {c : RegistryCall} {name : String} :
    c.givenName? = some name ↔ c.Names name := by
  unfold Names
  cases c <;> simp [givenName?]

end RegistryCall

namespace Registry

/-! ## Lists -/

/-- Two declarations have their identity and their name in common. -/
def sameEntry (d e : Declaration) : Bool := e.id == d.id && e.name == d.name

/-- The declarations that calls register under a role, in the order of the calls. -/
def registeredUnder (role : Role) (calls : List RegistryCall) : List Declaration :=
  (calls.filter fun c => decide (c.role = role)).map RegistryCall.decl

/-- Enlisting one declaration after the other keeps the first with each identity and name. -/
theorem foldl_enlist_eq_loop (ds l : List Declaration) :
    ds.foldl (fun l d => enlist d l) l = List.eraseDupsBy.loop sameEntry ds l.reverse := by
  induction ds generalizing l with
  | nil => rw [List.eraseDupsBy.loop, List.reverse_reverse, List.foldl_nil]
  | cons d ds ih =>
    have hany : l.reverse.any (sameEntry d) = l.any fun e => e.id == d.id && e.name == d.name :=
      List.any_reverse
    rw [List.foldl_cons, ih, List.eraseDupsBy.loop, hany]
    unfold enlist
    cases l.any fun e => e.id == d.id && e.name == d.name with
    | true => rfl
    | false =>
      rw [if_neg Bool.false_ne_true, List.reverse_append]
      rfl

/-- A declaration that is listed by identity and name is not enlisted again. -/
theorem enlist_of_listed {d : Declaration} {ds : List Declaration}
    (h : ∃ e ∈ ds, e.id = d.id ∧ e.name = d.name) : enlist d ds = ds := by
  obtain ⟨e, he, hid, hname⟩ := h
  unfold enlist
  rw [if_pos]
  exact List.any_eq_true.2 ⟨e, he, by simp [hid, hname]⟩

/-- **The list of a role** after any calls: what they register under it is enlisted in turn. -/
theorem declarations_foldl_apply (r : Registry) (calls : List RegistryCall) (role : Role) :
    (calls.foldl RegistryCall.apply r).declarations role =
      (registeredUnder role calls).foldl (fun l d => enlist d l) (r.declarations role) := by
  induction calls generalizing r with
  | nil => rfl
  | cons c calls ih =>
    unfold registeredUnder
    rw [List.foldl_cons, ih, declarations_apply]
    by_cases hrole : c.role = role
    · rw [if_pos hrole.symm, List.filter_cons_of_pos (by simpa using hrole)]
      rfl
    · rw [if_neg (Ne.symm hrole), List.filter_cons_of_neg (by simpa using hrole)]
      rfl

/-- A role lists the first of those declarations with one identity and name that were registered
under it. -/
theorem declarations_ofCalls (module : String) (calls : List RegistryCall) (role : Role) :
    (ofCalls module calls).declarations role =
      (registeredUnder role calls).eraseDupsBy sameEntry := by
  have hempty : (Registry.empty module).declarations role = [] := by cases role <;> rfl
  rw [ofCalls, declarations_foldl_apply, hempty]
  exact foldl_enlist_eq_loop _ []

/-- Registering what is listed already changes no list. -/
theorem foldl_enlist_of_listed {ds l : List Declaration}
    (h : ∀ d ∈ ds, ∃ e ∈ l, e.id = d.id ∧ e.name = d.name) :
    ds.foldl (fun l d => enlist d l) l = l := by
  induction ds with
  | nil => rfl
  | cons d ds ih =>
    rw [List.foldl_cons, enlist_of_listed (h d List.mem_cons_self)]
    exact ih fun d' hd' => h d' (List.mem_cons_of_mem d hd')

/-! ## Additional names -/

/-- **What an additional name stands for** after any calls: what they give it, or else what it stood
for before. -/
theorem byExtraName?_foldl_apply (module : String) (r : Registry) (calls : List RegistryCall)
    (name : String) :
    (calls.foldl RegistryCall.apply r).byExtraName? name =
      ((ofCalls module calls).byExtraName? name).or (r.byExtraName? name) := by
  induction calls using List.reverseRecOn with
  | nil => rfl
  | append_singleton calls c ih =>
    rw [List.foldl_append, List.foldl_cons, List.foldl_nil, ofCalls_concat]
    by_cases hnames : c.Names name
    · obtain ⟨role, d, rfl, rfl⟩ := hnames
      unfold RegistryCall.apply
      rw [byExtraName?_registerAs, byExtraName?_registerAs, if_pos rfl, if_pos rfl, Option.some_or]
    · rw [byExtraName?_apply_of_not_names hnames, byExtraName?_apply_of_not_names hnames, ih]

/-- A name stands for nothing exactly if no call gives it. -/
theorem byExtraName?_ofCalls_eq_none_iff {module : String} {calls : List RegistryCall}
    {name : String} :
    (ofCalls module calls).byExtraName? name = none ↔ ∀ c ∈ calls, ¬ c.Names name := by
  induction calls using List.reverseRecOn with
  | nil => exact ⟨fun _ c hc => absurd hc List.not_mem_nil, fun _ => rfl⟩
  | append_singleton calls c ih =>
    rw [ofCalls_concat, List.forall_mem_append, List.forall_mem_singleton]
    by_cases hnames : c.Names name
    · obtain ⟨role, d, rfl, rfl⟩ := hnames
      unfold RegistryCall.apply
      rw [byExtraName?_registerAs, if_pos rfl]
      exact ⟨fun h => (Option.some_ne_none d h).elim, fun h => (h.2 ⟨role, d, rfl, rfl⟩).elim⟩
    · rw [byExtraName?_apply_of_not_names hnames, ih]
      exact ⟨fun h => ⟨h, hnames⟩, fun h => h.1⟩

/-- The additional names are those that some call gives. -/
theorem mem_keys_ofCalls_iff {module : String} {calls : List RegistryCall} {name : String} :
    name ∈ (ofCalls module calls).extraNames.keys ↔
      name ∈ calls.filterMap RegistryCall.givenName? := by
  have hbound : name ∈ (ofCalls module calls).extraNames.keys ↔
      (ofCalls module calls).byExtraName? name ≠ none := by
    rw [FinMap.mem_keys_iff, Option.ne_none_iff_exists']
    rfl
  rw [hbound, Ne, byExtraName?_ofCalls_eq_none_iff, List.mem_filterMap]
  simp [RegistryCall.givenName?_eq_some_iff]

/-- There are as many additional names as different ones are given. -/
theorem extraNameCount_ofCalls (module : String) (calls : List RegistryCall) :
    (ofCalls module calls).extraNameCount =
      (calls.filterMap RegistryCall.givenName?).toFinset.card := by
  have hsame : (ofCalls module calls).extraNames.keys.toFinset =
      (calls.filterMap RegistryCall.givenName?).toFinset := by
    ext name
    rw [List.mem_toFinset, List.mem_toFinset, mem_keys_ofCalls_iff]
  have hnodup : (ofCalls module calls).extraNames.keys.Nodup :=
    (ofCalls module calls).extraNames.nodup
  rw [← hsame, List.toFinset_card_of_nodup hnodup]
  exact (List.length_map Prod.fst).symm

/-- A call that gives a name which is an additional one already adds no name. -/
theorem keys_apply_of_mem {r : Registry} {c : RegistryCall}
    (h : ∀ name, c.Names name → name ∈ r.extraNames.keys) :
    (c.apply r).extraNames.keys = r.extraNames.keys := by
  rcases c with ⟨role, d⟩ | ⟨role, d⟩
  · cases role <;> rfl
  · have hkeys : (r.extraNames.insert d.name d).keys = r.extraNames.keys := by
      rw [FinMap.keys_insert, if_pos (h d.name ⟨role, d, rfl, rfl⟩)]
    cases role <;> exact hkeys

theorem keys_foldl_apply_of_mem {r : Registry} {calls : List RegistryCall}
    (h : ∀ c ∈ calls, ∀ name, c.Names name → name ∈ r.extraNames.keys) :
    (calls.foldl RegistryCall.apply r).extraNames.keys = r.extraNames.keys := by
  induction calls generalizing r with
  | nil => rfl
  | cons c calls ih =>
    have hfirst := keys_apply_of_mem (h c List.mem_cons_self)
    rw [List.foldl_cons, ih, hfirst]
    intro c' hc' name hname
    rw [hfirst]
    exact h c' (List.mem_cons_of_mem c hc') name hname

/-! ## Making the calls again -/

theorem module_foldl_apply (r : Registry) (calls : List RegistryCall) :
    (calls.foldl RegistryCall.apply r).module = r.module := by
  induction calls generalizing r with
  | nil => rfl
  | cons c calls ih =>
    rw [List.foldl_cons, ih]
    rcases c with ⟨role, d⟩ | ⟨role, d⟩ <;> cases role <;> rfl

/-- A registry is determined by its module, its lists and its table. -/
theorem eq_of_contents {r s : Registry} (hmodule : r.module = s.module)
    (hlists : ∀ role, r.declarations role = s.declarations role)
    (hnames : r.extraNames = s.extraNames) : r = s := by
  obtain ⟨_, _, _, _⟩ := r
  obtain ⟨_, _, _, _⟩ := s
  have hworkflows := hlists .workflow
  have hactivities := hlists .activity
  simp only [declarations] at hmodule hworkflows hactivities hnames
  rw [hmodule, hworkflows, hactivities, hnames]

/-- **Going through a history twice** leaves what going through it once does. -/
theorem foldl_apply_ofCalls (module : String) (calls : List RegistryCall) :
    calls.foldl RegistryCall.apply (ofCalls module calls) = ofCalls module calls := by
  apply eq_of_contents
  · rw [module_foldl_apply]
  · intro role
    rw [declarations_foldl_apply]
    refine foldl_enlist_of_listed fun d hd => ?_
    obtain ⟨c, hc, rfl⟩ := List.mem_map.1 hd
    obtain ⟨hmem, hrole⟩ := List.mem_filter.1 hc
    exact lists_ofCalls_iff.2 ⟨c, hmem, by simpa using hrole, rfl, rfl⟩
  · apply FinMap.eq_of_keys_of_find?
    · refine keys_foldl_apply_of_mem fun c hc name hname => ?_
      exact mem_keys_ofCalls_iff.2
        (List.mem_filterMap.2 ⟨c, hc, RegistryCall.givenName?_eq_some_iff.2 hname⟩)
    · intro name
      have hagain := byExtraName?_foldl_apply module (ofCalls module calls) calls name
      rw [Option.or_self] at hagain
      exact hagain

/-! ## The state that a history leaves -/

/-- What the registry of a module is that a sequence of calls leaves. -/
structure Recorded (module : String) (calls : List RegistryCall) (r : Registry) : Prop where
  ofModule : r.module = module
  /-- A role lists what was registered under it, without the later ones of those with one identity
  and name. -/
  listed : ∀ role, r.declarations role = (registeredUnder role calls).eraseDupsBy sameEntry
  /-- An additional name stands for what was given it last. -/
  bound : ∀ name d, r.byExtraName? name = some d ↔ ∃ role, LastNamed calls name role d
  /-- A name that was not given stands for nothing. -/
  unbound : ∀ name, r.byExtraName? name = none ↔ ∀ c ∈ calls, ¬ c.Names name
  /-- Additional names are counted once each. -/
  nameCount : r.extraNameCount = (calls.filterMap RegistryCall.givenName?).toFinset.card
  /-- Declarations are counted under each role. -/
  declarationCount :
    r.size = (r.declarations .workflow).length + (r.declarations .activity).length
  /-- What an additional name stands for has that name and is listed under some role. -/
  consistent : ∀ e ∈ r.extraNames.entries, e.2.name = e.1 ∧ ∃ role, r.Lists role e.2

/-- **A registry is its history.** Every sequence of calls leaves the registry that it describes,
and leaves it as it is when it is gone through a second time. -/
theorem ofCalls_recorded (module : String) (calls : List RegistryCall) :
    Recorded module calls (ofCalls module calls) ∧
      calls.foldl RegistryCall.apply (ofCalls module calls) = ofCalls module calls := by
  refine ⟨⟨module_foldl_apply _ calls, declarations_ofCalls module calls,
    fun _ _ => byExtraName?_ofCalls_iff, fun _ => byExtraName?_ofCalls_eq_none_iff,
    extraNameCount_ofCalls module calls, rfl, ?_⟩, foldl_apply_ofCalls module calls⟩
  intro e he
  have hfind := (FinMap.find?_eq_some_iff _).2 he
  obtain ⟨role, hlast⟩ := byExtraName?_ofCalls_iff.1 hfind
  have hlists : (ofCalls module calls).Lists role e.2 := hlast.lists
  obtain ⟨_, _, _, hname, -⟩ := hlast
  exact ⟨hname, role, hlists⟩

end Registry

end BindingAudit
