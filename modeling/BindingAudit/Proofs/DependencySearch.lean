/-
# The search for an order of the units

The depth-first search over the units, against the graph that their dependencies span. An order
is settled when each unit in it comes after all that it lists as a dependency; the search only
ever extends a settled order by units that may come next.

* `Settled.idxOf_lt` : in a settled order a unit stands behind everything it depends on;
* `visit_grown` : what a visit does to the order;
* `exists_visit_eq_ok` : a visit succeeds if every dependency is known and none runs in a circle;
* `dependencyOrder_settled` : an order that is returned is settled and holds every unit once;
* `exists_dependencyOrder_iff` : when there is an order at all.
-/
import Mathlib.Data.List.Nodup
import Mathlib.Logic.Relation
import BindingAudit.Audit.DependencyOrder

namespace BindingAudit

open Relation

/-! ## Computations that can fail -/

/-- A sequence of two steps succeeds when both do. -/
theorem bind_eq_ok_iff {ε α β : Type} {x : Except ε α} {f : α → Except ε β} {b : β} :
    x >>= f = .ok b ↔ ∃ a, x = .ok a ∧ f a = .ok b := by
  cases x with
  | error e =>
    constructor
    · intro h
      cases h
    · rintro ⟨a, h, -⟩
      cases h
  | ok a =>
    constructor
    · intro h
      exact ⟨a, rfl, h⟩
    · rintro ⟨_, ⟨⟩, h⟩
      exact h

/-- A loop succeeds if each of its steps does, from wherever it starts. -/
theorem exists_foldlM_eq_ok {ε α β : Type} {f : β → α → Except ε β} (as : List α)
    (hf : ∀ a ∈ as, ∀ b, ∃ b', f b a = .ok b') (b : β) : ∃ b', as.foldlM f b = .ok b' := by
  induction as generalizing b with
  | nil => exact ⟨b, rfl⟩
  | cons a as ih =>
    obtain ⟨b₁, h₁⟩ := hf a List.mem_cons_self b
    obtain ⟨b₂, h₂⟩ := ih (fun a ha => hf a (List.mem_cons_of_mem _ ha)) b₁
    exact ⟨b₂, by rw [List.foldlM_cons]; exact bind_eq_ok_iff.2 ⟨b₁, h₁, h₂⟩⟩

namespace DependencyOrder

variable (units : List CompilationUnit)

/-! ## The graph of dependencies -/

/-- No module has two units. -/
def ModulesDistinct : Prop := (units.map CompilationUnit.module).Nodup

/-- The unit at place `i` is the unit of a module. -/
def IsUnitOf (i : Nat) (module : String) : Prop :=
  ∃ unit, units[i]? = some unit ∧ unit.module = module

/-- Every listed dependency is a module of some unit. -/
def DependenciesKnown : Prop :=
  ∀ unit ∈ units, ∀ m ∈ unit.dependencies, ∃ other ∈ units, other.module = m

/-- The unit at place `i` lists the module of the unit at place `j`. -/
def DependsOn (i j : Nat) : Prop :=
  ∃ unit other, units[i]? = some unit ∧ units[j]? = some other ∧ other.module ∈ unit.dependencies

/-- No unit depends on itself, directly or not. -/
def Acyclic : Prop := ∀ i, ¬ TransGen (DependsOn units) i i

variable {units}

/-- A place of a unit is within the list. -/
theorem IsUnitOf.lt_length {i : Nat} {m : String} (h : IsUnitOf units i m) :
    i < units.length := by
  obtain ⟨unit, hunit, -⟩ := h
  exact (List.getElem?_eq_some_iff.1 hunit).1

/-- With distinct modules a module belongs to one place only. -/
theorem IsUnitOf.unique (hdistinct : ModulesDistinct units) {i j : Nat} {m : String}
    (hi : IsUnitOf units i m) (hj : IsUnitOf units j m) : i = j := by
  have hlt : i < (units.map CompilationUnit.module).length := by
    simpa using hi.lt_length
  obtain ⟨u, hu, rfl⟩ := hi
  obtain ⟨v, hv, hm⟩ := hj
  refine (List.getElem?_inj hlt hdistinct).1 ?_
  rw [List.getElem?_map, List.getElem?_map, hu, hv, Option.map_some, Option.map_some, hm]

/-- What the look-up of a module returns is a unit of that module. -/
theorem isUnitOf_of_indexOf? {m : String} {i : Nat} (h : indexOf? units m = some i) :
    IsUnitOf units i m := by
  obtain ⟨hlt, hm, -⟩ := List.findIdx?_eq_some_iff_getElem.1 h
  exact ⟨units[i], List.getElem?_eq_getElem hlt, by simpa using hm⟩

/-- The look-up fails only for a module without unit. -/
theorem indexOf?_eq_none_iff {m : String} :
    indexOf? units m = none ↔ ∀ unit ∈ units, unit.module ≠ m := by
  rw [indexOf?, List.findIdx?_eq_none_iff]
  simp

/-- With distinct modules the look-up returns the place of the module. -/
theorem indexOf?_eq_some_iff (hdistinct : ModulesDistinct units) {m : String} {i : Nat} :
    indexOf? units m = some i ↔ IsUnitOf units i m := by
  refine ⟨isUnitOf_of_indexOf?, ?_⟩
  rintro ⟨unit, hunit, hm⟩
  cases hindex : indexOf? units m with
  | none =>
    have hne := indexOf?_eq_none_iff.1 hindex unit (List.mem_of_getElem? hunit)
    exact absurd hm hne
  | some j => rw [(isUnitOf_of_indexOf? hindex).unique hdistinct ⟨unit, hunit, hm⟩]

/-- Where a dependency comes from: a module that is listed and found. -/
theorem dependsOn_iff {i j : Nat} {unit : CompilationUnit} (hunit : units[i]? = some unit) :
    DependsOn units i j ↔ ∃ m ∈ unit.dependencies, IsUnitOf units j m := by
  constructor
  · rintro ⟨u, other, hu, hother, hm⟩
    rw [hunit, Option.some.injEq] at hu
    subst hu
    exact ⟨_, hm, other, hother, rfl⟩
  · rintro ⟨_, hm, other, hother, rfl⟩
    exact ⟨unit, other, hunit, hother, hm⟩

/-! ## Settled orders -/

/-- An order in which each unit comes once and after all that it lists as a dependency. -/
inductive Settled (units : List CompilationUnit) : List Nat → Prop where
  | nil : Settled units []
  | snoc {order : List Nat} {i : Nat} {unit : CompilationUnit} (hsettled : Settled units order)
      (hnew : i ∉ order) (hunit : units[i]? = some unit)
      (hbefore : ∀ m ∈ unit.dependencies, ∃ j ∈ order, IsUnitOf units j m) :
      Settled units (order ++ [i])

namespace Settled

variable {order : List Nat}

/-- No unit stands in a settled order twice. -/
theorem nodup (h : Settled units order) : order.Nodup := by
  induction h with
  | nil => exact List.nodup_nil
  | snoc _ hnew _ _ ih =>
    rw [← List.concat_eq_append]
    exact .concat hnew ih

/-- A settled order holds units only, and with each unit all that it lists. -/
theorem listed (h : Settled units order) {i : Nat} (hi : i ∈ order) :
    ∃ unit, units[i]? = some unit ∧
      ∀ m ∈ unit.dependencies, ∃ j ∈ order, IsUnitOf units j m := by
  induction h with
  | nil => cases hi
  | @snoc order k unit _ _ hunit hbefore ih =>
    rcases List.mem_append.1 hi with hi | hi
    · obtain ⟨u, hu, hlisted⟩ := ih hi
      refine ⟨u, hu, fun m hm => ?_⟩
      obtain ⟨j, hj, hunitOf⟩ := hlisted m hm
      exact ⟨j, List.mem_append_left _ hj, hunitOf⟩
    · rw [List.mem_singleton] at hi
      subst hi
      refine ⟨unit, hunit, fun m hm => ?_⟩
      obtain ⟨j, hj, hunitOf⟩ := hbefore m hm
      exact ⟨j, List.mem_append_left _ hj, hunitOf⟩

/-- **A unit comes after what it depends on.** -/
theorem idxOf_lt (hdistinct : ModulesDistinct units) (h : Settled units order) {i j : Nat}
    (hi : i ∈ order) (hij : DependsOn units i j) :
    j ∈ order ∧ order.idxOf j < order.idxOf i := by
  induction h with
  | nil => cases hi
  | @snoc order k unit _ hnew hunit hbefore ih =>
    by_cases hmem : i ∈ order
    · obtain ⟨hj, hlt⟩ := ih hmem
      rw [List.idxOf_append_of_mem hj, List.idxOf_append_of_mem hmem]
      exact ⟨List.mem_append_left _ hj, hlt⟩
    · have hik : i = k := by simpa [hmem] using hi
      subst hik
      obtain ⟨m, hm, hjm⟩ := (dependsOn_iff hunit).1 hij
      obtain ⟨j', hj', hj'm⟩ := hbefore m hm
      obtain rfl := hjm.unique hdistinct hj'm
      rw [List.idxOf_append_of_mem hj', List.idxOf_append_of_notMem hmem]
      have hlt := List.idxOf_lt_length_of_mem hj'
      exact ⟨List.mem_append_left _ hj', by omega⟩

/-- A unit comes after what it depends on indirectly, too. -/
theorem idxOf_lt_of_transGen (hdistinct : ModulesDistinct units) (h : Settled units order)
    {i j : Nat} (hi : i ∈ order) (hij : TransGen (DependsOn units) i j) :
    j ∈ order ∧ order.idxOf j < order.idxOf i := by
  induction hij with
  | single hstep => exact h.idxOf_lt hdistinct hi hstep
  | tail _ hstep ih =>
    obtain ⟨hmem, hlt⟩ := ih
    obtain ⟨hj, hlt'⟩ := h.idxOf_lt hdistinct hmem hstep
    exact ⟨hj, by omega⟩

end Settled

/-! ## What a visit does -/

/-- How a search that has come along `path` may change an order: it appends to it, keeps off the
path, and leaves it settled. -/
structure Grown (units : List CompilationUnit) (path order order' : List Nat) : Prop where
  kept : order <+: order'
  offPath : ∀ x ∈ order', x ∈ order ∨ x ∉ path
  settled : Settled units order → Settled units order'

namespace Grown

variable {path order order₁ order₂ : List Nat}

theorem refl : Grown units path order order :=
  ⟨List.prefix_refl _, fun _ hx => .inl hx, fun h => h⟩

theorem trans (h₁ : Grown units path order order₁) (h₂ : Grown units path order₁ order₂) :
    Grown units path order order₂ := by
  refine ⟨h₁.kept.trans h₂.kept, fun x hx => ?_, fun h => h₂.settled (h₁.settled h)⟩
  rcases h₂.offPath x hx with hx | hx
  · exact h₁.offPath x hx
  · exact .inr hx

/-- A loop of such changes is one, and what each round puts in place stays there. -/
theorem foldlM {α : Type} {f : List Nat → α → Except Fault (List Nat)}
    (Placed : α → List Nat → Prop)
    (hmono : ∀ a o o', o <+: o' → Placed a o → Placed a o')
    (hf : ∀ a o o', f o a = .ok o' → Grown units path o o' ∧ Placed a o') (as : List α)
    {order order' : List Nat} (h : as.foldlM f order = .ok order') :
    Grown units path order order' ∧ ∀ a ∈ as, Placed a order' := by
  induction as generalizing order with
  | nil =>
    cases h
    exact ⟨refl, by simp⟩
  | cons a as ih =>
    rw [List.foldlM_cons] at h
    obtain ⟨mid, hmid, hrest⟩ := bind_eq_ok_iff.1 h
    obtain ⟨hgrown, hplaced⟩ := hf a order mid hmid
    obtain ⟨hgrown', hplaced'⟩ := ih hrest
    refine ⟨hgrown.trans hgrown', ?_⟩
    intro b hb
    rcases List.mem_cons.1 hb with rfl | hb
    · exact hmono _ _ _ hgrown'.kept hplaced
    · exact hplaced' b hb

end Grown

variable (units)

/-- One dependency of a unit: its unit is visited, or it is missing. -/
def visitDependency (unit : CompilationUnit) (path order : List Nat) (dependency : String) :
    Except Fault (List Nat) :=
  match indexOf? units dependency with
  | none => .error (missing unit.module dependency)
  | some j => visit units path order j

/-- What can happen at one dependency: its module has no unit, or the unit of its module is
visited. -/
theorem visitDependency_cases (unit : CompilationUnit) (path order : List Nat) (m : String) :
    ((∀ other ∈ units, other.module ≠ m) ∧
        visitDependency units unit path order m = .error (missing unit.module m)) ∨
      ∃ j, IsUnitOf units j m ∧
        visitDependency units unit path order m = visit units path order j := by
  rw [visitDependency]
  cases hindex : indexOf? units m with
  | none => exact .inl ⟨indexOf?_eq_none_iff.1 hindex, rfl⟩
  | some j => exact .inr ⟨j, isUnitOf_of_indexOf? hindex, rfl⟩

/-- The visit of a place without unit changes nothing. -/
theorem visit_outside {path order : List Nat} {i : Nat} (hi : i ∉ order) (hpath : i ∉ path)
    (hnone : units[i]? = none) : visit units path order i = .ok order := by
  rw [visit, if_neg hi, dif_neg hpath]
  split
  · rfl
  · rename_i hsome
    rw [hnone] at hsome
    cases hsome

/-- The visit of a new unit: its dependencies in turn, then the unit itself. -/
theorem visit_new {path order : List Nat} {i : Nat} {unit : CompilationUnit} (hi : i ∉ order)
    (hpath : i ∉ path) (hunit : units[i]? = some unit) :
    visit units path order i =
      unit.dependencies.foldlM (visitDependency units unit (i :: path)) order >>=
        fun order => .ok (order ++ [i]) := by
  rw [visit, if_neg hi, dif_neg hpath]
  split
  · rename_i hnone
    rw [hunit] at hnone
    cases hnone
  · rename_i unit' hunit'
    rw [hunit, Option.some.injEq] at hunit'
    subst hunit'
    rfl

/-- **What a visit does to the order.** It grows as it may, and holds the unit afterwards. -/
theorem visit_grown {path order order' : List Nat} {i : Nat}
    (h : visit units path order i = .ok order') :
    Grown units path order order' ∧ (i < units.length → i ∈ order') := by
  induction path, order, i using visit.induct units generalizing order' with
  | case1 path order i hi =>
    rw [visit, if_pos hi] at h
    cases h
    exact ⟨.refl, fun _ => hi⟩
  | case2 path order i hi hpath =>
    rw [visit, if_neg hi, dif_pos hpath] at h
    cases h
  | case3 path order i hi hpath hnone =>
    have hge : units.length ≤ i := List.getElem?_eq_none_iff.1 hnone
    rw [visit_outside units hi hpath hnone] at h
    cases h
    exact ⟨.refl, fun hlt => absurd hlt (by omega)⟩
  | case4 path order i hi hpath unit hunit ih =>
    rw [visit_new units hi hpath hunit] at h
    obtain ⟨mid, hmid, hend⟩ := bind_eq_ok_iff.1 h
    cases hend
    -- the loop over the dependencies runs with `i` on the path, so it cannot place `i` itself
    have hstep : ∀ m o o', visitDependency units unit (i :: path) o m = .ok o' →
        Grown units (i :: path) o o' ∧ ∃ j ∈ o', IsUnitOf units j m := by
      intro m o o' hm
      obtain ⟨-, hfault⟩ | ⟨j, hunitOf, hvisit⟩ :=
        visitDependency_cases units unit (i :: path) o m
      · rw [hfault] at hm
        cases hm
      · rw [hvisit] at hm
        obtain ⟨hgrown, hplaced⟩ := ih o j hm
        exact ⟨hgrown, j, hplaced hunitOf.lt_length, hunitOf⟩
    have hmono : ∀ (m : String) (o o' : List Nat), o <+: o' →
        (∃ j ∈ o, IsUnitOf units j m) → ∃ j ∈ o', IsUnitOf units j m := by
      rintro m o o' hkept ⟨j, hj, hunitOf⟩
      exact ⟨j, hkept.subset hj, hunitOf⟩
    obtain ⟨hgrown, hplaced⟩ := Grown.foldlM (fun m o => ∃ j ∈ o, IsUnitOf units j m) hmono hstep
      unit.dependencies hmid
    -- so it is still new when it is appended, and all that it lists stands before it
    have hnew : i ∉ mid := by
      intro hmem
      rcases hgrown.offPath i hmem with h | h
      · exact hi h
      · exact h List.mem_cons_self
    refine ⟨⟨hgrown.kept.trans (List.prefix_append _ _), ?_, ?_⟩, by simp⟩
    · intro x hx
      rcases List.mem_append.1 hx with hx | hx
      · rcases hgrown.offPath x hx with h | h
        · exact .inl h
        · exact .inr fun hmem => h (List.mem_cons_of_mem _ hmem)
      · rw [List.mem_singleton] at hx
        exact .inr (hx ▸ hpath)
    · intro hsettled
      exact .snoc (hgrown.settled hsettled) hnew hunit hplaced

/-- **A visit succeeds** if every dependency is known and none runs in a circle: the unit is
reached from everything on the path, so it cannot be on the path itself. -/
theorem exists_visit_eq_ok (hknown : DependenciesKnown units) (hacyclic : Acyclic units)
    (path order : List Nat) (i : Nat) (hreach : ∀ x ∈ path, TransGen (DependsOn units) x i) :
    ∃ order', visit units path order i = .ok order' := by
  induction path, order, i using visit.induct units with
  | case1 path order i hi => exact ⟨order, by rw [visit, if_pos hi]⟩
  | case2 path order i hi hpath => exact absurd (hreach i hpath) (hacyclic i)
  | case3 path order i hi hpath hnone =>
    exact ⟨order, visit_outside units hi hpath hnone⟩
  | case4 path order i hi hpath unit hunit ih =>
    -- each dependency is found, and whatever led to `i` leads on to it
    have hstep : ∀ m ∈ unit.dependencies, ∀ o,
        ∃ o', visitDependency units unit (i :: path) o m = .ok o' := by
      intro m hm o
      obtain ⟨hunknown, -⟩ | ⟨j, hunitOf, hvisit⟩ :=
        visitDependency_cases units unit (i :: path) o m
      · obtain ⟨other, hother, rfl⟩ := hknown unit (List.mem_of_getElem? hunit) m hm
        exact absurd rfl (hunknown other hother)
      · rw [hvisit]
        have hij : DependsOn units i j := (dependsOn_iff hunit).2 ⟨m, hm, hunitOf⟩
        refine ih o j fun x hx => ?_
        rcases List.mem_cons.1 hx with rfl | hx
        · exact .single hij
        · exact (hreach x hx).tail hij
    obtain ⟨mid, hmid⟩ := exists_foldlM_eq_ok unit.dependencies hstep order
    exact ⟨mid ++ [i], by rw [visit_new units hi hpath hunit, hmid]; rfl⟩

/-! ## The order of all units -/

/-- A first repeated entry is missing exactly when nothing is repeated. -/
theorem firstRepeat_eq_none_iff (seen ms : List String) :
    firstRepeat seen ms = none ↔ ms.Nodup ∧ ∀ m ∈ ms, m ∉ seen := by
  induction ms generalizing seen with
  | nil => simp [firstRepeat]
  | cons m ms ih =>
    rw [firstRepeat]
    by_cases hm : m ∈ seen
    · simp [hm]
    · rw [if_neg hm, ih, List.nodup_cons]
      constructor
      · rintro ⟨hnodup, hseen⟩
        refine ⟨⟨fun h => hseen m h List.mem_cons_self, hnodup⟩, ?_⟩
        intro x hx
        rcases List.mem_cons.1 hx with rfl | hx
        · exact hm
        · exact fun h => hseen x hx (List.mem_cons_of_mem _ h)
      · rintro ⟨⟨hnotin, hnodup⟩, hseen⟩
        refine ⟨hnodup, fun x hx h => ?_⟩
        rcases List.mem_cons.1 h with rfl | h
        · exact hnotin hx
        · exact hseen x (List.mem_cons_of_mem _ hx) h

/-- The order is searched for when the modules are distinct. -/
theorem dependencyOrder_eq_ok_iff {order : List Nat} :
    dependencyOrder units = .ok order ↔
      ModulesDistinct units ∧
        (List.range units.length).foldlM (visit units []) [] = .ok order := by
  have hrepeat := firstRepeat_eq_none_iff [] (units.map CompilationUnit.module)
  rw [dependencyOrder]
  cases hfirst : firstRepeat [] (units.map CompilationUnit.module) with
  | none =>
    have hdistinct : ModulesDistinct units := (hrepeat.1 hfirst).1
    simp [hdistinct]
  | some m =>
    have hdistinct : ¬ ModulesDistinct units := by
      intro h
      rw [hrepeat.2 ⟨h, by simp⟩] at hfirst
      cases hfirst
    simp [hdistinct]

/-- **An order that is returned** is settled and holds every unit exactly once. -/
theorem dependencyOrder_settled {order : List Nat} (h : dependencyOrder units = .ok order) :
    ModulesDistinct units ∧ Settled units order ∧ order.Perm (List.range units.length) := by
  obtain ⟨hdistinct, hfold⟩ := (dependencyOrder_eq_ok_iff units).1 h
  obtain ⟨hgrown, hplaced⟩ := Grown.foldlM (fun i o => i < units.length → i ∈ o)
    (fun i o o' hkept hi hlt => hkept.subset (hi hlt))
    (fun i o o' hvisit => visit_grown units hvisit) _ hfold
  have hsettled := hgrown.settled .nil
  refine ⟨hdistinct, hsettled, (List.perm_ext_iff_of_nodup hsettled.nodup List.nodup_range).2 ?_⟩
  intro i
  rw [List.mem_range]
  constructor
  · intro hi
    obtain ⟨unit, hunit, -⟩ := hsettled.listed hi
    exact (List.getElem?_eq_some_iff.1 hunit).1
  · intro hlt
    exact hplaced i (List.mem_range.2 hlt) hlt

/-- **When there is an order.** Exactly if the modules are distinct, every dependency is known and
none runs in a circle. -/
theorem exists_dependencyOrder_iff :
    (∃ order, dependencyOrder units = .ok order) ↔
      ModulesDistinct units ∧ DependenciesKnown units ∧ Acyclic units := by
  constructor
  · rintro ⟨order, h⟩
    obtain ⟨hdistinct, hsettled, hperm⟩ := dependencyOrder_settled units h
    have hall : ∀ i, i < units.length → i ∈ order := fun i hlt =>
      hperm.mem_iff.2 (List.mem_range.2 hlt)
    refine ⟨hdistinct, ?_, ?_⟩
    · intro unit hunit m hm
      obtain ⟨i, hlt, rfl⟩ := List.mem_iff_getElem.1 hunit
      obtain ⟨u, hu, hlisted⟩ := hsettled.listed (hall i hlt)
      rw [List.getElem?_eq_getElem hlt, Option.some.injEq] at hu
      subst hu
      obtain ⟨j, -, other, hother, hmodule⟩ := hlisted m hm
      exact ⟨other, List.mem_of_getElem? hother, hmodule⟩
    · intro i hcycle
      -- a unit on a circle would stand before itself
      obtain ⟨k, ⟨unit, _, hunit, -, -⟩, -⟩ := TransGen.head'_iff.1 hcycle
      have hlt := (List.getElem?_eq_some_iff.1 hunit).1
      have hbefore := hsettled.idxOf_lt_of_transGen hdistinct (hall i hlt) hcycle
      exact absurd hbefore.2 (Nat.lt_irrefl _)
  · rintro ⟨hdistinct, hknown, hacyclic⟩
    obtain ⟨order, horder⟩ := exists_foldlM_eq_ok (List.range units.length)
      (fun i _ o => exists_visit_eq_ok units hknown hacyclic [] o i (by simp)) []
    exact ⟨order, (dependencyOrder_eq_ok_iff units).2 ⟨hdistinct, horder⟩⟩

end DependencyOrder

end BindingAudit
