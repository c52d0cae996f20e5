/-
# Why there is no order

The units cannot be put in order if a module occurs twice, if a dependency is no unit, or if
dependencies run in a circle. The fault that is returned names the culprit, and it tells the
truth about the units.

The path of a visit is what makes the reported circle one: each unit on it was entered through a
dependency of the unit before, so coming back to one of them closes a chain of dependencies.

* `Justified` : what a fault says about the units;
* `Approach.justified_cycleThrough` : a circle that is reported is a circle;
* `visit_justified` : every fault of a visit is justified;
* `dependencyOrder_ok_iff_and_justified` : when there is an order, and that a fault tells why
  there is none.
-/
import Mathlib.Data.List.Chain
import BindingAudit.Proofs.DependencySearch

namespace BindingAudit

open Relation

/-! ## Computations that fail -/

/-- A sequence of two steps fails when the first does, or the second after the first. -/
theorem bind_eq_error_iff {ε α β : Type} {x : Except ε α} {f : α → Except ε β} {e : ε} :
    x >>= f = .error e ↔ x = .error e ∨ ∃ a, x = .ok a ∧ f a = .error e := by
  cases x with
  | error e' =>
    constructor
    · rintro ⟨⟩
      exact .inl rfl
    · rintro (⟨⟨⟩⟩ | ⟨a, h, -⟩)
      · rfl
      · cases h
  | ok a =>
    constructor
    · intro h
      exact .inr ⟨a, rfl, h⟩
    · rintro (h | ⟨_, ⟨⟩, h⟩)
      · cases h
      · exact h

/-- A loop that fails does so in one of its rounds. -/
theorem exists_of_foldlM_eq_error {ε α β : Type} {f : β → α → Except ε β} {as : List α} {b : β}
    {e : ε} (h : as.foldlM f b = .error e) : ∃ a ∈ as, ∃ b', f b' a = .error e := by
  induction as generalizing b with
  | nil => cases h
  | cons a as ih =>
    rw [List.foldlM_cons] at h
    rcases bind_eq_error_iff.1 h with h | ⟨b', -, h⟩
    · exact ⟨a, List.mem_cons_self, b, h⟩
    · obtain ⟨a', ha', hfail⟩ := ih h
      exact ⟨a', List.mem_cons_of_mem _ ha', hfail⟩

namespace DependencyOrder

variable (units : List CompilationUnit)

/-! ## What a fault says -/

/-- A unit of module `m` lists `m'` as a dependency. -/
def ListsModule (m m' : String) : Prop :=
  ∃ unit ∈ units, unit.module = m ∧ m' ∈ unit.dependencies

/-- The faults that tell the truth about the units. -/
inductive Justified : Fault → Prop where
  /-- The module that is named occurs twice. -/
  | repeated {m : String} (htwice : 2 ≤ (units.map CompilationUnit.module).count m) :
      Justified ⟨.invalidArgument ("module " ++ m ++ " appears more than once"), none⟩
  /-- The module that is named has no unit, and the module of the context lists it. -/
  | missing {m c : String} (hunknown : ∀ unit ∈ units, unit.module ≠ m)
      (hlists : ListsModule units c m) :
      Justified ⟨.unknownUnit m, some { module := some c }⟩
  /-- The modules that are named are distinct, apart from the first one, which is repeated at the
  end, and each lists the next. -/
  | cycle {m : String} {ms : List String} (hdistinct : (m :: ms).Nodup)
      (hlinked : (m :: ms ++ [m]).IsChain (ListsModule units)) :
      Justified ⟨.dependencyCycle (m :: ms ++ [m]), none⟩

variable {units}

/-! ## Modules at places -/

/-- The unit at a place is the unit of the module there. -/
theorem isUnitOf_moduleAt {i : Nat} (hi : i < units.length) :
    IsUnitOf units i (moduleAt units i) := by
  refine ⟨units[i], List.getElem?_eq_getElem hi, ?_⟩
  rw [moduleAt, List.getElem?_eq_getElem hi]
  rfl

/-- Distinct places have distinct modules. -/
theorem nodup_map_moduleAt (hdistinct : ModulesDistinct units) {places : List Nat}
    (hwithin : ∀ x ∈ places, x < units.length) (hnodup : places.Nodup) :
    (places.map (moduleAt units)).Nodup := by
  refine List.Nodup.map_on (fun x hx y hy hxy => ?_) hnodup
  have hy' := isUnitOf_moduleAt (hwithin y hy)
  rw [← hxy] at hy'
  exact (isUnitOf_moduleAt (hwithin x hx)).unique hdistinct hy'

/-- A dependency between places is one between their modules. -/
theorem DependsOn.listsModule {i j : Nat} (h : DependsOn units i j) :
    ListsModule units (moduleAt units i) (moduleAt units j) := by
  obtain ⟨unit, other, hunit, hother, hm⟩ := h
  refine ⟨unit, List.mem_of_getElem? hunit, ?_, ?_⟩
  · rw [moduleAt, hunit]
    rfl
  · rw [moduleAt, hother]
    exact hm

/-! ## Paths -/

/-- A path, innermost first, that leads to the unit at place `i`: each unit on it depends on the
one entered next, the last one on `i`. -/
structure Approach (units : List CompilationUnit) (path : List Nat) (i : Nat) : Prop where
  linked : (i :: path).IsChain fun a b => DependsOn units b a
  nodup : path.Nodup
  within : ∀ x ∈ path, x < units.length

namespace Approach

variable {path : List Nat} {i : Nat}

/-- The search starts on the empty path. -/
theorem nil : Approach units [] i :=
  ⟨.singleton i, List.nodup_nil, by simp⟩

/-- Following a dependency of a unit puts that unit on the path. -/
theorem step (h : Approach units path i) (hnew : i ∉ path) {j : Nat}
    (hij : DependsOn units i j) : Approach units (i :: path) j := by
  refine ⟨List.isChain_cons_cons.2 ⟨hij, h.linked⟩, List.nodup_cons.2 ⟨hnew, h.nodup⟩, ?_⟩
  intro x hx
  rcases List.mem_cons.1 hx with rfl | hx
  · obtain ⟨unit, _, hunit, -⟩ := hij
    exact (List.getElem?_eq_some_iff.1 hunit).1
  · exact h.within x hx

/-- **A circle that is reported is a circle.** -/
theorem justified_cycleThrough (hdistinct : ModulesDistinct units) (h : Approach units path i)
    (hi : i ∈ path) : Justified units (cycleThrough units path i) := by
  -- the circle runs over the part of the path that was entered after `i`
  obtain ⟨after, before, rfl, hnot⟩ := List.eq_append_cons_of_mem hi
  have hafter : (after ++ i :: before).takeWhile (· != i) = after := by
    have hne : ∀ x ∈ after, (x != i) = true := by
      intro x hx
      rw [bne_iff_ne]
      rintro rfl
      exact hnot hx
    rw [List.takeWhile_append_of_pos hne]
    simp
  have hchain : (i :: after.reverse ++ [i]).IsChain (DependsOn units) := by
    have hback : (i :: after ++ [i]).IsChain fun a b => DependsOn units b a :=
      h.linked.prefix ⟨before, by simp⟩
    have hrev : (i :: after ++ [i]).reverse = i :: after.reverse ++ [i] := by simp
    rw [← hrev]
    exact List.isChain_reverse.2 hback
  have hplaces : (i :: after.reverse).Nodup := by
    refine List.nodup_cons.2 ⟨by simpa using hnot, ?_⟩
    exact List.nodup_reverse.2 (h.nodup.sublist (List.sublist_append_left _ _))
  have hwithin : ∀ x ∈ i :: after.reverse, x < units.length := by
    intro x hx
    apply h.within
    rcases List.mem_cons.1 hx with rfl | hx
    · simp
    · simp [List.mem_reverse.1 hx]
  have hmodules := nodup_map_moduleAt hdistinct hwithin hplaces
  have hlinked : ((i :: after.reverse ++ [i]).map (moduleAt units)).IsChain (ListsModule units) :=
    List.isChain_map_of_isChain _ (fun _ _ hab => hab.listsModule) hchain
  rw [cycleThrough, hafter, List.map_append, List.map_cons, List.map_singleton]
  rw [List.map_append, List.map_cons, List.map_singleton] at hlinked
  rw [List.map_cons] at hmodules
  exact .cycle hmodules hlinked

end Approach

/-! ## Faults of the search -/

/-- **The faults of a visit are justified.** -/
theorem visit_justified (hdistinct : ModulesDistinct units) {path order : List Nat} {i : Nat}
    (happroach : Approach units path i) {fault : Fault}
    (h : visit units path order i = .error fault) : Justified units fault := by
  induction path, order, i using visit.induct units with
  | case1 path order i hi =>
    rw [visit, if_pos hi] at h
    cases h
  | case2 path order i hi hpath =>
    rw [visit, if_neg hi, dif_pos hpath] at h
    cases h
    exact happroach.justified_cycleThrough hdistinct hpath
  | case3 path order i hi hpath hnone =>
    rw [visit_outside units hi hpath hnone] at h
    cases h
  | case4 path order i hi hpath unit hunit ih =>
    rw [visit_new units hi hpath hunit] at h
    rcases bind_eq_error_iff.1 h with hloop | ⟨_, -, hend⟩
    · obtain ⟨m, hm, order', hround⟩ := exists_of_foldlM_eq_error hloop
      obtain ⟨hunknown, hfault⟩ | ⟨j, hunitOf, hvisit⟩ :=
        visitDependency_cases units unit (i :: path) order' m
      · rw [hfault] at hround
        cases hround
        exact .missing hunknown ⟨unit, List.mem_of_getElem? hunit, rfl, hm⟩
      · rw [hvisit] at hround
        have hij : DependsOn units i j := (dependsOn_iff hunit).2 ⟨m, hm, hunitOf⟩
        exact ih order' j (happroach.step hpath hij) hround
    · cases hend

/-- The first repeated entry of a list occurs twice in it, counting what came before. -/
theorem two_le_count_of_firstRepeat {seen ms : List String} {m : String}
    (h : firstRepeat seen ms = some m) : 2 ≤ seen.count m + ms.count m := by
  induction ms generalizing seen with
  | nil => cases h
  | cons a ms ih =>
    rw [firstRepeat] at h
    split at h
    · rename_i hseen
      cases h
      have hbefore := List.one_le_count_iff.2 hseen
      rw [List.count_cons_self]
      omega
    · have hcount := ih h
      rw [List.count_cons] at hcount ⊢
      omega

variable (units)

/-- The faults of the whole search are justified. -/
theorem justified_of_dependencyOrder {fault : Fault}
    (h : dependencyOrder units = .error fault) : Justified units fault := by
  have hrepeat := firstRepeat_eq_none_iff [] (units.map CompilationUnit.module)
  rw [dependencyOrder] at h
  cases hfirst : firstRepeat [] (units.map CompilationUnit.module) with
  | some m =>
    rw [hfirst] at h
    cases h
    exact .repeated (by simpa using two_le_count_of_firstRepeat hfirst)
  | none =>
    rw [hfirst] at h
    obtain ⟨i, -, order, hvisit⟩ := exists_of_foldlM_eq_error h
    exact visit_justified (hrepeat.1 hfirst).1 .nil hvisit

/-- **When there is an order, and why there is none.** There is one exactly if the modules are
distinct, every dependency is known and none runs in a circle; and a fault tells the truth. -/
theorem dependencyOrder_ok_iff_and_justified :
    ((∃ order, dependencyOrder units = .ok order) ↔
      ModulesDistinct units ∧ DependenciesKnown units ∧ Acyclic units) ∧
    ∀ fault, dependencyOrder units = .error fault → Justified units fault := by
  constructor
  · exact exists_dependencyOrder_iff units
  · intro fault h
    exact justified_of_dependencyOrder units h

/-- A unit that leads into a circle of two others. -/
def tangle : List CompilationUnit :=
  [{ CompilationUnit.empty "app" with dependencies := ["lib"] },
    { CompilationUnit.empty "lib" with dependencies := ["base"] },
    { CompilationUnit.empty "base" with dependencies := ["lib", "gone"] }]

/-- The circle is reported without the way that leads into it. -/
theorem tangle_justified :
    dependencyOrder tangle = .error ⟨.dependencyCycle ["lib", "base", "lib"], none⟩ ∧
      Justified tangle ⟨.dependencyCycle ["lib", "base", "lib"], none⟩ := by
  have hfault : dependencyOrder tangle =
      .error ⟨.dependencyCycle ["lib", "base", "lib"], none⟩ := by decide +kernel
  exact ⟨hfault, (dependencyOrder_ok_iff_and_justified tangle).2 _ hfault⟩

end DependencyOrder

end BindingAudit
