/-
# The order keeps the listed order

Units that do not depend on each other are analyzed in the order in which they are listed. The
search visits the units in that order and puts nothing in place that the visited unit does not
lead to. So a unit can come before one that is listed earlier only because something up to that
point depends on it.

* `visit_reached` : a visit adds only what the visited unit depends on, and the unit itself;
* `exists_root_of_idxOf_lt` : what comes before a unit out of turn is a dependency of that unit
  or of one listed before it;
* `dependencyOrder_isStableOrder` : an order that is returned is a stable topological order.
-/
import BindingAudit.Proofs.DependencySearch

namespace BindingAudit

namespace DependencyOrder

open Relation

variable {units : List CompilationUnit}

/-! ## What is added to an order -/

/-- Everything that a loop adds to an order was added in one of its rounds. -/
theorem mem_of_foldlM {α : Type} {f : List Nat → α → Except Fault (List Nat)}
    {Added : α → Nat → Prop} (as : List α)
    (hf : ∀ a ∈ as, ∀ o o', f o a = .ok o' → ∀ x ∈ o', x ∈ o ∨ Added a x)
    {order order' : List Nat} (h : as.foldlM f order = .ok order') {x : Nat} (hx : x ∈ order') :
    x ∈ order ∨ ∃ a ∈ as, Added a x := by
  induction as generalizing order with
  | nil =>
    cases h
    exact .inl hx
  | cons a as ih =>
    rw [List.foldlM_cons] at h
    obtain ⟨mid, hmid, hrest⟩ := bind_eq_ok_iff.1 h
    rcases ih (fun b hb => hf b (List.mem_cons_of_mem _ hb)) hrest with hx | ⟨b, hb, hadded⟩
    · rcases hf a List.mem_cons_self order mid hmid x hx with hx | hadded
      · exact .inl hx
      · exact .inr ⟨a, List.mem_cons_self, hadded⟩
    · exact .inr ⟨b, List.mem_cons_of_mem _ hb, hadded⟩

/-- **A visit adds only what the unit leads to.** -/
theorem visit_reached {path order order' : List Nat} {i : Nat}
    (h : visit units path order i = .ok order') :
    ∀ x ∈ order', x ∈ order ∨ ReflTransGen (DependsOn units) i x := by
  induction path, order, i using visit.induct units generalizing order' with
  | case1 path order i hi =>
    rw [visit, if_pos hi] at h
    cases h
    exact fun x hx => .inl hx
  | case2 path order i hi hpath =>
    rw [visit, if_neg hi, dif_pos hpath] at h
    cases h
  | case3 path order i hi hpath hnone =>
    rw [visit_outside units hi hpath hnone] at h
    cases h
    exact fun x hx => .inl hx
  | case4 path order i hi hpath unit hunit ih =>
    rw [visit_new units hi hpath hunit] at h
    obtain ⟨mid, hmid, hend⟩ := bind_eq_ok_iff.1 h
    cases hend
    -- what a dependency leads to, the unit that lists it leads to as well
    have hstep : ∀ m ∈ unit.dependencies, ∀ o o',
        visitDependency units unit (i :: path) o m = .ok o' →
          ∀ y ∈ o', y ∈ o ∨ ReflTransGen (DependsOn units) i y := by
      intro m hm o o' ho' y hy
      obtain ⟨-, hfault⟩ | ⟨j, hunitOf, hvisit⟩ :=
        visitDependency_cases units unit (i :: path) o m
      · rw [hfault] at ho'
        cases ho'
      · rw [hvisit] at ho'
        have hij : DependsOn units i j := (dependsOn_iff hunit).2 ⟨m, hm, hunitOf⟩
        rcases ih o j ho' y hy with hy | hreach
        · exact .inl hy
        · exact .inr (.head hij hreach)
    intro x hx
    rcases List.mem_append.1 hx with hx | hx
    · rcases mem_of_foldlM unit.dependencies hstep hmid hx with hx | ⟨_, -, hreach⟩
      · exact .inl hx
      · exact .inr hreach
    · rw [List.mem_singleton] at hx
      subst hx
      exact .inr .refl

/-! ## Visiting the units in turn -/

/-- What stands before an entry of the first part of a list is in that part. -/
theorem mem_of_idxOf_lt {l l' : List Nat} (hkept : l <+: l') {i j : Nat} (hi : i ∈ l)
    (hlt : l'.idxOf j < l'.idxOf i) : j ∈ l := by
  obtain ⟨rest, rfl⟩ := hkept
  by_contra hj
  rw [List.idxOf_append_of_mem hi, List.idxOf_append_of_notMem hj] at hlt
  have hbound := List.idxOf_lt_length_of_mem hi
  omega

/-- Visiting units in turn lets the order grow as it may, and puts each of them in place. -/
theorem foldlM_visit_grown {roots order order' : List Nat}
    (h : roots.foldlM (visit units []) order = .ok order') :
    Grown units [] order order' ∧ ∀ k ∈ roots, k < units.length → k ∈ order' :=
  Grown.foldlM (fun k o => k < units.length → k ∈ o)
    (fun _ _ _ hkept hk hlt => hkept.subset (hk hlt)) (fun _ _ _ hvisit => visit_grown units hvisit)
    roots h

/-- The search up to a unit: it holds that unit, it leads only to what these units lead to, and
the rest of the search only appends to it. -/
theorem exists_order_upto {order : List Nat}
    (h : (List.range units.length).foldlM (visit units []) [] = .ok order) {i : Nat}
    (hi : i < units.length) :
    ∃ first, first <+: order ∧ i ∈ first ∧
      ∀ x ∈ first, ∃ k ≤ i, ReflTransGen (DependsOn units) k x := by
  have hsplit : List.range units.length =
      List.range (i + 1) ++ (List.range (units.length - (i + 1))).map (i + 1 + ·) := by
    rw [← List.range_add]
    congr 1
    omega
  rw [hsplit, List.foldlM_append] at h
  obtain ⟨first, hfirst, hrest⟩ := bind_eq_ok_iff.1 h
  have hplaced := (foldlM_visit_grown hfirst).2
  have hkept := (foldlM_visit_grown hrest).1
  refine ⟨first, hkept.kept, hplaced i (List.mem_range.2 (by omega)) hi, fun x hx => ?_⟩
  have hreached := mem_of_foldlM (List.range (i + 1))
    (fun k _ o o' hvisit => visit_reached hvisit) hfirst hx
  obtain ⟨k, hk, hreach⟩ := hreached.resolve_left (by simp)
  rw [List.mem_range] at hk
  exact ⟨k, by omega, hreach⟩

/-- What comes before a unit although it is listed behind it is a dependency of that unit or of
one listed before it. -/
theorem exists_root_of_idxOf_lt {order : List Nat}
    (h : (List.range units.length).foldlM (visit units []) [] = .ok order) {i j : Nat}
    (hi : i < units.length) (hij : i < j) (hbefore : order.idxOf j < order.idxOf i) :
    ∃ k ≤ i, TransGen (DependsOn units) k j := by
  obtain ⟨first, hkept, hmem, hreached⟩ := exists_order_upto h hi
  obtain ⟨k, hk, hreach⟩ := hreached j (mem_of_idxOf_lt hkept hmem hbefore)
  rcases reflTransGen_iff_eq_or_transGen.1 hreach with hjk | hreach
  · omega
  · exact ⟨k, hk, hreach⟩

/-! ## Stable topological orders -/

/-- An order of the places of all units in which dependencies come first and ties keep the listed
order. -/
structure IsStableOrder (units : List CompilationUnit) (order : List Nat) : Prop where
  /-- Every place occurs once. -/
  perm : order.Perm (List.range units.length)
  /-- Each listed module has one unit, which comes before the unit that lists it. -/
  dependenciesFirst : ∀ i unit, units[i]? = some unit → ∀ m ∈ unit.dependencies,
    ∃ j, (∀ k, IsUnitOf units k m ↔ k = j) ∧ order.idxOf j < order.idxOf i
  /-- A unit comes out of turn only if a unit that was due depends on it, directly or not. -/
  ties : ∀ i j, i < j → order.idxOf j < order.idxOf i →
    ∃ k ≤ i, TransGen (DependsOn units) k j

/-- **The order is a stable topological sort.** -/
theorem dependencyOrder_isStableOrder {order : List Nat}
    (h : dependencyOrder units = .ok order) : IsStableOrder units order := by
  obtain ⟨hdistinct, hsettled, hperm⟩ := dependencyOrder_settled units h
  have hall : ∀ i, i ∈ order ↔ i < units.length := fun i => by
    rw [hperm.mem_iff, List.mem_range]
  refine ⟨hperm, ?_, ?_⟩
  · intro i unit hunit m hm
    have hi : i ∈ order := (hall i).2 (List.getElem?_eq_some_iff.1 hunit).1
    obtain ⟨u, hu, hlisted⟩ := hsettled.listed hi
    rw [hunit, Option.some.injEq] at hu
    subst hu
    obtain ⟨j, -, hj⟩ := hlisted m hm
    refine ⟨j, fun k => ⟨fun hk => hk.unique hdistinct hj, fun hk => hk ▸ hj⟩, ?_⟩
    exact (hsettled.idxOf_lt hdistinct hi ((dependsOn_iff hunit).2 ⟨m, hm, hj⟩)).2
  · intro i j hij hbefore
    -- whatever comes before something is in the order, so it has a place, and `i` has one too
    have hj : j ∈ order := by
      by_contra hj
      have hlast := List.idxOf_eq_length_iff.2 hj
      have hbound : order.idxOf i ≤ order.length := List.idxOf_le_length
      omega
    have hi : i < units.length := by
      have := (hall j).1 hj
      omega
    exact exists_root_of_idxOf_lt ((dependencyOrder_eq_ok_iff units).1 h).2 hi hij hbefore

/-- A program in the shape of a diamond, with a module listed twice and a unit on its own. -/
def diamond : List CompilationUnit :=
  [{ CompilationUnit.empty "app" with dependencies := ["lib", "util", "lib"] }, .empty "tool",
    { CompilationUnit.empty "lib" with dependencies := ["base"] },
    { CompilationUnit.empty "util" with dependencies := ["base"] }, .empty "base"]

/-- The diamond is put in order from its bottom, and the unit on its own stays behind it. -/
theorem diamond_isStableOrder :
    dependencyOrder diamond = .ok [4, 2, 3, 0, 1] ∧ IsStableOrder diamond [4, 2, 3, 0, 1] := by
  have horder : dependencyOrder diamond = .ok [4, 2, 3, 0, 1] := by decide +kernel
  exact ⟨horder, dependencyOrder_isStableOrder horder⟩

end DependencyOrder

end BindingAudit
