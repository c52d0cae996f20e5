/-
# The closure of a unit is breadth first

The search for what a unit depends on keeps a queue: the units that have been found and not yet
looked at. After `k` rounds the first `k` units found have been looked at, so the queue is what is
left of the list behind them. It runs empty after as many rounds as units were found, and there are
no more of these than there are units, whether or not dependencies run in a circle.

* `rounds_of_length_lt` : the queue runs empty, and from then on nothing is found;
* `exists_foldl_findNew_eq_cons` : the first round lists units in the order of first mention;
* `IsBreadthFirst` : what a breadth-first list of dependencies is, said without the search;
* `dependencyClosure_isBreadthFirst` : the closure is one, on any graph of dependencies.
-/
import Mathlib.Data.List.Induction
import Mathlib.Order.Lattice.Nat
import BindingAudit.Proofs.NearestFirst

namespace BindingAudit

namespace DependencyOrder

open Relation

variable {units : List CompilationUnit} {i : Nat}

/-! ## The end of the search -/

/-- Later rounds keep what earlier rounds have found, in its place. -/
theorem prefix_rounds {k l : Nat} (hkl : k ≤ l) : rounds units i k <+: rounds units i l := by
  induction hkl with
  | refl => exact List.prefix_refl _
  | step _ ih =>
    rw [rounds_succ]
    exact ih.trans (prefix_expand _ _)

/-- When every unit that was found has been looked at, nothing more is found. -/
theorem rounds_of_length_le {k l : Nat} (h : (rounds units i k).length ≤ k) (hkl : k ≤ l) :
    rounds units i l = rounds units i k := by
  induction hkl with
  | refl => rfl
  | step hkl ih =>
    rw [rounds_succ, ih]
    exact expand_of_length_le (Nat.le_trans h hkl)

/-- Fewer units are found than there are, the one that the search starts from not being counted. -/
theorem length_dependencyClosure_lt (hdistinct : ModulesDistinct units) (hi : i < units.length) :
    (dependencyClosure units i).length < units.length := by
  have hle := (explored_rounds hdistinct i units.length).length_le hi
  rw [rounds_eq_cons hdistinct, List.length_cons] at hle
  omega

/-- **The search comes to an end.** A round for the start and one for each unit found are enough,
and any number of further rounds finds nothing. -/
theorem rounds_of_length_lt (hdistinct : ModulesDistinct units) (hi : i < units.length) {k : Nat}
    (hk : (dependencyClosure units i).length < k) :
    rounds units i k = i :: dependencyClosure units i := by
  have hall := rounds_eq_cons hdistinct i
  have hfound : (rounds units i units.length).length = (dependencyClosure units i).length + 1 := by
    rw [hall, List.length_cons]
  have hlt := length_dependencyClosure_lt hdistinct hi
  rw [← hall]
  rcases Nat.le_total units.length k with hle | hle
  · apply rounds_of_length_le _ hle
    omega
  · -- fewer rounds find a part of it, so that the queue was empty by then
    have hpart : rounds units i k <+: rounds units i units.length := prefix_rounds hle
    have hlength := hpart.length_le
    refine (rounds_of_length_le ?_ hle).symm
    omega

/-! ## Direct dependencies -/

/-- In a list of modules, that of the unit at place `a` is first mentioned before that of the unit
at place `b`. -/
def MentionedBefore (units : List CompilationUnit) (ms : List String) (a b : Nat) : Prop :=
  ms.idxOf (moduleAt units a) < ms.idxOf (moduleAt units b)

/-- Modules that a list mentions are not mentioned earlier because the list goes on. -/
theorem MentionedBefore.append {ms : List String} {a b : Nat} (h : MentionedBefore units ms a b)
    (ha : moduleAt units a ∈ ms) (hb : moduleAt units b ∈ ms) (rest : List String) :
    MentionedBefore units (ms ++ rest) a b := by
  unfold MentionedBefore
  rw [List.idxOf_append_of_mem ha, List.idxOf_append_of_mem hb]
  exact h

/-- A module that a list mentions comes before one that is new behind it. -/
theorem mentionedBefore_concat {ms : List String} {a b : Nat} (ha : moduleAt units a ∈ ms)
    (hb : moduleAt units b ∉ ms) : MentionedBefore units (ms ++ [moduleAt units b]) a b := by
  unfold MentionedBefore
  rw [List.idxOf_append_of_mem ha, List.idxOf_append_of_notMem hb]
  have hlt := List.idxOf_lt_length_of_mem ha
  omega

theorem moduleAt_of_indexOf? {m : String} {j : Nat} (h : indexOf? units m = some j) :
    moduleAt units j = m := by
  obtain ⟨unit, hunit, rfl⟩ := isUnitOf_of_indexOf? h
  rw [moduleAt, hunit]
  rfl

/-- **A look at several dependencies** lists what it finds in the order of first mention. -/
theorem exists_foldl_findNew_eq_cons (units : List CompilationUnit) (i : Nat) (ms : List String) :
    ∃ new, ms.foldl (findNew units) [i] = i :: new ∧ (∀ x ∈ new, moduleAt units x ∈ ms) ∧
      new.Pairwise (MentionedBefore units ms) := by
  induction ms using List.reverseRecOn with
  | nil => exact ⟨[], rfl, by simp, List.Pairwise.nil⟩
  | append_singleton ms m ih =>
    obtain ⟨new, hnew, hmem, hsorted⟩ := ih
    rw [List.foldl_append, List.foldl_cons, List.foldl_nil, hnew]
    have hmem' : ∀ x ∈ new, moduleAt units x ∈ ms ++ [m] :=
      fun x hx => List.mem_append_left _ (hmem x hx)
    have hsorted' : new.Pairwise (MentionedBefore units (ms ++ [m])) :=
      hsorted.imp_of_mem fun ha hb h => h.append (hmem _ ha) (hmem _ hb) [m]
    unfold findNew
    split
    · rename_i j hj
      by_cases hold : j ∈ i :: new
      · rw [if_pos hold]
        exact ⟨new, rfl, hmem', hsorted'⟩
      · rw [if_neg hold]
        obtain rfl := moduleAt_of_indexOf? hj
        -- an earlier mention would have found the unit already
        have hfresh : moduleAt units j ∉ ms := by
          intro hearlier
          apply hold
          rw [← hnew]
          exact mem_foldl_findNew_iff.2 (.inr ⟨_, hearlier, hj⟩)
        refine ⟨new ++ [j], rfl, ?_, ?_⟩
        · intro x hx
          rcases List.mem_append.1 hx with hx | hx
          · exact hmem' x hx
          · rw [List.mem_singleton.1 hx]
            exact List.mem_append_right _ List.mem_cons_self
        · refine List.pairwise_append.2 ⟨hsorted', List.pairwise_singleton _ _, ?_⟩
          intro a ha b hb
          rw [List.mem_singleton.1 hb]
          exact mentionedBefore_concat (hmem a ha) hfresh
    · exact ⟨new, rfl, hmem', hsorted'⟩

/-- The first round lists the direct dependencies, in the order of first mention. -/
theorem exists_rounds_one_eq_cons (hdistinct : ModulesDistinct units) {unit : CompilationUnit}
    (hunit : units[i]? = some unit) :
    ∃ direct, rounds units i 1 = i :: direct ∧
      (∀ x, x ∈ direct ↔ x ≠ i ∧ DependsOn units i x) ∧
      direct.Pairwise (MentionedBefore units unit.dependencies) := by
  have hround : rounds units i 1 = unit.dependencies.foldl (findNew units) [i] := by
    show expand units [i] 0 = _
    unfold expand
    rw [List.getElem?_cons_zero, Option.bind_some, hunit]
  obtain ⟨direct, hdirect, -, hsorted⟩ :=
    exists_foldl_findNew_eq_cons units i unit.dependencies
  rw [hdirect] at hround
  refine ⟨direct, hround, fun x => ?_, hsorted⟩
  have hmem : x ∈ rounds units i 1 ↔ x ∈ [i] ∨ DependsOn units i x :=
    mem_expand_iff hdistinct rfl
  have hnodup := (explored_rounds hdistinct i 1).nodup
  rw [hround] at hmem hnodup
  have hstart : i ∉ direct := (List.nodup_cons.1 hnodup).1
  rw [List.mem_cons, List.mem_singleton] at hmem
  constructor
  · intro hx
    have hne : x ≠ i := fun h => hstart (h ▸ hx)
    exact ⟨hne, (hmem.1 (.inr hx)).resolve_left hne⟩
  · rintro ⟨hne, hx⟩
    exact (hmem.2 (.inr hx)).resolve_left hne

/-! ## Distances -/

/-- The least number of links from the unit at place `i` to the one at place `x` is `k`. -/
def IsDistance (units : List CompilationUnit) (i x k : Nat) : Prop :=
  IsLeast {l | Within units i l x} k

/-- Everything that a unit leads to has a distance from it. -/
theorem exists_isDistance {x : Nat} (h : ReflTransGen (DependsOn units) i x) :
    ∃ k, IsDistance units i x k :=
  ⟨_, isLeast_csInf (exists_within_iff.2 h)⟩

/-- What is no farther has no greater distance. -/
theorem NoFarther.le_of_isDistance {a b k l : Nat} (h : NoFarther units i a b)
    (hk : IsDistance units i a k) (hl : IsDistance units i b l) : k ≤ l :=
  hk.2 (h l hl.1)

/-! ## Breadth-first lists -/

/-- A list of places lists what the unit at place `i` depends on, breadth first. -/
structure IsBreadthFirst (units : List CompilationUnit) (i : Nat) (listed : List Nat) : Prop where
  /-- Everything that one or more links lead to is listed, and nothing else is; the unit itself is
  left out. -/
  complete : ∀ x, x ∈ listed ↔ x ≠ i ∧ TransGen (DependsOn units) i x
  /-- No unit is listed twice. -/
  nodup : listed.Nodup
  /-- Every listed unit has a distance. -/
  reached : ∀ x ∈ listed, ∃ k, IsDistance units i x k
  /-- Distances do not decrease along the list. -/
  nearestFirst : listed.Pairwise fun a b =>
    ∀ k l, IsDistance units i a k → IsDistance units i b l → k ≤ l
  /-- Direct dependencies stand in front, in the order of first mention. -/
  directFirst : ∀ unit, units[i]? = some unit → ∃ direct farther, listed = direct ++ farther ∧
    (∀ x, x ∈ direct ↔ x ≠ i ∧ DependsOn units i x) ∧
    direct.Pairwise (MentionedBefore units unit.dependencies)

/-- The closure begins with what the first round finds. -/
theorem exists_dependencyClosure_eq_append (hdistinct : ModulesDistinct units)
    {unit : CompilationUnit} (hunit : units[i]? = some unit) :
    ∃ direct farther, dependencyClosure units i = direct ++ farther ∧
      (∀ x, x ∈ direct ↔ x ≠ i ∧ DependsOn units i x) ∧
      direct.Pairwise (MentionedBefore units unit.dependencies) := by
  obtain ⟨direct, hfirst, hmem, hsorted⟩ := exists_rounds_one_eq_cons hdistinct hunit
  have hi := (List.getElem?_eq_some_iff.1 hunit).1
  have hpart : rounds units i 1 <+: rounds units i units.length := prefix_rounds (by omega)
  rw [hfirst, rounds_eq_cons hdistinct, List.prefix_cons_inj] at hpart
  obtain ⟨farther, hfarther⟩ := hpart
  exact ⟨direct, farther, hfarther.symm, hmem, hsorted⟩

/-- **The closure of a unit is breadth first**, on any graph of dependencies, with circles and
unknown modules in it. The search for it ends: with one round for the start and one for each unit
found the queue is empty, there are at most as many rounds as units, and no further round finds
anything. -/
theorem dependencyClosure_isBreadthFirst (hdistinct : ModulesDistinct units)
    (hi : i < units.length) :
    IsBreadthFirst units i (dependencyClosure units i) ∧
      (dependencyClosure units i).length < units.length ∧
      ∀ k, (dependencyClosure units i).length < k →
        (List.range k).foldl (expand units) [i] = i :: dependencyClosure units i := by
  have hmem := fun x => mem_dependencyClosure_iff hdistinct hi (x := x)
  refine ⟨⟨hmem, nodup_dependencyClosure hdistinct i, ?_, ?_, ?_⟩,
    length_dependencyClosure_lt hdistinct hi, fun k => rounds_of_length_lt hdistinct hi⟩
  · intro x hx
    exact exists_isDistance ((hmem x).1 hx).2.to_reflTransGen
  · apply (pairwise_dependencyClosure hdistinct i).imp
    intro a b h k l
    exact h.le_of_isDistance
  · intro unit
    exact exists_dependencyClosure_eq_append hdistinct

/-- Units that depend on each other in circles. The first lists a module twice, itself, and one that
no unit has. -/
def carousel : List CompilationUnit :=
  [{ CompilationUnit.empty "app" with dependencies := ["util", "lost", "app", "lib", "util"] },
    { CompilationUnit.empty "lib" with dependencies := ["app", "base"] },
    { CompilationUnit.empty "base" with dependencies := ["lib", "deep"] },
    { CompilationUnit.empty "util" with dependencies := ["base"] },
    { CompilationUnit.empty "deep" with dependencies := ["deep"] }]

/-- From the first unit, two others are one link away and the rest farther. -/
theorem carousel_isBreadthFirst :
    ModulesDistinct carousel ∧ dependencyClosure carousel 0 = [3, 1, 2, 4] ∧
      IsBreadthFirst carousel 0 [3, 1, 2, 4] ∧
      (List.range 1000).foldl (expand carousel) [0] = [0, 3, 1, 2, 4] := by
  have hdistinct : ModulesDistinct carousel :=
    (by decide : (carousel.map CompilationUnit.module).Nodup)
  have hclosure : dependencyClosure carousel 0 = [3, 1, 2, 4] := by decide +kernel
  obtain ⟨hlist, -, hend⟩ := dependencyClosure_isBreadthFirst (i := 0) hdistinct (by decide)
  rw [hclosure] at hlist hend
  exact ⟨hdistinct, hclosure, hlist, hend 1000 (by decide)⟩

end DependencyOrder

end BindingAudit
