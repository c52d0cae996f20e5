/-
# Nearest first

The closure of a unit lists direct dependencies first, then what these depend on, and so on. How
far a unit is away is said without numbers for the distance: `Within units i k x` holds when `k`
links suffice to get from `i` to `x`, and `a` is no farther than `b` when every number of links
that suffices for `b` suffices for `a`.

The units that have been found stand in levels. All of them are at most one link farther than the
unit that is looked at next, and whatever has not been found yet is farther than that unit, so
what a round appends belongs at the end.

* `Levelled` : what is true of the units found after `k` rounds;
* `Levelled.step` : a round keeps it;
* `pairwise_dependencyClosure` : the closure is in non-decreasing distance.
-/
import Mathlib.Data.List.Pairwise
import BindingAudit.Proofs.DependencyClosure

namespace BindingAudit

namespace DependencyOrder

variable (units : List CompilationUnit)

/-! ## Distance -/

/-- At most `k` links lead from the unit at place `i` to the one at a place. -/
inductive Within (i : Nat) : Nat → Nat → Prop where
  | start (k : Nat) : Within i k i
  | step {k x y : Nat} (hx : Within i k x) (hxy : DependsOn units x y) : Within i (k + 1) y

/-- From `i` it is no farther to `a` than to `b`. -/
def NoFarther (i a b : Nat) : Prop := ∀ k, Within units i k b → Within units i k a

variable {units}

/-- One more link does no harm. -/
theorem Within.succ {i k x : Nat} (h : Within units i k x) : Within units i (k + 1) x := by
  induction h with
  | start k => exact .start _
  | step _ hxy ih => exact .step ih hxy

/-- Everything that a unit leads to is some number of links away. -/
theorem exists_within_iff {i x : Nat} :
    (∃ k, Within units i k x) ↔ Relation.ReflTransGen (DependsOn units) i x := by
  constructor
  · rintro ⟨k, h⟩
    induction h with
    | start k => exact .refl
    | step _ hxy ih => exact ih.tail hxy
  · intro h
    induction h with
    | refl => exact ⟨0, .start 0⟩
    | tail _ hxy ih =>
      obtain ⟨k, hk⟩ := ih
      exact ⟨k + 1, .step hk hxy⟩

/-! ## One round -/

/-- What a round appends: dependencies of the unit that it looks at, all of them new. -/
theorem exists_expand_eq_append (hdistinct : ModulesDistinct units) {found : List Nat}
    (hnodup : found.Nodup) {k x : Nat} (hk : found[k]? = some x) :
    ∃ new, expand units found k = found ++ new ∧ ∀ y ∈ new, DependsOn units x y ∧ y ∉ found := by
  have hkept : found <+: expand units found k := prefix_expand found k
  obtain ⟨new, hnew⟩ := hkept
  refine ⟨new, hnew.symm, fun y hy => ?_⟩
  have hfresh : y ∉ found := by
    have hnodup' : (expand units found k).Nodup := nodup_expand hnodup k
    rw [← hnew] at hnodup'
    exact fun hmem => List.disjoint_of_nodup_append hnodup' hmem hy
  have hmem : y ∈ expand units found k := by
    rw [← hnew]
    exact List.mem_append_right _ hy
  exact ⟨((mem_expand_iff hdistinct hk).1 hmem).resolve_left hfresh, hfresh⟩

/-- What is true of the distances of the units found from `i` after `k` rounds. -/
structure Levelled (units : List CompilationUnit) (i k : Nat) (found : List Nat) : Prop where
  sorted : found.Pairwise (NoFarther units i)
  close : ∀ x, found[k]? = some x → ∀ a ∈ found, ∀ m, Within units i m x → Within units i (m + 1) a

section Step

variable {i k x : Nat} {found : List Nat}

/-- A unit that no round has looked at is no nearer than the one that is looked at next. -/
theorem Levelled.noFarther_next (hlevelled : Levelled units i k found)
    (hexplored : Explored units i k found) (hk : found[k]? = some x) {m z : Nat}
    (hz : Within units i m z) (hlater : ∀ l, l < k → found[l]? ≠ some z) :
    Within units i m x := by
  have hlt : k < found.length := (List.getElem?_eq_some_iff.1 hk).1
  induction hz with
  | start m =>
    -- only before the first round has the start not been looked at, and then it is next
    obtain ⟨rest, rfl⟩ := hexplored.start
    rcases Nat.eq_zero_or_pos k with rfl | hpos
    · rw [List.cons_append, List.getElem?_cons_zero, Option.some.injEq] at hk
      exact hk ▸ .start m
    · exact absurd rfl (hlater 0 hpos)
  | @step m z z' hz hzz' ih =>
    by_cases hearlier : ∃ l, l < k ∧ found[l]? = some z
    · -- the round for `z` has found `z'`, which stands at place `k` or behind
      obtain ⟨l, hl, hfound⟩ := hearlier
      have hmem := hexplored.expanded l z hl hfound z' hzz'
      obtain ⟨l', hl', rfl⟩ := List.mem_iff_getElem.1 hmem
      rcases Nat.lt_trichotomy l' k with hlk | rfl | hkl
      · exact absurd (List.getElem?_eq_getElem hl') (hlater l' hlk)
      · rw [List.getElem?_eq_getElem hl', Option.some.injEq] at hk
        exact hk ▸ .step hz hzz'
      · have hbefore := List.pairwise_iff_getElem.1 hlevelled.sorted k l' hlt hl' hkl
        rw [List.getElem?_eq_getElem hlt, Option.some.injEq] at hk
        exact hk ▸ hbefore _ (.step hz hzz')
    · exact (ih fun l hl hfound => hearlier ⟨l, hl, hfound⟩).succ

/-- A unit that has not been found is farther than the one that is looked at next. -/
theorem Levelled.within_of_new (hlevelled : Levelled units i k found)
    (hexplored : Explored units i k found) (hk : found[k]? = some x) {m y : Nat}
    (hy : Within units i m y) (hnew : y ∉ found) : ∃ l, m = l + 1 ∧ Within units i l x := by
  cases hy with
  | start => exact absurd (hexplored.start.subset List.mem_cons_self) hnew
  | @step l z _ hz hzy =>
    refine ⟨l, rfl, hlevelled.noFarther_next hexplored hk hz fun l' hl' hfound => ?_⟩
    exact hnew (hexplored.expanded l' z hl' hfound y hzy)

/-- **A round keeps the levels.** -/
theorem Levelled.step (hdistinct : ModulesDistinct units) (hlevelled : Levelled units i k found)
    (hexplored : Explored units i k found) :
    Levelled units i (k + 1) (expand units found k) := by
  rcases Nat.lt_or_ge k found.length with hlt | hge
  · have hk : found[k]? = some found[k] := List.getElem?_eq_getElem hlt
    obtain ⟨new, happend, hnew⟩ := exists_expand_eq_append hdistinct hexplored.nodup hk
    rw [happend]
    have hsorted : (found ++ new).Pairwise (NoFarther units i) := by
      refine List.pairwise_append.2 ⟨hlevelled.sorted, ?_, ?_⟩
      · refine List.pairwise_of_forall_mem_list fun a ha b hb m hm => ?_
        obtain ⟨l, rfl, hl⟩ := hlevelled.within_of_new hexplored hk hm (hnew b hb).2
        exact .step hl (hnew a ha).1
      · intro a ha b hb m hm
        obtain ⟨l, rfl, hl⟩ := hlevelled.within_of_new hexplored hk hm (hnew b hb).2
        exact hlevelled.close _ hk a ha l hl
    refine ⟨hsorted, fun x' hx' a ha m hm => ?_⟩
    -- the next unit is no nearer than the one just looked at, and all found are close to that one
    obtain ⟨hlt', hget⟩ := List.getElem?_eq_some_iff.1 hx'
    have hnext : Within units i m found[k] := by
      have hbefore := List.pairwise_iff_getElem.1 hsorted k (k + 1) (by omega) hlt' (by omega)
      rw [List.getElem_append_left hlt, hget] at hbefore
      exact hbefore m hm
    rcases List.mem_append.1 ha with ha | ha
    · exact hlevelled.close _ hk a ha m hnext
    · exact .step hnext (hnew a ha).1
  · rw [expand_of_length_le hge]
    refine ⟨hlevelled.sorted, fun x' hx' => ?_⟩
    have hlt' := (List.getElem?_eq_some_iff.1 hx').1
    omega

end Step

/-! ## All rounds -/

/-- The levels after any number of rounds. -/
theorem levelled_rounds (hdistinct : ModulesDistinct units) (i k : Nat) :
    Levelled units i k (rounds units i k) := by
  induction k with
  | zero =>
    refine ⟨List.pairwise_singleton _ _, fun _ _ a ha m _ => ?_⟩
    obtain rfl := List.mem_singleton.1 ha
    exact .start _
  | succ k ih =>
    rw [rounds_succ]
    exact ih.step hdistinct (explored_rounds hdistinct i k)

/-- **The closure is nearest first.** -/
theorem pairwise_dependencyClosure (hdistinct : ModulesDistinct units) (i : Nat) :
    (dependencyClosure units i).Pairwise (NoFarther units i) := by
  rw [dependencyClosure_eq_tail_rounds]
  exact (levelled_rounds hdistinct i units.length).sorted.tail

end DependencyOrder

end BindingAudit
