/-
# What a unit depends on

The closure of a unit is found round by round: round `k` looks at the dependencies of the `k`-th
unit found and appends those that are new. After as many rounds as there are units nothing is
left to look at, because no more units than that can be found.

* `mem_expand_iff` : what one round adds;
* `explored_rounds` : what is true of the units found after `k` rounds;
* `mem_dependencyClosure_iff` : the closure holds exactly what the unit depends on, directly or
  not, apart from the unit itself.

Dependencies may run in a circle or lead to unknown modules; the modules of the units have to be
distinct, as otherwise a module does not say which unit it means.
-/
import Mathlib.Data.List.Perm.Subperm
import BindingAudit.Proofs.DependencySearch

namespace BindingAudit

namespace DependencyOrder

open Relation

variable {units : List CompilationUnit}

/-! ## One round -/

/-- A look at one dependency appends at most one unit. -/
theorem prefix_findNew (found : List Nat) (m : String) : found <+: findNew units found m := by
  unfold findNew
  split
  · split
    · exact List.prefix_refl _
    · exact List.prefix_append _ _
  · exact List.prefix_refl _

/-- What has been found after a look at one dependency. -/
theorem mem_findNew_iff {found : List Nat} {m : String} {x : Nat} :
    x ∈ findNew units found m ↔ x ∈ found ∨ indexOf? units m = some x := by
  unfold findNew
  cases indexOf? units m with
  | none => simp
  | some j =>
    by_cases hj : j ∈ found
    · simp only [if_pos hj, Option.some.injEq]
      constructor
      · exact .inl
      · rintro (hx | rfl)
        · exact hx
        · exact hj
    · simp [hj, eq_comm]

theorem nodup_findNew {found : List Nat} (h : found.Nodup) (m : String) :
    (findNew units found m).Nodup := by
  unfold findNew
  split
  · split
    · exact h
    · rename_i j _ hj
      rw [← List.concat_eq_append]
      exact .concat hj h
  · exact h

/-- A look at several dependencies keeps what has been found. -/
theorem prefix_foldl_findNew (ms : List String) (found : List Nat) :
    found <+: ms.foldl (findNew units) found := by
  induction ms generalizing found with
  | nil => exact List.prefix_refl _
  | cons m ms ih => exact (prefix_findNew found m).trans (ih _)

/-- What has been found after a look at several dependencies. -/
theorem mem_foldl_findNew_iff {ms : List String} {found : List Nat} {x : Nat} :
    x ∈ ms.foldl (findNew units) found ↔
      x ∈ found ∨ ∃ m ∈ ms, indexOf? units m = some x := by
  induction ms generalizing found with
  | nil => simp
  | cons m ms ih =>
    rw [List.foldl_cons, ih, mem_findNew_iff]
    simp [or_assoc]

theorem nodup_foldl_findNew {found : List Nat} (h : found.Nodup) (ms : List String) :
    (ms.foldl (findNew units) found).Nodup := by
  induction ms generalizing found with
  | nil => exact h
  | cons m ms ih => exact ih (nodup_findNew h m)

/-- A round keeps what has been found. -/
theorem prefix_expand (found : List Nat) (k : Nat) : found <+: expand units found k := by
  unfold expand
  split
  · exact prefix_foldl_findNew _ _
  · exact List.prefix_refl _

theorem nodup_expand {found : List Nat} (h : found.Nodup) (k : Nat) :
    (expand units found k).Nodup := by
  unfold expand
  split
  · exact nodup_foldl_findNew h _
  · exact h

/-- **One round** adds exactly what the unit it looks at depends on. -/
theorem mem_expand_iff (hdistinct : ModulesDistinct units) {found : List Nat} {k x y : Nat}
    (hk : found[k]? = some x) :
    y ∈ expand units found k ↔ y ∈ found ∨ DependsOn units x y := by
  unfold expand
  rw [hk, Option.bind_some]
  cases hunit : units[x]? with
  | none =>
    have hnot : ¬ DependsOn units x y := by
      rintro ⟨unit, -, hsome, -⟩
      rw [hunit] at hsome
      cases hsome
    simp [hnot]
  | some unit =>
    simp only [mem_foldl_findNew_iff, dependsOn_iff hunit, indexOf?_eq_some_iff hdistinct]

/-- A round past the last unit found adds nothing. -/
theorem expand_of_length_le {found : List Nat} {k : Nat} (hk : found.length ≤ k) :
    expand units found k = found := by
  unfold expand
  rw [List.getElem?_eq_none hk]
  rfl

/-! ## All rounds -/

variable (units)

/-- The units found from `i` after `k` rounds, with `i` itself in front. -/
def rounds (i k : Nat) : List Nat := (List.range k).foldl (expand units) [i]

theorem rounds_succ (i k : Nat) : rounds units i (k + 1) = expand units (rounds units i k) k := by
  rw [rounds, List.range_succ, List.foldl_append]
  rfl

theorem dependencyClosure_eq_tail_rounds (i : Nat) :
    dependencyClosure units i = (rounds units i units.length).tail := rfl

/-- What is true of the units found from `i` after `k` rounds. -/
structure Explored (i k : Nat) (found : List Nat) : Prop where
  start : [i] <+: found
  nodup : found.Nodup
  reached : ∀ x ∈ found, ReflTransGen (DependsOn units) i x
  expanded : ∀ l x, l < k → found[l]? = some x → ∀ y, DependsOn units x y → y ∈ found

variable {units}

/-- A round keeps the invariant and extends it to the unit that it looks at. -/
theorem Explored.step (hdistinct : ModulesDistinct units) {i k : Nat} {found : List Nat}
    (h : Explored units i k found) : Explored units i (k + 1) (expand units found k) := by
  -- either there is a `k`-th unit to look at, or everything found has been looked at before
  rcases Nat.lt_or_ge k found.length with hlt | hge
  · have hk : found[k]? = some found[k] := List.getElem?_eq_getElem hlt
    have hkept : found <+: expand units found k := prefix_expand found k
    refine ⟨h.start.trans hkept, nodup_expand h.nodup k, ?_, ?_⟩
    · intro y hy
      rcases (mem_expand_iff hdistinct hk).1 hy with hy | hy
      · exact h.reached y hy
      · exact (h.reached _ (List.getElem_mem hlt)).tail hy
    · intro l x hl hx y hxy
      have hlk : l < found.length := by omega
      have hfound : found[l]? = some x := by
        rw [← hx, List.prefix_iff_getElem?.1 hkept l hlk, List.getElem?_eq_getElem hlk]
      rw [mem_expand_iff hdistinct hk]
      rcases Nat.lt_succ_iff_lt_or_eq.1 hl with hl | rfl
      · exact .inl (h.expanded l x hl hfound y hxy)
      · rw [hk, Option.some.injEq] at hfound
        exact .inr (hfound ▸ hxy)
  · rw [expand_of_length_le hge]
    refine ⟨h.start, h.nodup, h.reached, ?_⟩
    intro l x hl hx y hxy
    have hll := (List.getElem?_eq_some_iff.1 hx).1
    exact h.expanded l x (by omega) hx y hxy

/-- **The invariant of the rounds.** -/
theorem explored_rounds (hdistinct : ModulesDistinct units) (i k : Nat) :
    Explored units i k (rounds units i k) := by
  induction k with
  | zero =>
    refine ⟨List.prefix_refl _, List.nodup_singleton i, ?_, fun l _ hl => absurd hl (by omega)⟩
    intro x hx
    obtain rfl := List.mem_singleton.1 hx
    exact .refl
  | succ k ih =>
    rw [rounds_succ]
    exact ih.step hdistinct

/-! ## The closure -/

/-- Everything that can be reached from a unit is a unit. -/
theorem lt_length_of_reflTransGen {i x : Nat} (hi : i < units.length)
    (h : ReflTransGen (DependsOn units) i x) : x < units.length := by
  cases h with
  | refl => exact hi
  | tail _ hstep =>
    obtain ⟨_, other, -, hother, -⟩ := hstep
    exact (List.getElem?_eq_some_iff.1 hother).1

/-- No more units are found than there are. -/
theorem Explored.length_le {i k : Nat} {found : List Nat} (h : Explored units i k found)
    (hi : i < units.length) : found.length ≤ units.length := by
  have hsub : found ⊆ List.range units.length := fun x hx =>
    List.mem_range.2 (lt_length_of_reflTransGen hi (h.reached x hx))
  simpa using (h.nodup.subperm hsub).length_le

/-- After as many rounds as there are units everything reachable has been found. -/
theorem mem_rounds_iff (hdistinct : ModulesDistinct units) {i : Nat} (hi : i < units.length)
    {x : Nat} : x ∈ rounds units i units.length ↔ ReflTransGen (DependsOn units) i x := by
  have hexplored := explored_rounds hdistinct i units.length
  refine ⟨hexplored.reached x, fun h => ?_⟩
  induction h with
  | refl => exact hexplored.start.subset List.mem_cons_self
  | @tail y z _ hstep ih =>
    obtain ⟨l, hl, rfl⟩ := List.mem_iff_getElem.1 ih
    -- `y` was found as the `l`-th unit, and there was a round for it
    have hlt : l < units.length := by
      have := hexplored.length_le hi
      omega
    exact hexplored.expanded l _ hlt (List.getElem?_eq_getElem hl) z hstep

/-- The rounds list the unit they start from, then its closure. -/
theorem rounds_eq_cons (hdistinct : ModulesDistinct units) (i : Nat) :
    rounds units i units.length = i :: dependencyClosure units i := by
  obtain ⟨rest, hrest⟩ := (explored_rounds hdistinct i units.length).start
  rw [dependencyClosure_eq_tail_rounds, ← hrest]
  rfl

/-- The closure lists no unit twice. -/
theorem nodup_dependencyClosure (hdistinct : ModulesDistinct units) (i : Nat) :
    (dependencyClosure units i).Nodup := by
  have h := (explored_rounds hdistinct i units.length).nodup
  rw [rounds_eq_cons hdistinct] at h
  exact (List.nodup_cons.1 h).2

/-- **The closure is complete.** It holds everything that the unit depends on, directly or not, and
nothing else; the unit itself is left out. -/
theorem mem_dependencyClosure_iff (hdistinct : ModulesDistinct units) {i : Nat}
    (hi : i < units.length) {x : Nat} :
    x ∈ dependencyClosure units i ↔ x ≠ i ∧ TransGen (DependsOn units) i x := by
  have hmem := mem_rounds_iff hdistinct hi (x := x)
  have hnodup := (explored_rounds hdistinct i units.length).nodup
  rw [rounds_eq_cons hdistinct] at hmem hnodup
  have hnot := (List.nodup_cons.1 hnodup).1
  constructor
  · intro hx
    have hne : x ≠ i := fun h => hnot (h ▸ hx)
    rcases reflTransGen_iff_eq_or_transGen.1 (hmem.1 (List.mem_cons_of_mem _ hx)) with h | h
    · exact absurd h hne
    · exact ⟨hne, h⟩
  · rintro ⟨hne, h⟩
    exact (List.mem_cons.1 (hmem.2 h.to_reflTransGen)).resolve_left hne

/-- Where nothing runs in a circle, the closure is what the unit depends on. -/
theorem mem_dependencyClosure_iff_of_acyclic (hdistinct : ModulesDistinct units)
    (hacyclic : Acyclic units) {i : Nat} (hi : i < units.length) {x : Nat} :
    x ∈ dependencyClosure units i ↔ TransGen (DependsOn units) i x := by
  rw [mem_dependencyClosure_iff hdistinct hi]
  refine ⟨fun h => h.2, fun h => ⟨?_, h⟩⟩
  rintro rfl
  exact hacyclic x h

end DependencyOrder

end BindingAudit
