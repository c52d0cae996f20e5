/-
# Structural identity

Structural identity says, without a bound, what it is for two unnamed types to be built alike. The
comparison of types decides it. It never takes types for identical that are not, also where a
circular table makes it stop. It recognizes all types that are, as long as no chain of unnamed
components below one of them is longer than the comparison looks deep.

* `TypeTable.StructurallyIdentical` : the relation, said by rules;
* `TypeTable.ChainsWithin` : how deep unnamed components lie below a type;
* `TypeTable.structurallyIdentical_of_identicalWithin` : the comparison is sound at any depth;
* `TypeTable.identicalWithin_of_structurallyIdentical` : it misses nothing that lies in its reach;
* `TypeTable.identical_decides_structure` : both together, and what follows for named types.
-/
import Mathlib.Data.List.Chain
import Mathlib.Tactic.SplitIfs
import BindingAudit.Proofs.TypeIdentity

namespace BindingAudit

namespace TypeTable

variable (t : TypeTable)

/-! ## The relation -/

/-- **Structural identity**, the least relation that holds between every type and itself, and
between unnamed types of one outline whose components it relates in pairs. -/
inductive StructurallyIdentical : TypeId → TypeId → Prop where
  | refl (a : TypeId) : StructurallyIdentical a a
  | parts {a b : TypeId} {x y : TypeKind} (left : t.get? a = some x) (right : t.get? b = some y)
      (outline : x.SameOutline y)
      (components : ∀ c d, (c, d) ∈ x.components.zip y.components → StructurallyIdentical c d) :
      StructurallyIdentical a b

variable {t} {a b c : TypeId} {n : Nat}

/-- A named type, and one that is missing from the table, is structurally identical to itself
only. -/
theorem StructurallyIdentical.eq_of_not_unnamed (h : t.StructurallyIdentical a b)
    (ha : ∀ x, t.get? a = some x → x.outline? = none) : a = b := by
  cases h with
  | refl => rfl
  | parts left _ outline _ =>
    obtain ⟨o, ho, -⟩ := outline
    rw [ha _ left] at ho
    cases ho

/-! ## Chains of unnamed components -/

variable (t)

/-- A link from a type to one of its components that is an unnamed type itself. Components that
are named or missing are no links: what is below them is never looked at. -/
def UnnamedComponent (a c : TypeId) : Prop :=
  ∃ x y, t.get? a = some x ∧ c ∈ x.components ∧ t.get? c = some y ∧ y.outline?.isSome = true

/-- Every chain of links to unnamed components that starts at a type has at most `n` links. -/
def ChainsWithin (n : Nat) (a : TypeId) : Prop :=
  ∀ chain : List TypeId, (a :: chain).IsChain t.UnnamedComponent → chain.length ≤ n

variable {t}

/-- Chains get shorter by one with each link. -/
theorem ChainsWithin.component (h : t.ChainsWithin n a) (hac : t.UnnamedComponent a c) :
    ∃ m, n = m + 1 ∧ t.ChainsWithin m c := by
  have hone : [c].length ≤ n := h [c] (List.isChain_pair.2 hac)
  obtain ⟨m, rfl⟩ := Nat.exists_eq_add_of_le' hone
  refine ⟨m, rfl, ?_⟩
  intro chain hchain
  have hlonger := h (c :: chain) (List.isChain_cons_cons.2 ⟨hac, hchain⟩)
  exact Nat.le_of_succ_le_succ hlonger

/-- Where some measure falls with each link, it bounds the chains. -/
theorem chainsWithin_of_measure (f : TypeId → Nat)
    (h : ∀ a c, t.UnnamedComponent a c → f c < f a) (a : TypeId) : t.ChainsWithin (f a) a := by
  intro chain hchain
  induction chain generalizing a with
  | nil => exact Nat.zero_le _
  | cons c chain ih =>
    rw [List.isChain_cons_cons] at hchain
    have hfalls := h a c hchain.1
    have hrest := ih c hchain.2
    rw [List.length_cons]
    omega

/-! ## Soundness and completeness of the comparison -/

/-- **Soundness at any depth.** Where the comparison stops it accepts the same entry only. -/
theorem structurallyIdentical_of_identicalWithin (h : t.identicalWithin n a b = true) :
    t.StructurallyIdentical a b := by
  induction n generalizing a b with
  | zero =>
    rw [identicalWithin, beq_iff_eq] at h
    exact h ▸ .refl a
  | succ n ih =>
    obtain rfl | ⟨x, y, hx, hy, hparts⟩ := t.identicalWithin_succ_iff.1 h
    · exact .refl a
    · refine .parts hx hy hparts.outline ?_
      intro c d hcd
      exact ih (List.forall₂_zip hparts.components hcd)

/-- **Completeness within reach.** A chain of `n` links takes `n + 1` levels of comparison. The
components of the last type on a chain are named or missing, so that they can be identical only by
being the same entry, and that is seen on the level where the comparison stops. -/
theorem identicalWithin_of_structurallyIdentical (h : t.StructurallyIdentical a b)
    (hchains : t.ChainsWithin n a) : t.identicalWithin (n + 1) a b = true := by
  -- induction on the rules, with the number of levels falling along each link
  induction h generalizing n with
  | refl a => exact t.identicalWithin_refl _ a
  | @parts a b x y hx hy houtline hcomponents ih =>
    refine t.identicalWithin_succ_iff.2 (.inr ⟨x, y, hx, hy, houtline, ?_⟩)
    refine List.forall₂_iff_zip.2 ⟨houtline.length_components, ?_⟩
    intro c d hcd
    have hc : c ∈ x.components := (List.of_mem_zip hcd).1
    by_cases hunnamed : ∃ z, t.get? c = some z ∧ z.outline?.isSome = true
    · obtain ⟨z, hz, hsome⟩ := hunnamed
      obtain ⟨m, rfl, hm⟩ := hchains.component ⟨x, z, hx, hc, hz, hsome⟩
      exact ih c d hcd hm
    · have hsame : c = d := by
        refine (hcomponents c d hcd).eq_of_not_unnamed ?_
        intro z hz
        by_contra hne
        exact hunnamed ⟨z, hz, Option.isSome_iff_ne_none.2 hne⟩
      rw [hsame]
      exact t.identicalWithin_refl _ d

/-- **The comparison decides structural identity.** Types that it finds identical are structurally
identical, on every table. Types that are structurally identical are found identical if no chain
of unnamed components from the first one has more than 64 links. Two entries for named types are
never identical, however alike they look. -/
theorem identical_decides_structure (t : TypeTable) (a b : TypeId) :
    (t.identical a b = true → t.StructurallyIdentical a b) ∧
      (t.StructurallyIdentical a b → t.ChainsWithin 64 a → t.identical a b = true) ∧
      ∀ m n, t.get? a = some (.named m) → t.get? b = some (.named n) → a ≠ b →
        t.identical a b = false := by
  refine ⟨structurallyIdentical_of_identicalWithin,
    identicalWithin_of_structurallyIdentical, ?_⟩
  intro m n ha _ hne
  rw [← Bool.not_eq_true]
  intro hidentical
  refine hne ((structurallyIdentical_of_identicalWithin hidentical).eq_of_not_unnamed ?_)
  intro x hx
  cases ha.symm.trans hx
  rfl

/-! ## The limit is exact -/

/-- Two towers of 65 pointers each, over two entries for `int`. They are built level by level, so
that the tops of the towers with `n` pointers are the entries `2 * n` and `2 * n + 1`. -/
def twinTowers : TypeTable :=
  ⟨(List.range 132).map fun i => if i < 2 then .basic .int else .pointer (.ofIndex (i - 2))⟩

theorem get?_twinTowers_add_two {i : Nat} (h : i < 130) :
    twinTowers.get? (.ofIndex (i + 2)) = some (.pointer (.ofIndex i)) := by
  rw [get?, TypeId.index_ofIndex (by omega), twinTowers, List.getElem?_map,
    List.getElem?_range (by omega)]
  rfl

theorem structurallyIdentical_twinTowers {n : Nat} (h : n < 66) :
    twinTowers.StructurallyIdentical (.ofIndex (2 * n)) (.ofIndex (2 * n + 1)) := by
  induction n with
  | zero => exact .parts rfl rfl ⟨_, rfl, rfl⟩ (by simp [TypeKind.components])
  | succ n ih =>
    have hleft := get?_twinTowers_add_two (i := 2 * n) (by omega)
    have hright := get?_twinTowers_add_two (i := 2 * n + 1) (by omega)
    refine .parts hleft hright ⟨_, rfl, rfl⟩ ?_
    intro c d hcd
    obtain ⟨rfl, rfl⟩ : c = .ofIndex (2 * n) ∧ d = .ofIndex (2 * n + 1) := by
      simpa [TypeKind.components] using hcd
    exact ih (by omega)

/-- Each pointer stands two places behind its element. -/
theorem index_of_unnamedComponent_twinTowers {a c : TypeId}
    (h : twinTowers.UnnamedComponent a c) : c.index + 2 = a.index := by
  obtain ⟨x, y, hx, hc, -, -⟩ := h
  rw [get?, twinTowers, List.getElem?_map, Option.map_eq_some_iff] at hx
  obtain ⟨i, hi, rfl⟩ := hx
  obtain ⟨hlt, rfl⟩ := List.getElem?_eq_some_iff.1 hi
  rw [List.length_range] at hlt
  rw [List.getElem_range] at hc
  split_ifs at hc with hbase
  · cases hc
  · rw [List.mem_singleton.1 hc, TypeId.index_ofIndex (by omega)]
    omega

/-- **The limit is exact.** The towers with 64 pointers are identical. Those with 65 are not, though
they are built alike. -/
theorem twinTowers_identical :
    twinTowers.StructurallyIdentical (.ofIndex 128) (.ofIndex 129) ∧
      twinTowers.ChainsWithin 64 (.ofIndex 128) ∧
      twinTowers.identical (.ofIndex 128) (.ofIndex 129) = true ∧
      twinTowers.StructurallyIdentical (.ofIndex 130) (.ofIndex 131) ∧
      twinTowers.identical (.ofIndex 130) (.ofIndex 131) = false := by
  have hfalls : ∀ a c, twinTowers.UnnamedComponent a c → c.index / 2 < a.index / 2 := by
    intro a c hac
    have hplace := index_of_unnamedComponent_twinTowers hac
    omega
  have hchains : twinTowers.ChainsWithin 64 (.ofIndex 128) :=
    chainsWithin_of_measure (fun a => a.index / 2) hfalls (.ofIndex 128)
  have hbuilt := structurallyIdentical_twinTowers (n := 64) (by omega)
  have hidentical := (identical_decides_structure twinTowers (.ofIndex 128) (.ofIndex 129)).2.1
    hbuilt hchains
  exact ⟨hbuilt, hchains, hidentical, structurallyIdentical_twinTowers (n := 65) (by omega),
    by decide +kernel⟩

end TypeTable

end BindingAudit
