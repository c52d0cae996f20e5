/-
# How chains of underlying types end

From a named type the chain of underlying types goes on to the type that it gives, from any other
type it does not go on. So a chain comes to a type that is not named, or to a named type that gives
no underlying type, or it leaves the table, or it goes round in a circle. The search for an
underlying type knows nothing of circles, it only counts its steps. Still, it runs out of them in a
circle only: a chain with more links than the table has entries has met some entry twice.

* `TypeTable.LinksTo`, `TypeTable.IsUnnamed` : the links of a chain, and where the search may stop;
* `TypeTable.Loops`, `TypeTable.EndsOpen`, `TypeTable.LeavesTable` : chains without such an end;
* `TypeTable.loops_iff_exists_long_chain` : only chains that go round in a circle are long;
* `TypeTable.shape_eq_unknown_iff` : the types without a known shape;
* `TypeTable.underlying_exact` : the underlying type is the end of the chain.
-/
import Mathlib.Logic.Relation
import BindingAudit.Program.TypeTable.Shape
import BindingAudit.Proofs.UnderlyingTrail

namespace BindingAudit

open Relation

universe u

/-! ## Ways along single links -/

section SingleLinks

variable {α : Type u} {r : α → α → Prop} {a b x : α}

/-- From `a` one can follow links to where there are no more, or as many as one likes. -/
theorem exists_end_or_chain (r : α → α → Prop) (a : α) (n : Nat) :
    (∃ x, ReflTransGen r a x ∧ ∀ b, ¬ r x b) ∨
      ∃ chain, (a :: chain).IsChain r ∧ chain.length = n := by
  induction n generalizing a with
  | zero => exact .inr ⟨[], List.isChain_singleton a, rfl⟩
  | succ n ih =>
    by_cases hlink : ∃ b, r a b
    · obtain ⟨b, hb⟩ := hlink
      obtain ⟨x, hway, hend⟩ | ⟨chain, hchain, hlength⟩ := ih b
      · exact .inl ⟨x, .head hb hway, hend⟩
      · exact .inr ⟨b :: chain, .cons_cons hb hchain, by rw [List.length_cons, hlength]⟩
    · exact .inl ⟨a, .refl, not_exists.1 hlink⟩

/-- All but the last element of a chain have a link. -/
theorem exists_of_mem_dropLast {l : List α} (hchain : l.IsChain r) (hx : x ∈ l.dropLast) :
    ∃ b, r x b := by
  obtain ⟨i, hi, rfl⟩ := List.getElem_of_mem hx
  rw [List.length_dropLast] at hi
  rw [List.getElem_dropLast]
  exact ⟨_, List.isChain_iff_getElem.1 hchain i (by omega)⟩

/-- A chain without circles does not meet anything twice. -/
theorem nodup_of_isChain {l : List α} (hchain : (a :: l).IsChain r)
    (hcircle : ∀ x, ReflTransGen r a x → ¬ TransGen r x x) : (a :: l).Nodup := by
  have hway : ∀ x ∈ a :: l, ReflTransGen r a x :=
    hchain.induction (ReflTransGen r a) _ (fun _ _ hstep hway => hway.tail hstep) fun _ => .refl
  have hpairs : (a :: l).Pairwise (TransGen r) :=
    List.isChain_iff_pairwise.1 (hchain.imp fun _ _ => .single)
  refine hpairs.imp_of_mem fun {x y} hx _ hxy heq => hcircle x (hway x hx) ?_
  rwa [← heq] at hxy

variable (hunique : Relator.RightUnique r)
include hunique

/-- No way leads out of a circle. -/
theorem transGen_self_of_reflTransGen (hcircle : TransGen r a a) (hway : ReflTransGen r a b) :
    TransGen r b b := by
  induction hway with
  | refl => exact hcircle
  | tail _ hlink ih =>
    obtain ⟨c, hc, hback⟩ := TransGen.head'_iff.1 ih
    rw [hunique hc hlink] at hback
    exact .tail' hback hlink

/-- Whatever lies on the way to an end leads on to that end. -/
theorem reflTransGen_of_end (hx : ReflTransGen r a x) (hb : ReflTransGen r a b)
    (hend : ∀ c, ¬ r b c) : ReflTransGen r x b := by
  obtain hway | hway := ReflTransGen.total_of_right_unique hunique hx hb
  · exact hway
  · obtain rfl | ⟨c, hc, _⟩ := hway.cases_head
    · exact .refl
    · exact absurd hc (hend c)

/-- There is only one end. -/
theorem eq_of_ends (hx : ReflTransGen r a x) (hb : ReflTransGen r a b) (hxend : ∀ c, ¬ r x c)
    (hbend : ∀ c, ¬ r b c) : x = b := by
  obtain heq | ⟨c, hc, _⟩ := (reflTransGen_of_end hunique hx hb hbend).cases_head
  · exact heq
  · exact absurd hc (hxend c)

/-- What leads to an end does not lead to a circle. -/
theorem not_circle_of_end (hb : ReflTransGen r a b) (hend : ∀ c, ¬ r b c)
    (hx : ReflTransGen r a x) : ¬ TransGen r x x := by
  intro hcircle
  have hway : ReflTransGen r x b := reflTransGen_of_end hunique hx hb hend
  obtain ⟨c, hc, _⟩ := TransGen.head'_iff.1 (transGen_self_of_reflTransGen hunique hcircle hway)
  exact hend c hc

end SingleLinks

namespace TypeTable

variable {t : TypeTable} {a b u x : TypeId}

/-! ## Links and ends -/

/-- The type `a` is a named one, and `b` is the underlying type that it gives. -/
def LinksTo (t : TypeTable) (a b : TypeId) : Prop :=
  ∃ n, t.get? a = some (.named n) ∧ n.underlying = some b

/-- A type of the table that is not a named one. -/
def IsUnnamed (t : TypeTable) (a : TypeId) : Prop :=
  ∃ kind, t.get? a = some kind ∧ ∀ n, kind ≠ .named n

/-- A named type of the table that gives no underlying type. -/
def IsOpen (t : TypeTable) (a : TypeId) : Prop :=
  ∃ n, t.get? a = some (.named n) ∧ n.underlying = none

/-- The chain from `a` comes to a type that it then comes back to. -/
def Loops (t : TypeTable) (a : TypeId) : Prop :=
  ∃ x, ReflTransGen t.LinksTo a x ∧ TransGen t.LinksTo x x

/-- The chain from `a` meets a named type without an underlying type. -/
def EndsOpen (t : TypeTable) (a : TypeId) : Prop :=
  ∃ x, ReflTransGen t.LinksTo a x ∧ t.IsOpen x

/-- The chain from `a` comes to a type that is not in the table. -/
def LeavesTable (t : TypeTable) (a : TypeId) : Prop :=
  ∃ x, ReflTransGen t.LinksTo a x ∧ t.get? x = none

theorem linksTo_rightUnique (t : TypeTable) : Relator.RightUnique t.LinksTo := by
  rintro a b c ⟨n, hn, hb⟩ ⟨m, hm, hc⟩
  rw [hn, Option.some.injEq, TypeKind.named.injEq] at hm
  rw [← hm, hb, Option.some.injEq] at hc
  exact hc

theorem LinksTo.isSome_get? (h : t.LinksTo a b) : (t.get? a).isSome = true := by
  obtain ⟨n, hn, _⟩ := h
  rw [hn]
  rfl

theorem IsUnnamed.get?_ne_named (h : t.IsUnnamed a) (n : NamedType) :
    t.get? a ≠ some (.named n) := by
  obtain ⟨kind, hkind, hunnamed⟩ := h
  rw [hkind]
  exact fun heq => hunnamed n (Option.some.inj heq)

/-- There are three reasons for a chain not to go on. -/
theorem forall_not_linksTo_iff :
    (∀ b, ¬ t.LinksTo a b) ↔ t.IsUnnamed a ∨ t.IsOpen a ∨ t.get? a = none := by
  constructor
  · intro hend
    cases hkind : t.get? a with
    | none => exact .inr (.inr rfl)
    | some kind =>
      by_cases hnamed : ∃ n, kind = .named n
      · obtain ⟨n, rfl⟩ := hnamed
        have hopen : n.underlying = none :=
          Option.eq_none_iff_forall_ne_some.2 fun b hb => hend b ⟨n, hkind, hb⟩
        exact .inr (.inl ⟨n, hkind, hopen⟩)
      · exact .inl ⟨kind, hkind, not_exists.1 hnamed⟩
  · rintro (hunnamed | ⟨n, hn, hopen⟩ | hnone) b ⟨m, hm, hb⟩
    · exact hunnamed.get?_ne_named m hm
    · rw [hn, Option.some.injEq, TypeKind.named.injEq] at hm
      rw [← hm, hopen] at hb
      cases hb
    · rw [hnone] at hm
      cases hm

theorem IsUnnamed.not_linksTo (h : t.IsUnnamed a) : ∀ b, ¬ t.LinksTo a b :=
  forall_not_linksTo_iff.2 (.inl h)

/-! ## Circles and the length of chains -/

/-- A chain that goes round in a circle is as long as one likes. -/
theorem Loops.exists_chain (h : t.Loops a) (n : Nat) :
    ∃ chain, (a :: chain).IsChain t.LinksTo ∧ chain.length = n := by
  refine (exists_end_or_chain t.LinksTo a n).resolve_left ?_
  rintro ⟨b, hway, hend⟩
  obtain ⟨x, hx, hcircle⟩ := h
  exact not_circle_of_end t.linksTo_rightUnique hway hend hx hcircle

/-- A chain that does not go round in a circle has at most as many links as the table has
entries, because it starts from a different entry with each of them. -/
theorem length_le_of_not_loops (h : ¬ t.Loops a) {chain : List TypeId}
    (hchain : (a :: chain).IsChain t.LinksTo) : chain.length ≤ t.size := by
  have hnodup : (a :: chain).Nodup :=
    nodup_of_isChain hchain fun x hx hcircle => h ⟨x, hx, hcircle⟩
  have hstarts : (a :: chain).dropLast.length ≤ t.size := by
    refine length_le_size (hnodup.sublist (List.dropLast_sublist _)) fun x hx => ?_
    obtain ⟨b, hb⟩ := exists_of_mem_dropLast hchain hx
    exact hb.isSome_get?
  simpa using hstarts

/-- **Only chains that go round in a circle are long.** -/
theorem loops_iff_exists_long_chain :
    t.Loops a ↔ ∃ chain, (a :: chain).IsChain t.LinksTo ∧ t.size < chain.length := by
  constructor
  · intro h
    obtain ⟨chain, hchain, hlength⟩ := h.exists_chain (t.size + 1)
    exact ⟨chain, hchain, by omega⟩
  · rintro ⟨chain, hchain, hlong⟩
    by_contra hloops
    exact absurd (length_le_of_not_loops hloops hchain) (Nat.not_le.2 hlong)

/-- A chain that does not go round in a circle has an end. -/
theorem exists_end_or_loops (t : TypeTable) (a : TypeId) :
    (∃ x, ReflTransGen t.LinksTo a x ∧ ∀ b, ¬ t.LinksTo x b) ∨ t.Loops a := by
  obtain hend | ⟨chain, hchain, hlength⟩ := exists_end_or_chain t.LinksTo a (t.size + 1)
  · exact .inl hend
  · exact .inr (loops_iff_exists_long_chain.2 ⟨chain, hchain, by omega⟩)

/-! ## The search along a chain -/

/-- A type that is not named is its own underlying type. -/
theorem IsUnnamed.underlying_eq (h : t.IsUnnamed a) : t.underlying a = some a := by
  obtain ⟨kind, hkind, hunnamed⟩ := h
  rw [underlying, underlyingWithin, hkind]
  cases kind with
  | named n => exact absurd rfl (hunnamed n)
  | _ => rfl

/-- Along a link the underlying type stays the same. The search from `a` needs one of its steps to
get to `b`, and has enough of them left. -/
theorem LinksTo.underlying_eq (h : t.LinksTo a b) : t.underlying a = t.underlying b := by
  obtain ⟨n, hn, hb⟩ := h
  calc t.underlying a = n.underlying.bind (t.underlyingWithin t.size) := by
        rw [underlying, underlyingWithin, hn]
    _ = t.underlyingWithin t.size b := by rw [hb, Option.bind_some]
    _ = t.underlying b := underlyingWithin_eq_underlying t b (Nat.le_refl t.size)

theorem underlying_eq_of_reflTransGen (h : ReflTransGen t.LinksTo a b) :
    t.underlying a = t.underlying b := by
  induction h with
  | refl => rfl
  | tail _ hlink ih => rw [ih, hlink.underlying_eq]

/-- What the search finds is on the chain, and is not named. -/
theorem end_of_underlyingWithin {steps : Nat} (h : t.underlyingWithin steps a = some u) :
    ReflTransGen t.LinksTo a u ∧ t.IsUnnamed u := by
  induction steps generalizing a with
  | zero => cases h
  | succ steps ih =>
    rw [underlyingWithin] at h
    split at h
    next => cases h
    next n hn =>
      obtain ⟨b, hb, hfound⟩ := Option.bind_eq_some_iff.1 h
      obtain ⟨hway, hunnamed⟩ := ih hfound
      exact ⟨.head ⟨n, hn, hb⟩ hway, hunnamed⟩
    next kind hunnamed hkind =>
      cases h
      exact ⟨.refl, kind, hkind, hunnamed⟩

/-- **The search finds the end of the chain**, if that is not a named type. -/
theorem underlying_eq_some_iff :
    t.underlying a = some u ↔ ReflTransGen t.LinksTo a u ∧ t.IsUnnamed u := by
  constructor
  · exact end_of_underlyingWithin
  · rintro ⟨hway, hunnamed⟩
    rw [underlying_eq_of_reflTransGen hway, hunnamed.underlying_eq]

/-- **The search finds nothing** if the chain goes round in a circle or has another end. -/
theorem underlying_eq_none_iff :
    t.underlying a = none ↔ t.Loops a ∨ t.EndsOpen a ∨ t.LeavesTable a := by
  constructor
  · intro hnone
    obtain ⟨x, hway, hend⟩ | hloops := t.exists_end_or_loops a
    · obtain hunnamed | hopen | habsent := forall_not_linksTo_iff.1 hend
      · rw [underlying_eq_some_iff.2 ⟨hway, hunnamed⟩] at hnone
        cases hnone
      · exact .inr (.inl ⟨x, hway, hopen⟩)
      · exact .inr (.inr ⟨x, hway, habsent⟩)
    · exact .inl hloops
  · intro hother
    refine Option.eq_none_iff_forall_ne_some.2 fun u hu => ?_
    obtain ⟨hway, hunnamed⟩ := underlying_eq_some_iff.1 hu
    -- another end of the chain would be `u`, which is a type of the table and not named
    have hsame : ∀ x, ReflTransGen t.LinksTo a x → (∀ b, ¬ t.LinksTo x b) → t.IsUnnamed x := by
      intro x hx hend
      rwa [eq_of_ends t.linksTo_rightUnique hx hway hend hunnamed.not_linksTo]
    obtain ⟨x, hx, hcircle⟩ | ⟨x, hx, hopen⟩ | ⟨x, hx, habsent⟩ := hother
    · exact not_circle_of_end t.linksTo_rightUnique hway hunnamed.not_linksTo hx hcircle
    · have hnamed := hsame x hx (forall_not_linksTo_iff.2 (.inr (.inl hopen)))
      obtain ⟨n, hn, _⟩ := hopen
      exact hnamed.get?_ne_named n hn
    · obtain ⟨kind, hkind, _⟩ := hsame x hx (forall_not_linksTo_iff.2 (.inr (.inr habsent)))
      rw [habsent] at hkind
      cases hkind

/-! ## What is read off an underlying type -/

/-- An underlying type is in the table and is not named. -/
theorem underlyingEntry_ne_named (t : TypeTable) (a : TypeId) (n : NamedType) :
    t.underlyingEntry a ≠ some (.named n) := by
  rw [underlyingEntry]
  intro h
  obtain ⟨u, hu, hn⟩ := Option.bind_eq_some_iff.1 h
  exact (underlying_eq_some_iff.1 hu).2.get?_ne_named n hn

theorem underlyingEntry_eq_none_iff : t.underlyingEntry a = none ↔ t.underlying a = none := by
  rw [underlyingEntry, Option.bind_eq_none_iff]
  constructor
  · intro h
    refine Option.eq_none_iff_forall_ne_some.2 fun u hu => ?_
    obtain ⟨kind, hkind, _⟩ := (underlying_eq_some_iff.1 hu).2
    rw [h u hu] at hkind
    cases hkind
  · intro h u hu
    rw [h] at hu
    cases hu

/-- **The types without a known shape** are those without an underlying type, unless they encode
themselves. -/
theorem shape_eq_unknown_iff (t : TypeTable) (encodesItself : String → Bool) (a : TypeId) :
    t.shape encodesItself a = .unknown ↔
      (∀ n ∈ t.named? a, ∀ m ∈ n.methods, encodesItself m.name = false) ∧
        t.underlying a = none := by
  have hcodec : ((t.named? a).any fun n => n.methods.any fun m => encodesItself m.name) = true ↔
      ¬ ∀ n ∈ t.named? a, ∀ m ∈ n.methods, encodesItself m.name = false := by
    cases t.named? a <;> simp
  rw [shape, ← underlyingEntry_eq_none_iff]
  split
  next h => exact iff_of_false (by simp) fun hnone => hcodec.1 h hnone.1
  next h =>
    rw [hcodec, not_not] at h
    cases hentry : t.underlyingEntry a with
    | none => simpa using h
    | some kind =>
      cases kind with
      | named n => exact absurd hentry (t.underlyingEntry_ne_named a n)
      | _ => simp [TypeKind.shape]

/-- **The underlying type is the end of the chain.** It is the type that is not named and that the
links from named types to their underlying types lead to. There is none exactly if the chain goes
round in a circle, meets a named type without an underlying type or leaves the table. The number of
steps is never to blame: with more of them the search finds the same, and only in a circle there are
more links to follow than the table has entries. What is found is a type of the table, not a named
one and its own underlying type, so a shape is unknown for no other reason than that there is no
underlying type. -/
theorem underlying_exact (t : TypeTable) (a : TypeId) :
    (∀ u, t.underlying a = some u ↔ ReflTransGen t.LinksTo a u ∧ t.IsUnnamed u) ∧
      (t.underlying a = none ↔ t.Loops a ∨ t.EndsOpen a ∨ t.LeavesTable a) ∧
      (∀ steps, t.size ≤ steps → t.underlyingWithin steps a = t.underlying a) ∧
      (t.Loops a ↔ ∃ chain, (a :: chain).IsChain t.LinksTo ∧ t.size < chain.length) ∧
      (∀ u, t.underlying a = some u → t.underlying u = some u) ∧
      (∀ n, t.underlyingEntry a ≠ some (.named n)) ∧
      ∀ encodesItself, t.shape encodesItself a = .unknown ↔
        (∀ n ∈ t.named? a, ∀ m ∈ n.methods, encodesItself m.name = false) ∧
          t.underlying a = none := by
  refine ⟨fun _ => underlying_eq_some_iff, underlying_eq_none_iff, ?_,
    loops_iff_exists_long_chain, ?_, t.underlyingEntry_ne_named a,
    fun encodesItself => t.shape_eq_unknown_iff encodesItself a⟩
  · intro steps hsteps
    exact underlyingWithin_eq_underlying t a hsteps
  · intro u hu
    exact (underlying_eq_some_iff.1 hu).2.underlying_eq

/-- A type that is not named, two names on top of it, two names for each other with a third one in
front of them, a name for nothing and a name for a type that is not there. -/
def mixedNames : TypeTable :=
  ⟨[.basic .int, .named ⟨"app", "A", some ⟨0⟩, []⟩, .named ⟨"app", "B", some ⟨1⟩, []⟩,
    .named ⟨"app", "C", some ⟨4⟩, []⟩, .named ⟨"app", "D", some ⟨3⟩, []⟩,
    .named ⟨"app", "E", some ⟨3⟩, []⟩, .named ⟨"app", "F", none, []⟩,
    .named ⟨"app", "G", some ⟨99⟩, []⟩]⟩

/-- All four ends of a chain, each found from the links in front of it. -/
theorem mixedNames_underlying_exact :
    mixedNames.underlying ⟨2⟩ = some ⟨0⟩ ∧ mixedNames.underlying ⟨0⟩ = some ⟨0⟩ ∧
      mixedNames.underlyingWithin 1000 ⟨2⟩ = mixedNames.underlying ⟨2⟩ ∧
      mixedNames.underlying ⟨5⟩ = none ∧
      (∃ chain, (⟨5⟩ :: chain).IsChain mixedNames.LinksTo ∧ 8 < chain.length) ∧
      mixedNames.underlying ⟨6⟩ = none ∧ mixedNames.underlying ⟨7⟩ = none ∧
      mixedNames.shape (fun _ => false) ⟨5⟩ = .unknown := by
  have hbottom : mixedNames.underlying ⟨2⟩ = some ⟨0⟩ := by
    refine ((underlying_exact mixedNames ⟨2⟩).1 ⟨0⟩).2 ⟨?_, .basic .int, rfl, by simp⟩
    exact .head ⟨_, rfl, rfl⟩ (.single ⟨_, rfl, rfl⟩)
  have hloops : mixedNames.Loops ⟨5⟩ := by
    refine ⟨⟨3⟩, .single ⟨_, rfl, rfl⟩, ?_⟩
    exact .head (b := ⟨4⟩) ⟨_, rfl, rfl⟩ (.single ⟨_, rfl, rfl⟩)
  obtain ⟨-, hnone, -, hlong, -, -, hshape⟩ := underlying_exact mixedNames ⟨5⟩
  obtain ⟨-, -, hsteps, -, hself, -⟩ := underlying_exact mixedNames ⟨2⟩
  refine ⟨hbottom, hself ⟨0⟩ hbottom, hsteps 1000 (by decide), hnone.2 (.inl hloops),
    hlong.1 hloops, ?_, ?_, (hshape _).2 ⟨by simp, hnone.2 (.inl hloops)⟩⟩
  · exact (underlying_exact mixedNames ⟨6⟩).2.1.2 (.inr (.inl ⟨⟨6⟩, .refl, _, rfl, rfl⟩))
  · refine (underlying_exact mixedNames ⟨7⟩).2.1.2 (.inr (.inr ⟨⟨99⟩, ?_, rfl⟩))
    exact .single ⟨_, rfl, rfl⟩

end TypeTable

end BindingAudit
