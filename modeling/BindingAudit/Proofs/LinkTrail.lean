/-
# Following links through a table

An entry of a table may name another entry. Such links may come from outside, so they may run in a
circle or lead out of the table. A search that follows them for a bounded number of steps looks at
the entries of the *trail* from its start: the entries that the links lead through, up to one
without a link, one that is not in the table, or one that was met before.

* `length_le_of_isSome_getElem?` : different entries of a finite table are no more than it has places;
* `Links.exists_isTrail` : in a finite table there is a trail from everywhere;
* `Links.IsTrail.follow_eq` : a search with enough steps for the trail finds the first answer on it.

The number of steps is enough as soon as it is the number of entries, because a trail meets no entry
twice.
-/
import Mathlib.Data.List.Chain
import Mathlib.Data.List.Nodup
import Mathlib.Data.List.Perm.Subperm

namespace BindingAudit

universe u v w

/-- Different entries of a table, told apart by their places, are no more than there are places. -/
theorem length_le_of_isSome_getElem? {α : Type u} {κ : Type v} {place : α → Nat}
    (hplace : Function.Injective place) {items : List κ} {l : List α} (hnodup : l.Nodup)
    (hentries : ∀ x ∈ l, (items[place x]?).isSome = true) : l.length ≤ items.length := by
  have hsubset : l.map place ⊆ List.range items.length := by
    intro i hi
    obtain ⟨x, hx, rfl⟩ := List.mem_map.1 hi
    obtain ⟨item, hitem⟩ := Option.isSome_iff_exists.1 (hentries x hx)
    exact List.mem_range.2 (List.getElem?_eq_some_iff.1 hitem).1
  have hlength := ((hnodup.map hplace).subperm hsubset).length_le
  rwa [List.length_map, List.length_range] at hlength

/-- A table of entries, and the link that an entry may have to another one. -/
structure Links (α : Type u) (κ : Type v) where
  entry : α → Option κ
  link : κ → Option α

namespace Links

variable {α : Type u} {κ : Type v} {β : Type w} (L : Links α κ)

/-- Where the link of `a` leads. -/
def next (a : α) : Option α := (L.entry a).bind L.link

/-- What the entry of `a` answers to a question. -/
def answerAt (answer : α → κ → Option β) (a : α) : Option β := (L.entry a).bind (answer a)

/-- Follows links through at most `steps` entries to the first that has an answer. -/
def follow (answer : α → κ → Option β) : Nat → α → Option β
  | 0, _ => none
  | steps + 1, a => (L.answerAt answer a).or ((L.next a).bind (follow answer steps))

/-- The trail from `a` is the list of entries that links lead through, each met once, up to the
first that has no link, that links to something without an entry, or that links back to the
trail. It is empty if `a` has no entry itself. -/
structure IsTrail (a : α) (trail : List α) : Prop where
  start : trail.head? = (L.entry a).map fun _ => a
  links : trail.IsChain fun x y => L.next x = some y
  entries : ∀ x ∈ trail, (L.entry x).isSome = true
  nodup : trail.Nodup
  ends : ∀ x ∈ trail.getLast?, ∀ y, L.next x = some y → L.entry y = none ∨ y ∈ trail

variable {L} {a : α} {trail : List α}

/-! ## Searches along a trail -/

/-- Without an entry there is nothing to find. -/
theorem follow_of_entry_eq_none (answer : α → κ → Option β) (h : L.entry a = none)
    (steps : Nat) : L.follow answer steps a = none := by
  cases steps with
  | zero => rfl
  | succ steps => simp [follow, answerAt, next, h]

/-- **The first answer is found**, if there are enough steps to get there. -/
theorem follow_of_first (answer : α → κ → Option β) {before after : List α} {x : α} {b : β}
    (hlinks : (before ++ x :: after).IsChain fun y z => L.next y = some z)
    (hstart : (before ++ x :: after).head? = some a)
    (hbefore : ∀ y ∈ before, L.answerAt answer y = none) (hx : L.answerAt answer x = some b)
    {steps : Nat} (hsteps : before.length < steps) : L.follow answer steps a = some b := by
  induction before generalizing a steps with
  | nil =>
    obtain ⟨n, rfl⟩ : ∃ n, steps = n + 1 := ⟨steps - 1, by simp at hsteps; omega⟩
    have ha : x = a := by simpa using hstart
    rw [← ha, follow, hx, Option.some_or]
  | cons y before ih =>
    obtain ⟨n, rfl⟩ : ∃ n, steps = n + 1 := ⟨steps - 1, by omega⟩
    have ha : y = a := by simpa using hstart
    have hnone : L.answerAt answer y = none := hbefore y List.mem_cons_self
    -- the next entry of the trail is where the link of this one leads
    obtain ⟨z, rest, hrest⟩ : ∃ z rest, before ++ x :: after = z :: rest :=
      List.exists_cons_of_ne_nil (by simp)
    rw [List.cons_append, hrest, List.isChain_cons_cons, ← hrest] at hlinks
    rw [← ha, follow, hnone, Option.none_or, hlinks.1, Option.bind_some]
    refine ih hlinks.2 (by rw [hrest]; rfl) ?_ ?_
    · intro w hw
      exact hbefore w (List.mem_cons_of_mem _ hw)
    · simp only [List.length_cons] at hsteps
      omega

/-- The links of a trail lead nowhere else. -/
theorem IsTrail.entry_eq_none_or_mem (h : L.IsTrail a trail) {x y : α} (hx : x ∈ trail)
    (hy : L.next x = some y) : L.entry y = none ∨ y ∈ trail := by
  obtain ⟨front, back, rfl⟩ := List.append_of_mem hx
  cases back with
  | nil => exact h.ends x (by simp) y hy
  | cons z back =>
    have hz : L.next x = some z := (List.isChain_append_cons_cons.1 h.links).2.1
    rw [hz, Option.some.injEq] at hy
    right
    simp [hy]

/-- **No answer is found** from a trail without one, however long the search goes on in a circle. -/
theorem IsTrail.follow_eq_none (h : L.IsTrail a trail) (answer : α → κ → Option β)
    (hnone : ∀ x ∈ trail, L.answerAt answer x = none) (steps : Nat) :
    ∀ x ∈ trail, L.follow answer steps x = none := by
  induction steps with
  | zero =>
    intro x _
    rfl
  | succ steps ih =>
    intro x hx
    rw [follow, hnone x hx, Option.none_or]
    cases hnext : L.next x with
    | none => rfl
    | some y =>
      rw [Option.bind_some]
      rcases h.entry_eq_none_or_mem hx hnext with hy | hy
      · exact follow_of_entry_eq_none answer hy steps
      · exact ih y hy

/-- **A search finds the first answer on the trail**, if it has a step for each of its entries. -/
theorem IsTrail.follow_eq (h : L.IsTrail a trail) (answer : α → κ → Option β) {steps : Nat}
    (hsteps : trail.length ≤ steps) :
    L.follow answer steps a = trail.findSome? (L.answerAt answer) := by
  cases hfind : trail.findSome? (L.answerAt answer) with
  | some b =>
    obtain ⟨before, x, after, rfl, hx, hbefore⟩ := List.findSome?_eq_some_iff.1 hfind
    have ha : (before ++ x :: after).head? = some a := by
      rw [h.start]
      cases hentry : L.entry a with
      | some k => rfl
      | none =>
        have hempty := h.start
        simp [hentry] at hempty
    have hlength : before.length < steps := by
      simp only [List.length_append, List.length_cons] at hsteps
      omega
    exact follow_of_first answer h.links ha hbefore hx hlength
  | none =>
    have hnone := List.findSome?_eq_none_iff.1 hfind
    cases hentry : L.entry a with
    | none => exact follow_of_entry_eq_none answer hentry steps
    | some k =>
      have ha : a ∈ trail := by
        have hstart := h.start
        rw [hentry, Option.map_some] at hstart
        exact List.mem_of_mem_head? hstart
      exact h.follow_eq_none answer hnone steps a ha

/-! ## Trails in a finite table -/

/-- A list of links that can still be made longer becomes a trail. The table has at most `size`
entries, so it can be made longer at most that often. -/
theorem exists_isTrail_of_links {size : Nat}
    (hsize : ∀ l : List α, l.Nodup → (∀ x ∈ l, (L.entry x).isSome = true) → l.length ≤ size)
    (l : List α) (hstart : l.head? = some a)
    (hlinks : l.IsChain fun x y => L.next x = some y)
    (hentries : ∀ x ∈ l, (L.entry x).isSome = true) (hnodup : l.Nodup) :
    ∃ trail, L.IsTrail a trail := by
  induction hroom : size - l.length using Nat.strong_induction_on generalizing l with
  | _ room ih =>
    by_cases hends : ∀ x ∈ l.getLast?, ∀ y, L.next x = some y → L.entry y = none ∨ y ∈ l
    · refine ⟨l, ?_, hlinks, hentries, hnodup, hends⟩
      obtain ⟨k, hk⟩ := Option.isSome_iff_exists.1 (hentries a (List.mem_of_mem_head? hstart))
      rw [hstart, hk, Option.map_some]
    · -- the last entry links to one that is not on the list yet
      push Not at hends
      obtain ⟨x, hx, y, hy, hentry, hnew⟩ := hends
      have hlonger : (l ++ [y]).Nodup := by
        refine List.nodup_append.2 ⟨hnodup, List.nodup_singleton y, ?_⟩
        intro z hz z' hz' heq
        rw [List.mem_singleton.1 hz'] at heq
        exact hnew (heq ▸ hz)
      have hentries' : ∀ z ∈ l ++ [y], (L.entry z).isSome = true := by
        intro z hz
        rcases List.mem_append.1 hz with hz | hz
        · exact hentries z hz
        · rw [List.mem_singleton.1 hz]
          exact Option.isSome_iff_ne_none.2 hentry
      have hbound := hsize (l ++ [y]) hlonger hentries'
      rw [List.length_append, List.length_singleton] at hbound
      refine ih (size - (l ++ [y]).length) ?_ (l ++ [y]) ?_ ?_ hentries' hlonger rfl
      · rw [List.length_append, List.length_singleton]
        omega
      · rw [List.head?_append, hstart, Option.some_or]
      · refine List.isChain_append.2 ⟨hlinks, List.isChain_singleton y, ?_⟩
        intro z hz z' hz'
        cases hz'
        rw [Option.mem_unique hz hx]
        exact hy

/-- **There is a trail** from everywhere in a finite table. -/
theorem exists_isTrail {size : Nat}
    (hsize : ∀ l : List α, l.Nodup → (∀ x ∈ l, (L.entry x).isSome = true) → l.length ≤ size)
    (a : α) : ∃ trail, L.IsTrail a trail := by
  cases hentry : L.entry a with
  | none =>
    refine ⟨[], ?_, List.isChain_nil, by simp, List.nodup_nil, by simp⟩
    rw [hentry]
    rfl
  | some k =>
    refine exists_isTrail_of_links hsize [a] rfl (List.isChain_singleton a) ?_
      (List.nodup_singleton a)
    intro x hx
    rw [List.mem_singleton.1 hx, hentry]
    rfl

end Links

end BindingAudit
