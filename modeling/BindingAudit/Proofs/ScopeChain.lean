/-
# The nearest binding of a name

The chain of a scope is the scope itself, the scope around it, the one around that, and so on. It
ends at a scope with no scope around it, in front of a scope that does not exist, or in front of one
that is on the chain already. A name means what the first scope on the chain that binds it says.

The walk outwards stops after as many steps as there are scopes. It misses nothing by that, since no
scope is on the chain twice.

* `ScopeTree.lookupWithin_eq_findSome?` : a walk that is long enough finds the first binding;
* `ScopeTree.lookup_nearest` : look-ups in any tree of scopes, with circles and missing scopes.
-/
import BindingAudit.Program.Scope
import BindingAudit.Proofs.LinkTrail

namespace BindingAudit

namespace ScopeTree

variable {t : ScopeTree} {id : ScopeId} {chain : List ScopeId}

/-! ## Chains of scopes -/

/-- The scopes of a tree, each with its link to the scope around it. -/
def outward (t : ScopeTree) : Links ScopeId Scope := ⟨t.get?, Scope.parent⟩

/-- The chain of a scope: the scope, its parent, the parent of that, up to the end, the first scope
that does not exist or the first repetition. -/
def IsChainOf (t : ScopeTree) (id : ScopeId) (chain : List ScopeId) : Prop :=
  t.outward.IsTrail id chain

/-- What a scope itself binds a name to. -/
def boundIn? (t : ScopeTree) (name : String) (id : ScopeId) : Option Object :=
  (t.get? id).bind fun scope => scope.names.find? name

/-- Different existing scopes are no more than there are scopes. -/
theorem length_le_size {l : List ScopeId} (hnodup : l.Nodup)
    (hexists : ∀ id ∈ l, (t.get? id).isSome = true) : l.length ≤ t.size :=
  length_le_of_isSome_getElem? (fun _ _ => ScopeId.index_inj.1) hnodup hexists

/-! ## Walks -/

/-- The answer of a scope to the question what a name means. -/
def answerFor (name : String) (id : ScopeId) (scope : Scope) : Option (ScopeId × Object) :=
  (scope.names.find? name).map (id, ·)

theorem answerAt_answerFor (t : ScopeTree) (name : String) (id : ScopeId) :
    t.outward.answerAt (answerFor name) id = (t.boundIn? name id).map (id, ·) := by
  rw [boundIn?, Option.map_bind]
  rfl

/-- A walk outwards follows the links between scopes to the first that binds the name. -/
theorem lookupWithin_eq_follow (t : ScopeTree) (name : String) (steps : Nat) (id : ScopeId) :
    t.lookupWithin name steps id = t.outward.follow (answerFor name) steps id := by
  induction steps generalizing id with
  | zero => rfl
  | succ steps ih =>
    have hwalk : t.lookupWithin name steps = t.outward.follow (answerFor name) steps := funext ih
    have hnext : t.outward.next id = (t.get? id).bind Scope.parent := rfl
    rw [lookupWithin, hwalk, Links.follow, answerAt_answerFor, hnext, boundIn?]
    cases t.get? id with
    | none => rfl
    | some scope =>
      simp only [Option.bind_some]
      cases scope.names.find? name <;> rfl

/-- **A walk finds the first binding on the chain**, if it has a step for each scope of the tree. -/
theorem lookupWithin_eq_findSome? (h : t.IsChainOf id chain) (name : String) {steps : Nat}
    (hsteps : t.size ≤ steps) :
    t.lookupWithin name steps id =
      chain.findSome? fun s => (t.boundIn? name s).map (s, ·) := by
  have hlength : chain.length ≤ steps :=
    Nat.le_trans (length_le_size h.nodup h.entries) hsteps
  have hanswer : t.outward.answerAt (answerFor name) =
      fun s => (t.boundIn? name s).map (s, ·) :=
    funext (answerAt_answerFor t name)
  rw [lookupWithin_eq_follow, h.follow_eq _ hlength, hanswer]

/-- Steps beyond the number of scopes find nothing more. -/
theorem lookupWithin_eq_lookup (t : ScopeTree) (name : String) (id : ScopeId) {steps : Nat}
    (hsteps : t.size ≤ steps) : t.lookupWithin name steps id = t.lookup id name := by
  obtain ⟨chain, h⟩ := Links.exists_isTrail (L := t.outward) (fun _ => length_le_size) id
  rw [lookup, lookupWithin_eq_findSome? h name hsteps,
    lookupWithin_eq_findSome? h name (Nat.le_refl t.size)]

/-- **The nearest binding of a name.** Every scope has a chain. Looking a name up gives the first
scope on the chain that binds it, with what it binds it to, and nothing exactly if no scope on the
chain does. A longer walk would find the same. -/
theorem lookup_nearest (t : ScopeTree) (id : ScopeId) (name : String) :
    (∃ chain, t.IsChainOf id chain) ∧
      (∀ chain, t.IsChainOf id chain →
        (∀ s object, t.lookup id name = some (s, object) ↔
          ∃ before after, chain = before ++ s :: after ∧
            (∀ b ∈ before, t.boundIn? name b = none) ∧ t.boundIn? name s = some object) ∧
        (t.lookup id name = none ↔ ∀ s ∈ chain, t.boundIn? name s = none)) ∧
      ∀ steps, t.size ≤ steps → t.lookupWithin name steps id = t.lookup id name := by
  have hchain : ∃ chain, t.IsChainOf id chain :=
    Links.exists_isTrail (fun _ => length_le_size) id
  refine ⟨hchain, ?_, ?_⟩
  · intro chain h
    have hlookup : t.lookup id name = chain.findSome? fun s => (t.boundIn? name s).map (s, ·) :=
      lookupWithin_eq_findSome? h name (Nat.le_refl t.size)
    constructor
    · intro s object
      rw [hlookup, List.findSome?_eq_some_iff]
      constructor
      · rintro ⟨before, b, after, rfl, hb, hbefore⟩
        obtain ⟨found, hfound, hpair⟩ := Option.map_eq_some_iff.1 hb
        cases hpair
        exact ⟨before, after, rfl, by simpa using hbefore, hfound⟩
      · rintro ⟨before, after, rfl, hbefore, hs⟩
        exact ⟨before, s, after, rfl, by rw [hs]; rfl, by simpa using hbefore⟩
    · rw [hlookup, List.findSome?_eq_none_iff]
      simp
  · intro steps hsteps
    obtain ⟨chain, h⟩ := hchain
    rw [lookupWithin_eq_findSome? h name hsteps]
    exact (lookupWithin_eq_findSome? h name (Nat.le_refl t.size)).symm

/-- Two scopes, each of which is said to be around the other. The second binds `x`. -/
def circle : ScopeTree :=
  ⟨[⟨some ⟨1⟩, .empty⟩, ⟨some ⟨0⟩, FinMap.empty.insert "x" (.typeName ⟨0⟩)⟩]⟩

/-- The chain of the first scope has both scopes on it, and ends there. -/
theorem circle_lookup_nearest :
    circle.IsChainOf ⟨0⟩ [⟨0⟩, ⟨1⟩] ∧
      circle.lookup ⟨0⟩ "x" = some (⟨1⟩, .typeName ⟨0⟩) ∧ circle.lookup ⟨0⟩ "y" = none ∧
      circle.lookupWithin "y" 1000 ⟨0⟩ = circle.lookup ⟨0⟩ "y" := by
  have hchain : circle.IsChainOf ⟨0⟩ [⟨0⟩, ⟨1⟩] := by
    refine ⟨rfl, ?_, by decide, by decide, ?_⟩
    · exact List.isChain_cons_cons.2 ⟨rfl, List.isChain_singleton _⟩
    · intro x hx y hy
      cases hx
      cases hy
      exact .inr (by decide)
  have hx := (lookup_nearest circle ⟨0⟩ "x").2.1 _ hchain
  have hy := (lookup_nearest circle ⟨0⟩ "y").2
  refine ⟨hchain, (hx.1 _ _).2 ⟨[⟨0⟩], [], rfl, ?_, ?_⟩, (hy.1 _ hchain).2.2 ?_, hy.2 1000 ?_⟩
  all_goals decide

end ScopeTree

end BindingAudit
