/-
# Trees of scopes that grow

A tree of scopes changes in two ways: a scope is added, or a name is bound in a scope. Neither moves
a scope that is there already. A look-up goes from its scope through the scopes around it and sees
nothing else, so it finds the same after both, unless its name was bound in one of those. It may
take one more step for each scope that was added, which leads nowhere new.

* `ScopeTree.Encloses` : the scopes around a scope;
* `ScopeTree.ParentsExist` : scopes lie in scopes that exist, so none can be slipped in behind;
* `ScopeTree.lookup_add`, `ScopeTree.lookupWithin_insert` : look-ups after the two changes;
* `ScopeTree.Keeps` : the meaning of a name from a scope on is kept, as a relation of two trees.
-/
import Mathlib.Logic.Relation
import BindingAudit.Proofs.ScopeChain
import BindingAudit.Proofs.ScopeNesting

namespace BindingAudit

open Relation

/-! ## Scopes around a scope -/

namespace ScopeTree

variable {t t' t'' : ScopeTree} {id inner outer : ScopeId} {name : String}

/-- `outer` is the scope `inner` itself or lies around it. -/
def Encloses (t : ScopeTree) (outer inner : ScopeId) : Prop := ReflTransGen t.HasParent inner outer

/-- No scope is said to lie in one that does not exist. -/
def ParentsExist (t : ScopeTree) : Prop :=
  ∀ inner outer, t.HasParent inner outer → outer.index < t.size

/-- The scope that is added next can be found, even if its identifier is not a new one. -/
theorem index_nextId_lt (t : ScopeTree) (parent : Option ScopeId) :
    t.nextId.index < (t.add parent).size := by
  have hindex : t.nextId.index = t.size % UInt32.size := UInt32.toNat_ofNat
  have hle := Nat.mod_le t.size UInt32.size
  rw [size_add]
  omega

theorem get?_insert (t : ScopeTree) (scope : ScopeId) (bound : String) (object : Object)
    (id : ScopeId) : (t.insert scope bound object).get? id = (t.get? id).map fun s =>
      if scope = id then { s with names := s.names.insert bound object } else s := by
  unfold get?
  rw [getElem?_insert]
  simp only [ScopeId.index_inj]

theorem get?_add_of_lt (hid : id.index < t.size) (parent : Option ScopeId) :
    (t.add parent).get? id = t.get? id :=
  getElem?_add_of_lt hid parent

theorem hasParent_of_add {parent : Option ScopeId} (hinner : inner.index < t.size)
    (h : (t.add parent).HasParent inner outer) : t.HasParent inner outer := by
  obtain ⟨scope, hscope, hparent⟩ := h
  rw [get?_add_of_lt hinner] at hscope
  exact ⟨scope, hscope, hparent⟩

/-- Bindings do not move scopes. -/
theorem hasParent_insert (t : ScopeTree) (scope : ScopeId) (bound : String) (object : Object) :
    (t.insert scope bound object).HasParent = t.HasParent := by
  funext inner outer
  apply propext
  constructor
  · rintro ⟨new, hnew, hparent⟩
    rw [get?_insert, Option.map_eq_some_iff] at hnew
    obtain ⟨old, hold, rfl⟩ := hnew
    refine ⟨old, hold, ?_⟩
    split at hparent <;> exact hparent
  · intro h
    exact h.insert scope bound object

theorem parentsExist_insert (h : t.ParentsExist) (scope : ScopeId) (bound : String)
    (object : Object) : (t.insert scope bound object).ParentsExist := by
  intro inner outer hparent
  rw [hasParent_insert] at hparent
  rw [size_insert]
  exact h inner outer hparent

/-- A scope may be added inside one that exists. -/
theorem parentsExist_add (h : t.ParentsExist) {parent : ScopeId} (hparent : parent.index < t.size) :
    (t.add (some parent)).ParentsExist := by
  rintro inner outer ⟨scope, hscope, houter⟩
  rw [size_add]
  rcases getElem?_add_cases hscope with hold | ⟨-, rfl⟩
  · have hlt := h inner outer ⟨scope, hold, houter⟩
    omega
  · obtain rfl : parent = outer := Option.some.inj houter
    omega

/-- What lies around a scope stays when another scope is added. -/
theorem encloses_of_add (ht : t.ParentsExist) {parent : Option ScopeId}
    (hinner : inner.index < t.size) (h : (t.add parent).Encloses outer inner) :
    t.Encloses outer inner := by
  induction h using ReflTransGen.head_induction_on with
  | refl => exact .refl
  | head hstep _ ih =>
    have hold := hasParent_of_add hinner hstep
    exact .head hold (ih (ht _ _ hold))

/-- Scopes that are listed together with their parents include all scopes around them. -/
theorem Encloses.mem {scopes : List ScopeId} (h : t.Encloses outer inner) (hinner : inner ∈ scopes)
    (hparents : ∀ id ∈ scopes, ∀ scope ∈ t.get? id, ∀ p ∈ scope.parent, p ∈ scopes) :
    outer ∈ scopes := by
  induction h with
  | refl => exact hinner
  | tail _ hstep ih =>
    obtain ⟨scope, hscope, hparent⟩ := hstep
    exact hparents _ ih scope hscope _ hparent

/-! ## Look-ups in a tree that changes -/

/-- A look-up does not see a scope that was added. -/
theorem lookupWithin_add (ht : t.ParentsExist) (parent : Option ScopeId) (name : String)
    (steps : Nat) (hid : id.index < t.size) :
    (t.add parent).lookupWithin name steps id = t.lookupWithin name steps id := by
  induction steps generalizing id with
  | zero => rfl
  | succ steps ih =>
    rw [lookupWithin, lookupWithin, get?_add_of_lt hid]
    cases hscope : t.get? id with
    | none => rfl
    | some scope =>
      rw [Option.bind_some, Option.bind_some]
      split
      · rfl
      · cases hparent : scope.parent with
        | none => rfl
        | some p => exact ih (ht id p ⟨scope, hscope, hparent⟩)

/-- There are more steps now than before, but no more scopes to be met. -/
theorem lookup_add (ht : t.ParentsExist) (parent : Option ScopeId) (name : String)
    (hid : id.index < t.size) : (t.add parent).lookup id name = t.lookup id name := by
  rw [lookup, lookupWithin_add ht parent name _ hid]
  apply lookupWithin_eq_lookup
  rw [size_add]
  exact Nat.le_succ t.size

/-- A look-up does not see a binding of another name, nor one in a scope that is not around the
scope where it starts. -/
theorem lookupWithin_insert {scope : ScopeId} {bound : String} (object : Object)
    (h : bound = name → ¬ t.Encloses scope id) (steps : Nat) :
    (t.insert scope bound object).lookupWithin name steps id = t.lookupWithin name steps id := by
  induction steps generalizing id with
  | zero => rfl
  | succ steps ih =>
    rw [lookupWithin, lookupWithin, get?_insert]
    cases hget : t.get? id with
    | none => rfl
    | some s =>
      rw [Option.map_some, Option.bind_some, Option.bind_some]
      have hnames : (if scope = id then { s with names := s.names.insert bound object }
          else s).names.find? name = s.names.find? name := by
        split
        · rename_i hhere
          have hother : name ≠ bound := fun hsame => h hsame.symm (hhere ▸ .refl)
          rw [FinMap.find?_insert, if_neg hother]
        · rfl
      have hparent : (if scope = id then { s with names := s.names.insert bound object }
          else s).parent = s.parent := by
        split <;> rfl
      rw [hnames, hparent]
      split
      · rfl
      · cases hp : s.parent with
        | none => rfl
        | some p =>
          -- what is around the parent is around the scope
          exact ih fun hsame henclosing => h hsame (.head ⟨s, hget, hp⟩ henclosing)

/-- A tree becomes another one that keeps the meaning of a name from a scope on: the scope stays,
nothing new lies around it, and the look-up of the name finds the same. -/
structure Keeps (t t' : ScopeTree) (id : ScopeId) (name : String) : Prop where
  size : t.size ≤ t'.size
  encloses : ∀ outer, t'.Encloses outer id → t.Encloses outer id
  lookup : t'.lookup id name = t.lookup id name

theorem Keeps.refl (t : ScopeTree) (id : ScopeId) (name : String) : t.Keeps t id name :=
  ⟨Nat.le_refl _, fun _ h => h, rfl⟩

theorem Keeps.trans (h : t.Keeps t' id name) (h' : t'.Keeps t'' id name) : t.Keeps t'' id name :=
  ⟨h.size.trans h'.size, fun outer houter => h.encloses outer (h'.encloses outer houter),
    h'.lookup.trans h.lookup⟩

theorem keeps_add (ht : t.ParentsExist) (parent : Option ScopeId) (name : String)
    (hid : id.index < t.size) : t.Keeps (t.add parent) id name where
  size := by
    rw [size_add]
    exact Nat.le_succ t.size
  encloses := fun _ houter => encloses_of_add ht hid houter
  lookup := lookup_add ht parent name hid

theorem keeps_insert {scope : ScopeId} {bound : String} (object : Object)
    (h : bound = name → ¬ t.Encloses scope id) : t.Keeps (t.insert scope bound object) id name where
  size := (size_insert t scope bound object).ge
  encloses := fun outer houter => by
    unfold Encloses at houter
    rwa [hasParent_insert] at houter
  lookup := by
    unfold lookup
    rw [size_insert]
    exact lookupWithin_insert object h t.size

end ScopeTree

end BindingAudit
