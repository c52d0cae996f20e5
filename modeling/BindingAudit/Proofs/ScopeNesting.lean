/-
# Nested scopes

Scopes are added to a tree one at a time, each inside one that is there already, and names are bound
in them. Where the file of each scope is known, a look-up stays in the file it starts from until it
comes to the scope of the package, which is the first of all.

The file of a scope is not part of the tree. It is carried along in the list `homes`, which gives
for each scope the number of the file it was opened in.

* `HasParent` : a scope lies directly in another one, also after further scopes and bindings;
* `Nested` : how scopes lie in each other, and in which files;
* `Nested.add`, `Nested.insert` : this is kept when scopes are added and names are bound;
* `Nested.exists_of_lookupWithin` : where a look-up may find a name.
-/
import BindingAudit.Program.Scope

namespace BindingAudit

namespace ScopeTree

/-! ## Scopes that are added and names that are bound -/

variable {t : ScopeTree} {package : FinMap String Object} {homes : List Nat}

/-- A scope lies directly in another one. -/
def HasParent (t : ScopeTree) (inner outer : ScopeId) : Prop :=
  ∃ scope, t.get? inner = some scope ∧ scope.parent = some outer

theorem size_add (t : ScopeTree) (parent : Option ScopeId) : (t.add parent).size = t.size + 1 :=
  List.length_append

theorem size_insert (t : ScopeTree) (id : ScopeId) (name : String) (object : Object) :
    (t.insert id name object).size = t.size :=
  List.length_modify _ _ _

theorem getElem?_insert (t : ScopeTree) (id : ScopeId) (name : String) (object : Object) (j : Nat) :
    (t.insert id name object).scopes[j]? = (t.scopes[j]?).map fun s =>
      if id.index = j then { s with names := s.names.insert name object } else s := by
  unfold insert
  rw [List.getElem?_modify]
  rfl

theorem getElem?_add_of_lt {j : Nat} (hj : j < t.size) (parent : Option ScopeId) :
    (t.add parent).scopes[j]? = t.scopes[j]? :=
  List.getElem?_append_left hj

/-- Scopes that can be found after one was added: the new one and those there were. -/
theorem getElem?_add_cases {j : Nat} {parent : Option ScopeId} {scope : Scope}
    (h : (t.add parent).scopes[j]? = some scope) :
    t.scopes[j]? = some scope ∨ j = t.size ∧ scope = ⟨parent, .empty⟩ := by
  rcases Nat.lt_trichotomy j t.size with hlt | heq | hgt
  · rw [getElem?_add_of_lt hlt] at h
    exact .inl h
  · subst heq
    have hnew : (t.add parent).scopes[t.size]? = some ⟨parent, .empty⟩ :=
      List.getElem?_concat_length
    rw [hnew, Option.some.injEq] at h
    exact .inr ⟨rfl, h.symm⟩
  · have hnone : (t.add parent).scopes[j]? = none := by
      apply List.getElem?_eq_none
      show (t.add parent).size ≤ j
      rw [size_add]
      exact hgt
    rw [hnone] at h
    cases h

/-- The scope that is added has the next identifier, if there is one left. -/
theorem hasParent_nextId (hroom : t.size < UInt32.size) (parent : ScopeId) :
    (t.add (some parent)).HasParent t.nextId parent := by
  refine ⟨⟨some parent, .empty⟩, ?_, rfl⟩
  unfold get? nextId
  rw [ScopeId.index_ofIndex hroom]
  exact List.getElem?_concat_length

theorem HasParent.add {inner outer : ScopeId} (h : t.HasParent inner outer)
    (parent : Option ScopeId) : (t.add parent).HasParent inner outer := by
  obtain ⟨scope, hscope, hparent⟩ := h
  refine ⟨scope, ?_, hparent⟩
  unfold get?
  rw [getElem?_add_of_lt (List.getElem?_eq_some_iff.1 hscope).1]
  exact hscope

theorem HasParent.insert {inner outer : ScopeId} (h : t.HasParent inner outer) (id : ScopeId)
    (name : String) (object : Object) : (t.insert id name object).HasParent inner outer := by
  obtain ⟨scope, hscope, hparent⟩ := h
  have hget : t.scopes[inner.index]? = some scope := hscope
  refine ⟨_, by unfold get?; rw [getElem?_insert, hget]; rfl, ?_⟩
  split <;> exact hparent

/-! ## Scopes and their files -/

/-- Scopes stay in their files. -/
theorem home_mono {homes' : List Nat} (hhomes : homes <+: homes') {j file : Nat}
    (hj : homes[j]? = some file) : homes'[j]? = some file := by
  obtain ⟨more, rfl⟩ := hhomes
  rw [List.getElem?_append_left (List.getElem?_eq_some_iff.1 hj).1]
  exact hj

/-- How scopes lie in each other, where `homes` gives the file of each. -/
structure Nested (package : FinMap String Object) (homes : List Nat) (t : ScopeTree) : Prop where
  /-- Each scope has a file. -/
  length : homes.length = t.size
  /-- The first scope is that of the package. -/
  root : t.scopes[0]? = some ⟨none, package⟩
  /-- Every other scope lies in an earlier one, that of the package or one of the same file. -/
  parents : ∀ (j : Nat) (scope : Scope) (p : ScopeId), t.scopes[j]? = some scope →
    scope.parent = some p → p.index < j ∧ (p.index = 0 ∨ homes[p.index]? = homes[j]?)

namespace Nested

theorem size_pos (h : Nested package homes t) : 0 < t.size :=
  (List.getElem?_eq_some_iff.1 h.root).1

/-- A scope with a home exists. -/
theorem lt_size (h : Nested package homes t) {j file : Nat} (hj : homes[j]? = some file) :
    j < t.size := by
  rw [← h.length]
  exact (List.getElem?_eq_some_iff.1 hj).1

/-- A scope that is added lies in a file, if it lies in the scope of the package or in one of that
file. -/
theorem add (h : Nested package homes t) {p : ScopeId} {file : Nat}
    (hp : p.index = 0 ∨ homes[p.index]? = some file) :
    Nested package (homes ++ [file]) (t.add (some p)) where
  length := by rw [List.length_append, size_add, h.length, List.length_singleton]
  root := by
    rw [getElem?_add_of_lt h.size_pos]
    exact h.root
  parents := by
    intro j scope q hscope hq
    rcases getElem?_add_cases hscope with hold | ⟨rfl, rfl⟩
    · -- an old scope, whose parent is old too
      obtain ⟨hlt, hhome⟩ := h.parents j scope q hold hq
      have hj : j < homes.length := by
        rw [h.length]
        exact (List.getElem?_eq_some_iff.1 hold).1
      rw [List.getElem?_append_left hj, List.getElem?_append_left (by omega)]
      exact ⟨hlt, hhome⟩
    · -- the new scope
      obtain rfl : p = q := by simpa using hq
      rcases hp with hzero | hhome
      · exact ⟨by rw [hzero]; exact h.size_pos, .inl hzero⟩
      · have hlt := h.lt_size hhome
        refine ⟨hlt, .inr ?_⟩
        rw [List.getElem?_append_left (by rw [h.length]; exact hlt), hhome, ← h.length,
          List.getElem?_concat_length]

/-- Binding a name in a scope other than that of the package leaves everything where it is. -/
theorem insert (h : Nested package homes t) {id : ScopeId} (hid : id.index ≠ 0) (name : String)
    (object : Object) : Nested package homes (t.insert id name object) where
  length := by rw [size_insert, h.length]
  root := by
    rw [getElem?_insert, h.root, Option.map_some, if_neg hid]
  parents := by
    intro j scope p hscope hp
    rw [getElem?_insert, Option.map_eq_some_iff] at hscope
    obtain ⟨old, hold, rfl⟩ := hscope
    refine h.parents j old p hold ?_
    split at hp <;> exact hp

/-- **A look-up stays in its file.** What it finds is bound in the scope of the package or in one of
the file that it starts from. -/
theorem exists_of_lookupWithin (h : Nested package homes t) {name : String} {steps : Nat}
    {id found : ScopeId} {object : Object} {file : Nat}
    (hid : id.index = 0 ∨ homes[id.index]? = some file)
    (hfound : t.lookupWithin name steps id = some (found, object)) :
    ∃ scope, t.scopes[found.index]? = some scope ∧ scope.names.find? name = some object ∧
      (found.index = 0 ∨ homes[found.index]? = some file) := by
  induction steps generalizing id with
  | zero => cases hfound
  | succ steps ih =>
    unfold lookupWithin at hfound
    obtain ⟨scope, hscope, hrest⟩ := Option.bind_eq_some_iff.1 hfound
    split at hrest
    · rename_i bound hbound
      cases hrest
      exact ⟨scope, hscope, hbound, hid⟩
    · obtain ⟨p, hp, hnext⟩ := Option.bind_eq_some_iff.1 hrest
      refine ih ?_ hnext
      obtain ⟨hlt, hzero | hhome⟩ := h.parents id.index scope p hscope hp
      · exact .inl hzero
      · rcases hid with hid | hid
        · omega
        · exact .inr (hhome.trans hid)

end Nested

end ScopeTree

end BindingAudit
