/-
# Chains of underlying types

A named type gives an underlying type, which may be a named one again. These links are followed to
the first type that is not named. The search takes one step more than the table has entries. It
misses nothing by that, since a trail of links meets no entry twice, and so a search with still more
steps, as in a table that has grown, finds the same.

* `TypeTable.underlyingLinks` : the entries of a table, each with its link;
* `TypeTable.underlyingWithin_eq_underlying` : steps beyond the number of entries change nothing.
-/
import BindingAudit.Program.TypeTable
import BindingAudit.Proofs.LinkTrail

namespace BindingAudit

/-- The underlying type that a named kind gives. -/
def TypeKind.link? : TypeKind → Option TypeId
  | .named n => n.underlying
  | _ => none

/-- The answer of an entry to the question where a chain of underlying types ends. -/
def TypeKind.endsAt? (id : TypeId) : TypeKind → Option TypeId
  | .named _ => none
  | _ => some id

namespace TypeTable

variable {t : TypeTable} {id : TypeId}

/-- The entries of a table, with the links from named types to their underlying types. -/
def underlyingLinks (t : TypeTable) : Links TypeId TypeKind := ⟨t.get?, TypeKind.link?⟩

/-- Different types of a table are no more than it has entries. -/
theorem length_le_size {l : List TypeId} (hnodup : l.Nodup)
    (hentries : ∀ id ∈ l, (t.get? id).isSome = true) : l.length ≤ t.size :=
  length_le_of_isSome_getElem? (fun _ _ => TypeId.index_inj.1) hnodup hentries

/-- The search for an underlying type follows the links to the first entry that is not named. -/
theorem underlyingWithin_eq_follow (t : TypeTable) (steps : Nat) (id : TypeId) :
    t.underlyingWithin steps id = t.underlyingLinks.follow TypeKind.endsAt? steps id := by
  induction steps generalizing id with
  | zero => rfl
  | succ steps ih =>
    have hsearch : t.underlyingWithin steps =
        t.underlyingLinks.follow TypeKind.endsAt? steps := funext ih
    have hnext : t.underlyingLinks.next id = (t.get? id).bind TypeKind.link? := rfl
    have hanswer : t.underlyingLinks.answerAt TypeKind.endsAt? id =
        (t.get? id).bind (TypeKind.endsAt? id) := rfl
    rw [underlyingWithin, hsearch, Links.follow, hnext, hanswer]
    cases t.get? id with
    | none => rfl
    | some x => cases x <;> rfl

/-- **Steps beyond the number of entries change nothing.** -/
theorem underlyingWithin_eq_underlying (t : TypeTable) (id : TypeId) {steps : Nat}
    (hsteps : t.size ≤ steps) : t.underlyingWithin steps id = t.underlying id := by
  obtain ⟨trail, h⟩ := Links.exists_isTrail (L := t.underlyingLinks) (fun _ => length_le_size) id
  have hlength : trail.length ≤ t.size := length_le_size h.nodup h.entries
  rw [underlying, underlyingWithin_eq_follow, underlyingWithin_eq_follow,
    h.follow_eq _ (hlength.trans hsteps), h.follow_eq _ (hlength.trans (Nat.le_succ _))]

end TypeTable

end BindingAudit
