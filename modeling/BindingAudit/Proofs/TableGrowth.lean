/-
# A table that grows

Types are added at the end of the table, so earlier entries stay as they are. What a type means does
not lie in its own entry alone, though: it lies in everything that the entry refers to, and the
searches for it are bounded by the length of the table. A type is *complete* if all that it refers
to, directly or not, is in the table already. Whatever is added later, a complete type stays what it
is. One that refers to a type still to come does not.

Nothing is special about growth here. Two tables that agree on a region which no reference leads out
of give the same answers about the types of that region.

* `TypeTable.RefersTo`, `TypeTable.Complete` : the references between types, and what they stay in;
* `TypeTable.AgreeOn` : two tables that agree on a region;
* `AgreeOn.underlying_eq`, `AgreeOn.identicalWithin_eq`, `AgreeOn.renderWithin_eq`,
  `Transport.violationFrom?_eq` : the answers of such tables;
* `TypeTable.sameMeaning_of_complete` : the meaning of complete types, whatever is added.
-/
import Mathlib.Logic.Relation
import BindingAudit.Binding.Transport
import BindingAudit.Proofs.TransportExactness
import BindingAudit.Proofs.TypeTexts
import BindingAudit.Proofs.UnderlyingTrail

namespace BindingAudit

open Relation

/-! ## References -/

namespace TypeKind

variable {x y : TypeKind} {R S : TypeId → TypeId → Prop} {c u : TypeId}

/-- The types that a kind refers to: its components, and the underlying type of a named one. -/
def references (x : TypeKind) : List TypeId := x.link?.toList ++ x.components

theorem mem_references_of_link? (h : x.link? = some u) : u ∈ x.references := by
  rw [references, h]
  exact List.mem_cons_self

theorem mem_references_of_mem_components (h : c ∈ x.components) : c ∈ x.references :=
  List.mem_append_right _ h

/-- The parts of a shape are components of the kind. -/
theorem mem_components_of_mem_parts (h : c ∈ x.shape.parts) : c ∈ x.components := by
  cases x with
  | pointer | slice | array | map | struct => exact h
  | _ => cases h

theorem PartsAgree.imp_of_mem (h : x.PartsAgree R y)
    (hRS : ∀ c ∈ x.components, ∀ d ∈ y.components, R c d → S c d) : x.PartsAgree S y := by
  obtain ⟨hlength, hpairs⟩ := List.forall₂_iff_zip.1 h.components
  refine ⟨h.outline, List.forall₂_iff_zip.2 ⟨hlength, fun {c d} hcd => ?_⟩⟩
  obtain ⟨hc, hd⟩ := List.of_mem_zip hcd
  exact hRS c hc d hd (hpairs hcd)

/-- Whether kinds agree in their parts depends on their own components only. -/
theorem partsAgree_congr (hRS : ∀ c ∈ x.components, ∀ d ∈ y.components, (R c d ↔ S c d)) :
    x.PartsAgree R y ↔ x.PartsAgree S y :=
  ⟨fun h => h.imp_of_mem fun c hc d hd => (hRS c hc d hd).1,
    fun h => h.imp_of_mem fun c hc d hd => (hRS c hc d hd).2⟩

end TypeKind

namespace TypeTable

variable {t t' : TypeTable} {region : TypeId → Prop} {a b c u : TypeId} {x : TypeKind}

/-- The entry of `a` refers to `c`. -/
def RefersTo (t : TypeTable) (a c : TypeId) : Prop := ∃ x, t.get? a = some x ∧ c ∈ x.references

/-- A type is complete if everything that it refers to, directly or not, is in the table. -/
def Complete (t : TypeTable) (a : TypeId) : Prop :=
  ∀ c, ReflTransGen t.RefersTo a c → c.index < t.size

theorem Complete.refersTo (h : t.Complete a) (hac : t.RefersTo a c) : t.Complete c :=
  fun d hcd => h d (.head hac hcd)

/-- Types of the table that refer to each other only are complete. -/
theorem complete_of_mem {types : List TypeId}
    (h : ∀ a ∈ types, a.index < t.size ∧ ∀ x ∈ t.get? a, ∀ c ∈ x.references, c ∈ types)
    (ha : a ∈ types) : t.Complete a := by
  intro c hac
  suffices hc : c ∈ types from (h c hc).1
  induction hac with
  | refl => exact ha
  | tail _ hstep ih =>
    obtain ⟨x, hx, hc⟩ := hstep
    exact (h _ ih).2 x hx _ hc

/-- Two tables agree on a region: its types have the same entries in both, and these refer to types
of the region only. -/
structure AgreeOn (t t' : TypeTable) (region : TypeId → Prop) : Prop where
  entry : ∀ a, region a → t'.get? a = t.get? a
  closed : ∀ a c, region a → t.RefersTo a c → region c

/-- Types that were added come after all others. -/
theorem foldl_add (t : TypeTable) (kinds : List TypeKind) :
    kinds.foldl add t = ⟨t.kinds ++ kinds⟩ := by
  induction kinds generalizing t with
  | nil => rw [List.foldl_nil, List.append_nil]
  | cons x kinds ih => rw [List.foldl_cons, ih, add, List.append_assoc, List.singleton_append]

/-- **A table that has grown agrees with the one before** on the types that were complete. -/
theorem agreeOn_foldl_add (t : TypeTable) (kinds : List TypeKind) :
    t.AgreeOn (kinds.foldl add t) t.Complete where
  entry := by
    intro a ha
    rw [foldl_add]
    exact List.getElem?_append_left (ha a .refl)
  closed := fun _ _ => Complete.refersTo

/-! ## Answers that agree -/

namespace AgreeOn

variable (h : t.AgreeOn t' region)
include h

/-- The components of a type are in the region. -/
theorem component (ha : region a) (hx : t.get? a = some x) (hc : c ∈ x.components) : region c :=
  h.closed a c ha ⟨x, hx, TypeKind.mem_references_of_mem_components hc⟩

/-- A search for an underlying type stays in the region. -/
theorem of_underlyingWithin {n : Nat} (ha : region a) (hu : t.underlyingWithin n a = some u) :
    region u := by
  induction n generalizing a with
  | zero => cases hu
  | succ n ih =>
    rw [underlyingWithin] at hu
    split at hu
    · cases hu
    · rename_i named hget
      obtain ⟨v, hv, hu⟩ := Option.bind_eq_some_iff.1 hu
      exact ih (h.closed a v ha ⟨_, hget, TypeKind.mem_references_of_link? hv⟩) hu
    · cases hu
      exact ha

theorem underlyingWithin_eq (ha : region a) (n : Nat) :
    t'.underlyingWithin n a = t.underlyingWithin n a := by
  induction n generalizing a with
  | zero => rfl
  | succ n ih =>
    rw [underlyingWithin, underlyingWithin, h.entry a ha]
    split
    · rfl
    · rename_i named hget
      cases hlink : named.underlying with
      | none => rfl
      | some v => exact ih (h.closed a v ha ⟨_, hget, TypeKind.mem_references_of_link? hlink⟩)
    · rfl

/-- The tables need not be of one length. Enough steps for both find what either finds. -/
theorem underlying_eq (ha : region a) : t'.underlying a = t.underlying a := by
  rw [← t'.underlyingWithin_eq_underlying a (Nat.le_max_left t'.size t.size),
    ← t.underlyingWithin_eq_underlying a (Nat.le_max_right t'.size t.size),
    h.underlyingWithin_eq ha]

theorem underlyingEntry_eq (ha : region a) : t'.underlyingEntry a = t.underlyingEntry a := by
  rw [underlyingEntry, underlyingEntry, h.underlying_eq ha]
  cases hu : t.underlying a with
  | none => rfl
  | some u => exact h.entry u (h.of_underlyingWithin ha hu)

/-- The components of the type behind a name are in the region. -/
theorem underlyingComponent (ha : region a) (hx : t.underlyingEntry a = some x)
    (hc : c ∈ x.components) : region c := by
  obtain ⟨u, hu, hget⟩ := Option.bind_eq_some_iff.1 hx
  exact h.component (h.of_underlyingWithin ha hu) hget hc

/-- Slices of the region have the same element, which is in the region. -/
theorem rel_sliceElement (ha : region a) :
    Option.Rel (fun c d => c = d ∧ region c) (t.sliceElement a) (t'.sliceElement a) := by
  rw [sliceElement, sliceElement, h.underlyingEntry_eq ha]
  split
  · rename_i elem hslice
    exact .some ⟨rfl, h.underlyingComponent ha hslice List.mem_cons_self⟩
  · exact .none

theorem field?_eq (ha : region a) (name : String) : t'.field? a name = t.field? a name := by
  rw [field?, field?, h.underlyingEntry_eq ha]
  cases hentry : t.underlyingEntry a with
  | none => rw [h.underlyingEntry_eq ha]
  | some x =>
    cases x with
    | pointer elem =>
      have helem : region elem := h.underlyingComponent ha hentry List.mem_cons_self
      rw [h.underlyingEntry_eq helem]
    | _ => rw [h.underlyingEntry_eq ha]

theorem named?_eq (ha : region a) : t'.named? a = t.named? a := by
  rw [named?, named?, h.entry a ha]

theorem shape_eq (ha : region a) (encodesItself : String → Bool) :
    t'.shape encodesItself a = t.shape encodesItself a := by
  rw [shape, shape, h.named?_eq ha, h.underlyingEntry_eq ha]

/-- The parts of a shape are in the region. -/
theorem part {encodesItself : String → Bool} (ha : region a)
    (hc : c ∈ (t.shape encodesItself a).parts) : region c := by
  rw [shape] at hc
  split at hc
  · cases hc
  · split at hc
    · rename_i x hentry
      exact h.underlyingComponent ha hentry (TypeKind.mem_components_of_mem_parts hc)
    · cases hc

theorem identicalWithin_eq (ha : region a) (hb : region b) (n : Nat) :
    t'.identicalWithin n a b = t.identicalWithin n a b := by
  induction n generalizing a b with
  | zero => rfl
  | succ n ih =>
    rw [Bool.eq_iff_iff, identicalWithin_succ_iff, identicalWithin_succ_iff, h.entry a ha,
      h.entry b hb]
    refine or_congr_right (exists_congr fun x => exists_congr fun y => ?_)
    refine and_congr_right fun hx => and_congr_right fun hy => TypeKind.partsAgree_congr ?_
    intro c hc d hd
    rw [ih (h.component ha hx hc) (h.component hb hy hd)]

theorem renderWithin_eq (ha : region a) (n : Nat) : t'.renderWithin n a = t.renderWithin n a := by
  induction n generalizing a with
  | zero => rfl
  | succ n ih =>
    -- a type of the region is written like itself, and so are all types that it refers to
    have hentry : ReadsLike (fun c d => c = d ∧ region c) (t.get? a) (t'.get? a) := by
      rw [h.entry a ha]
      exact .self fun x hx c hc => ⟨rfl, h.component ha hx hc⟩
    refine (renderWithin_succ_eq hentry ?_ ?_).symm
    · rintro c _ ⟨rfl, hc⟩
      exact (ih hc).symm
    · rintro c _ ⟨rfl, hc⟩
      exact h.rel_sliceElement hc

theorem render_eq (ha : region a) : t'.render a = t.render a :=
  h.renderWithin_eq ha _

end AgreeOn

end TypeTable

/-! ## The walk through the parts of a type -/

namespace Transport

variable {conventions : Conventions} {types types' : TypeTable} {a : TypeId}
  {visiting : List TypeId} {path : List String}

/-- **One step of the walk.** If a type has the same shape and text in both tables, and what the
walk finds in its parts is the same, then so is what it finds in the type. -/
theorem violationFrom?_congr
    (hshape : shapeOf types' conventions a = shapeOf types conventions a)
    (htext : types'.render a = types.render a)
    (hpart : ∀ c ∈ (shapeOf types conventions a).parts, types'.render c = types.render c ∧
      ∀ path, violationFrom? types' conventions (a :: visiting) path c =
        violationFrom? types conventions (a :: visiting) path c) :
    violationFrom? types' conventions visiting path a =
      violationFrom? types conventions visiting path a := by
  rw [violationFrom?, violationFrom?, hshape]
  generalize shapeOf types conventions a = shape at hpart
  split
  · rfl
  · cases shape with
    | basic kind => cases kind <;> simp only [htext]
    | unsupported kind => simp only [htext]
    | pointer elem | sequence elem | array elem _ =>
      exact (hpart elem List.mem_cons_self).2 path
    | mapping key value =>
      have hkey := (hpart key List.mem_cons_self).2 path
      have hvalue := (hpart value (List.mem_cons_of_mem _ List.mem_cons_self)).2 path
      simp only [hkey, hvalue]
    | struct fields =>
      simp only [← List.head?_filterMap]
      refine congrArg List.head? (List.filterMap_congr fun f hf => ?_)
      obtain ⟨hfieldText, hfield⟩ := hpart f.ty (List.mem_map_of_mem hf)
      simp only [hfieldText, hfield]
    | interface | codec | unknown => rfl

/-- **The whole walk.** Tables that agree on a region lead it the same way through the types of the
region, however it has come there. -/
theorem violationFrom?_eq {region : TypeId → Prop} (h : types.AgreeOn types' region)
    (visiting : List TypeId) (ha : region a) (path : List String) :
    violationFrom? types' conventions visiting path a =
      violationFrom? types conventions visiting path a := by
  -- the walk ends, so what it finds in the parts may be taken to be the same
  induction hwalk : (visiting, a) using (wellFounded_looksInto types conventions).induction
    generalizing visiting a path with
  | _ walk ih =>
    subst hwalk
    by_cases hin : a ∈ visiting
    · rw [violationFrom?, violationFrom?, dif_pos hin, dif_pos hin]
    · refine violationFrom?_congr (h.shape_eq ha _) (h.render_eq ha) fun c hc => ?_
      have hregion : region c := h.part ha hc
      refine ⟨h.render_eq hregion, fun path => ?_⟩
      exact ih (a :: visiting, c) ⟨hin, rfl, hc⟩ (a :: visiting) hregion path rfl

theorem violation?_eq {region : TypeId → Prop} (h : types.AgreeOn types' region) (ha : region a) :
    violation? types' conventions a = violation? types conventions a :=
  violationFrom?_eq h [] ha []

end Transport

/-! ## Growth -/

namespace TypeTable

/-- A type means the same in two tables: it has the same underlying type, text, shape and fields,
and the same in it is in the way of transport. -/
structure SameMeaning (t t' : TypeTable) (a : TypeId) : Prop where
  underlying : t'.underlying a = t.underlying a
  render : t'.render a = t.render a
  shape : ∀ encodesItself, t'.shape encodesItself a = t.shape encodesItself a
  field : ∀ name, t'.field? a name = t.field? a name
  violation : ∀ conventions, Transport.violation? t' conventions a =
    Transport.violation? t conventions a

theorem AgreeOn.sameMeaning {t t' : TypeTable} {region : TypeId → Prop} {a : TypeId}
    (h : t.AgreeOn t' region) (ha : region a) : t.SameMeaning t' a where
  underlying := h.underlying_eq ha
  render := h.render_eq ha
  shape := h.shape_eq ha
  field := h.field?_eq ha
  violation := fun _ => Transport.violation?_eq h ha

/-- **Growth keeps the meaning of complete types.** Whatever is added to a table, two types that
refer to types of the table only mean what they meant before, each by itself, and they are identical
if and only if they were. -/
theorem sameMeaning_of_complete (t : TypeTable) (kinds : List TypeKind) {a b : TypeId}
    (ha : t.Complete a) (hb : t.Complete b) :
    t.SameMeaning (kinds.foldl add t) a ∧ t.SameMeaning (kinds.foldl add t) b ∧
      (kinds.foldl add t).identical a b = t.identical a b := by
  have h : t.AgreeOn (kinds.foldl add t) t.Complete := t.agreeOn_foldl_add kinds
  exact ⟨h.sameMeaning ha, h.sameMeaning hb, h.identicalWithin_eq ha hb _⟩

/-- Two named types that refer to each other in a circle, and nodes with a link to the next node, a
field of the first of these types, a channel, and a function of any number of nodes. An entry at the
end refers to types that are not there. -/
def openTable : TypeTable :=
  ⟨TypeTable.predeclared.kinds ++ [.named ⟨"app", "Ring", some (.ofIndex 20), []⟩,
    .named ⟨"app", "Back", some (.ofIndex 19), []⟩,
    .named ⟨"app", "Node", some (.ofIndex 23), []⟩, .pointer (.ofIndex 21),
    .struct [⟨"Next", .ofIndex 22, none, false⟩, ⟨"Ring", .ofIndex 19, none, false⟩,
      ⟨"Visit", .ofIndex 26, none, false⟩, ⟨"Done", .ofIndex 24, none, false⟩],
    .chan (TypeTable.basic .int), .slice (.ofIndex 21), .signature ⟨[.ofIndex 25], [], true⟩,
    .map (.ofIndex 28) (.ofIndex 29)]⟩

/-- What is added: a name for nodes, one for a name still to come, and a text. -/
def additions : List TypeKind :=
  [.named ⟨"app", "Alias", some (.ofIndex 21), []⟩, .named ⟨"app", "Later", some (.ofIndex 30), []⟩,
    .basic .string]

/-- The struct of a node and a type in the circle mean what they meant. -/
theorem openTable_sameMeaning :
    openTable.Complete (.ofIndex 23) ∧ openTable.Complete (.ofIndex 19) ∧
      openTable.SameMeaning (additions.foldl add openTable) (.ofIndex 23) ∧
      openTable.SameMeaning (additions.foldl add openTable) (.ofIndex 19) ∧
      (additions.foldl add openTable).identical (.ofIndex 23) (.ofIndex 19) =
        openTable.identical (.ofIndex 23) (.ofIndex 19) := by
  let types : List TypeId :=
    [TypeTable.basic .int, .ofIndex 19, .ofIndex 20, .ofIndex 21, .ofIndex 22, .ofIndex 23,
      .ofIndex 24, .ofIndex 25, .ofIndex 26]
  have hlisted : ∀ a ∈ types, a.index < openTable.size ∧
      ∀ x ∈ openTable.get? a, ∀ c ∈ x.references, c ∈ types := by decide +kernel
  have hnode : openTable.Complete (.ofIndex 23) := complete_of_mem hlisted (by decide)
  have hring : openTable.Complete (.ofIndex 19) := complete_of_mem hlisted (by decide)
  exact ⟨hnode, hring, sameMeaning_of_complete openTable additions hnode hring⟩

/-- The entry at the end is not complete. It does not mean what it meant. -/
example :
    openTable.render (.ofIndex 27) = "map[invalid type]invalid type" ∧
      (additions.foldl add openTable).render (.ofIndex 27) = "map[app.Alias]app.Later" := by
  decide +kernel

end TypeTable

end BindingAudit
