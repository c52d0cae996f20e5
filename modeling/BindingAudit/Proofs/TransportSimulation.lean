/-
# Types that the transportability check cannot tell apart

Whether a type can be transported depends only on what can be reached from it. Where a relation
between types keeps what a shape is and where it leads, types that are related are therefore
transportable both or not at all, even if the check blames different spots in them. Two such
relations are studied here. Fields of structs may be listed in another order anywhere in the table.
And types that are identical may be different entries of the table.

* `Simulates` : a relation that carries offending shapes and parts from one table to another;
* `Simulates.reaches` : what can be reached is carried along;
* `isTransportable_congr` : a relation that simulates in both directions keeps the verdict;
* `isTransportable_fieldsReordered` : the order of fields does not matter;
* `isTransportable_identical` : nor does it matter which of two identical types is looked at.
-/
import BindingAudit.Proofs.IdenticalArguments
import BindingAudit.Proofs.TransportExactness

namespace BindingAudit

open Relation

/-- Every member of a list is related to some member of a list that is related to it. -/
theorem exists_mem_of_forall₂ {α β : Type} {R : α → β → Prop} {l : List α} {m : List β}
    (h : List.Forall₂ R l m) {a : α} (ha : a ∈ l) : ∃ b ∈ m, R a b := by
  induction h with
  | nil => cases ha
  | @cons c d l m hcd _ ih =>
    rcases List.mem_cons.1 ha with rfl | ha
    · exact ⟨d, List.mem_cons_self, hcd⟩
    · obtain ⟨b, hb, hab⟩ := ih ha
      exact ⟨b, List.mem_cons_of_mem d hb, hab⟩

/-! ## Simulation -/

namespace Transport

variable {conventions : Conventions} {types types' : TypeTable} {R : TypeId → TypeId → Prop}
  {a b : TypeId}

/-- The verdict on a type: nothing that can be reached from it offends. -/
theorem isTransportable_iff (types : TypeTable) (conventions : Conventions) (id : TypeId) :
    isTransportable types conventions id = true ↔
      ∀ target, Reaches types conventions id target → ¬ Offending types conventions target := by
  have hfound := isSome_violationFrom? types conventions [] [] id
  rw [exposed_nil_iff] at hfound
  rw [isTransportable, violation?, Option.isNone_iff_eq_none, ← Option.not_isSome_iff_eq_none,
    hfound]
  simp only [not_exists, not_and]

/-- The shape `s'` answers the shape `s`: it offends if `s` does, and to each part of `s` some part
of it is related. -/
structure Answers (conventions : Conventions) (R : TypeId → TypeId → Prop) (s s' : Shape) :
    Prop where
  offends : ShapeOffends conventions s → ShapeOffends conventions s'
  parts : ∀ c ∈ s.parts, ∃ d ∈ s'.parts, R c d

/-- A shape answers itself if each of its parts is related to itself. -/
theorem Answers.refl {s : Shape} (hR : ∀ c ∈ s.parts, R c c) : Answers conventions R s s :=
  ⟨id, fun c hc => ⟨c, hc, hR c hc⟩⟩

/-- A relation between the types of two tables is a simulation if the shape of a type is answered
by that of each type that it is related to. -/
def Simulates (conventions : Conventions) (types types' : TypeTable)
    (R : TypeId → TypeId → Prop) : Prop :=
  ∀ a b, R a b → Answers conventions R (shapeOf types conventions a) (shapeOf types' conventions b)

/-- Step by step, what is reached from a type is related to something that is reached from a
related type. -/
theorem Simulates.reaches (h : Simulates conventions types types' R) (hab : R a b)
    {target : TypeId} (hreaches : Reaches types conventions a target) :
    ∃ target', Reaches types' conventions b target' ∧ R target target' := by
  unfold Reaches at hreaches
  induction hreaches with
  | refl => exact ⟨b, .refl, hab⟩
  | @tail c d _ hcd ih =>
    obtain ⟨c', hbc', hcc'⟩ := ih
    obtain ⟨d', hd', hdd'⟩ := (h c c' hcc').parts d hcd
    exact ⟨d', hbc'.tail hd', hdd'⟩

/-- A type is transportable if one that simulates it is. -/
theorem Simulates.isTransportable (h : Simulates conventions types types' R) (hab : R a b)
    (hb : isTransportable types' conventions b = true) :
    isTransportable types conventions a = true := by
  rw [isTransportable_iff] at hb ⊢
  intro target hreaches hoffends
  obtain ⟨target', hreaches', hrelated⟩ := h.reaches hab hreaches
  exact hb target' hreaches' ((h target target' hrelated).offends hoffends)

/-- **Types that simulate each other have the same verdict.** -/
theorem isTransportable_congr {S : TypeId → TypeId → Prop}
    (forth : Simulates conventions types types' R) (hab : R a b)
    (back : Simulates conventions types' types S) (hba : S b a) :
    isTransportable types conventions a = isTransportable types' conventions b := by
  rw [Bool.eq_iff_iff]
  exact ⟨back.isTransportable hba, forth.isTransportable hab⟩

end Transport

/-! ## The order of fields -/

/-- Two kinds that are the same up to the order in which a struct lists its fields. -/
inductive TypeKind.FieldsReordered : TypeKind → TypeKind → Prop where
  | same (x : TypeKind) : FieldsReordered x x
  | struct {fs gs : List Field} (perm : fs.Perm gs) : FieldsReordered (.struct fs) (.struct gs)

/-- Two tables with the same entries up to the order of fields, in any number of structs. -/
def TypeTable.FieldsReordered (t t' : TypeTable) : Prop :=
  List.Forall₂ TypeKind.FieldsReordered t.kinds t'.kinds

namespace TypeTable.FieldsReordered

variable {t t' : TypeTable}

theorem refl (t : TypeTable) : t.FieldsReordered t :=
  List.forall₂_same.2 fun x _ => .same x

theorem add {x y : TypeKind} (h : t.FieldsReordered t') (hxy : x.FieldsReordered y) :
    (t.add x).FieldsReordered (t'.add y) :=
  List.rel_append h (.cons hxy .nil)

theorem symm (h : t.FieldsReordered t') : t'.FieldsReordered t := by
  refine (List.Forall₂.imp ?_ h).flip
  intro x y hxy
  cases hxy with
  | same => exact .same x
  | struct perm => exact .struct perm.symm

variable (h : t.FieldsReordered t')
include h

theorem rel_get? (id : TypeId) :
    Option.Rel TypeKind.FieldsReordered (t.get? id) (t'.get? id) :=
  rel_getElem? h id.index

/-- Named types are as they were. -/
theorem named?_eq (id : TypeId) : t.named? id = t'.named? id := by
  have hentry := h.rel_get? id
  unfold named?
  generalize t.get? id = x, t'.get? id = y at hentry
  cases hentry with
  | none => rfl
  | some hxy => cases hxy <;> rfl

/-- The links from named types to their underlying types are as they were. -/
theorem underlyingWithin_eq (steps : Nat) (id : TypeId) :
    t.underlyingWithin steps id = t'.underlyingWithin steps id := by
  induction steps generalizing id with
  | zero => rfl
  | succ steps ih =>
    have hentry := h.rel_get? id
    unfold underlyingWithin
    generalize t.get? id = x, t'.get? id = y at hentry
    cases hentry with
    | none => rfl
    | some hxy =>
      cases hxy with
      | struct perm => rfl
      | same =>
        rename_i x
        cases x with
        | named n => exact congrArg n.underlying.bind (funext ih)
        | _ => rfl

theorem rel_underlyingEntry (id : TypeId) :
    Option.Rel TypeKind.FieldsReordered (t.underlyingEntry id) (t'.underlyingEntry id) := by
  have hsize : t.size = t'.size := h.length_eq
  unfold underlyingEntry underlying
  rw [hsize, h.underlyingWithin_eq]
  cases t'.underlyingWithin (t'.size + 1) id with
  | none => exact .none
  | some u => exact h.rel_get? u

/-- Shapes are as they were, up to the order of fields. -/
theorem shape_cases (codec : String → Bool) (id : TypeId) :
    t.shape codec id = t'.shape codec id ∨
      ∃ fs gs, t.shape codec id = .struct fs ∧ t'.shape codec id = .struct gs ∧ fs.Perm gs := by
  have hentry := h.rel_underlyingEntry id
  unfold shape
  rw [h.named?_eq]
  split
  · exact .inl rfl
  · generalize t.underlyingEntry id = x, t'.underlyingEntry id = y at hentry
    cases hentry with
    | none => exact .inl rfl
    | some hxy =>
      cases hxy with
      | same => exact .inl rfl
      | struct perm => exact .inr ⟨_, _, rfl, rfl, perm⟩

end TypeTable.FieldsReordered

namespace Transport

variable {conventions : Conventions} {types types' : TypeTable} {R : TypeId → TypeId → Prop}
  {a b : TypeId}

/-- A struct answers one that lists the same fields in another order. -/
theorem answers_of_perm {fs gs : List Field} (h : fs.Perm gs) :
    Answers conventions Eq (.struct fs) (.struct gs) := by
  constructor
  · rintro ⟨f, hf, hlost⟩
    exact ⟨f, h.mem_iff.1 hf, hlost⟩
  · intro c hc
    have hc' : c ∈ gs.map Field.ty := (h.map Field.ty).mem_iff.1 hc
    exact ⟨c, hc', rfl⟩

/-- Types simulate themselves in a table where fields are reordered. -/
theorem simulates_of_fieldsReordered (h : types.FieldsReordered types') :
    Simulates conventions types types' Eq := by
  rintro a _ rfl
  unfold shapeOf
  rcases h.shape_cases conventions.encodesItself a with hsame | ⟨fs, gs, hfs, hgs, hperm⟩
  · rw [hsame]
    exact .refl fun _ _ => rfl
  · rw [hfs, hgs]
    exact answers_of_perm hperm

/-- **The order of fields does not matter.** If the fields of any structs of a table are listed in
another order, the same types can be transported as before. -/
theorem isTransportable_fieldsReordered (h : types.FieldsReordered types')
    (conventions : Conventions) (id : TypeId) :
    isTransportable types conventions id = isTransportable types' conventions id := by
  have forth : Simulates conventions types types' Eq := simulates_of_fieldsReordered h
  have back : Simulates conventions types' types Eq := simulates_of_fieldsReordered h.symm
  exact isTransportable_congr forth rfl back rfl

/-- Nodes that link to each other in a circle and hold a note, with the given fields of notes and
of nodes. -/
def ringOfNotes (note node : List Field) : TypeTable :=
  ((((TypeTable.predeclared.add (.named ⟨"app", "Node", some (.ofIndex 22), []⟩)).add
    (.pointer (.ofIndex 19))).add (.struct note)).add (.struct node)).add
    (.chan (TypeTable.basic .int))

/-- Notes with a channel and a field that is not exported, behind or before the link of a node. The
verdict is the same, though another field is blamed for it. -/
theorem ringOfNotes_isTransportable :
    let events : Field := ⟨"Events", .ofIndex 23, none, false⟩
    let secret : Field := ⟨"secret", TypeTable.basic .string, none, false⟩
    let next : Field := ⟨"Next", .ofIndex 20, none, false⟩
    let note : Field := ⟨"Note", .ofIndex 21, none, false⟩
    let first := ringOfNotes [events, secret] [next, note]
    let second := ringOfNotes [secret, events] [note, next]
    first.FieldsReordered second ∧
      (violation? first .temporal (.ofIndex 20)).map Violation.path = some ["Note", "Events"] ∧
      (violation? second .temporal (.ofIndex 20)).map Violation.path = some ["Note", "secret"] ∧
      isTransportable first .temporal (.ofIndex 20) =
        isTransportable second .temporal (.ofIndex 20) := by
  intro events secret next note first second
  have hreordered : first.FieldsReordered second :=
    (((TypeTable.FieldsReordered.refl _).add (.struct (.swap _ _ _))).add
      (.struct (.swap _ _ _))).add (.same _)
  exact ⟨hreordered, by decide +kernel, by decide +kernel,
    isTransportable_fieldsReordered hreordered .temporal (.ofIndex 20)⟩

/-! ## Identical types -/

/-- An unnamed type has the shape of its own entry. -/
theorem shapeOf_of_get? {x : TypeKind} (hx : types.get? a = some x)
    (hunnamed : x.outline?.isSome = true) : shapeOf types conventions a = x.shape := by
  have hname : types.named? a = none := by
    rw [TypeTable.named?, hx]
    cases x <;> simp_all [TypeKind.outline?]
  rw [shapeOf, TypeTable.shape, hname, TypeTable.underlyingEntry_of_get? hx hunnamed]
  rfl

/-- Whether a field is lost depends on its name and its tag, not on its type. -/
theorem fieldLost_congr {f g : Field} (h : f.label = g.label) :
    FieldLost conventions f ↔ FieldLost conventions g := by
  have hname : f.name = g.name := congrArg Prod.fst h
  have htag : f.tag = g.tag := congrArg (fun label => label.2.2) h
  simp only [FieldLost, Field.tagValue, Field.isExported, hname, htag]

/-- Kinds that agree in their parts have shapes that answer each other. -/
theorem answers_of_partsAgree {x y : TypeKind} (h : x.PartsAgree R y) :
    Answers conventions R x.shape y.shape := by
  cases h using TypeKind.PartsAgree.sorts with
  -- these shapes have no parts
  | basic _ _ | interface _ _ _ _ | signature _ _ _ _ _ _ | chan _ _ _ _ =>
    exact .refl fun c hc => absurd hc List.not_mem_nil
  | pointer c d _ hcd | slice c d _ hcd | array c d _ _ hcd =>
    refine ⟨id, ?_⟩
    intro e he
    rw [List.mem_singleton.1 he]
    exact ⟨d, List.mem_singleton_self d, hcd⟩
  | map k v l w _ hkl hvw =>
    refine ⟨id, ?_⟩
    intro e he
    rcases List.mem_pair.1 he with rfl | rfl
    · exact ⟨l, List.mem_pair.2 (.inl rfl), hkl⟩
    · exact ⟨w, List.mem_pair.2 (.inr rfl), hvw⟩
  | struct fs gs _ hlabels htypes =>
    refine ⟨?_, fun c hc => exists_mem_of_forall₂ htypes hc⟩
    rintro ⟨f, hf, hlost⟩
    -- the field in the same place has the same name and tag
    have hlabel : f.label ∈ gs.map Field.label := hlabels ▸ List.mem_map_of_mem hf
    obtain ⟨g, hg, hgf⟩ := List.mem_map.1 hlabel
    exact ⟨g, hg, (fieldLost_congr hgf).2 hlost⟩

/-- Identical types simulate each other: they are one entry, or unnamed ones whose components are
identical again. -/
theorem simulates_identical (types : TypeTable) (conventions : Conventions) :
    Simulates conventions types types types.Identical := by
  intro a b hab
  obtain rfl | ⟨x, y, hx, hy, hparts⟩ := types.identical_cases hab
  · exact .refl fun c _ => types.equivalence_identical.refl c
  · obtain ⟨o, hox, hoy⟩ := hparts.outline
    rw [shapeOf_of_get? hx (by rw [hox]; rfl), shapeOf_of_get? hy (by rw [hoy]; rfl)]
    exact answers_of_partsAgree hparts

/-- **Identical types are equally transportable**, whichever entries of the table they are and
whatever they share or run into. -/
theorem isTransportable_identical (h : types.identical a b = true) (conventions : Conventions) :
    isTransportable types conventions a = isTransportable types conventions b := by
  have hsimulates := simulates_identical types conventions
  have hba : types.Identical b a := types.equivalence_identical.symm h
  exact isTransportable_congr hsimulates h hsimulates hba

/-- Two entries for slices of pointers to nodes, which link to each other in a circle and have a
field that is not exported. The pointers have two entries as well, and one of them is the link. -/
def twiceListedNodes : TypeTable :=
  (((((TypeTable.predeclared.add (.named ⟨"app", "Node", some (.ofIndex 21), []⟩)).add
    (.pointer (.ofIndex 19))).add
    (.struct [⟨"Next", .ofIndex 20, none, false⟩,
      ⟨"secret", TypeTable.basic .string, none, false⟩])).add
    (.pointer (.ofIndex 19))).add (.slice (.ofIndex 20))).add (.slice (.ofIndex 22))

/-- Both slices are refused. -/
theorem twiceListedNodes_isTransportable :
    twiceListedNodes.identical (.ofIndex 23) (.ofIndex 24) = true ∧
      isTransportable twiceListedNodes .temporal (.ofIndex 23) = false ∧
      isTransportable twiceListedNodes .temporal (.ofIndex 23) =
        isTransportable twiceListedNodes .temporal (.ofIndex 24) := by
  have hidentical : twiceListedNodes.identical (.ofIndex 23) (.ofIndex 24) = true := by
    decide +kernel
  exact ⟨hidentical, by decide +kernel, isTransportable_identical hidentical .temporal⟩

end Transport

end BindingAudit
