/-
# Transportability is reachability

A type cannot be transported exactly when an offending type can be reached from it. The edges of
the graph are those of the shapes: a pointer, a sequence or an array leads to its element, a map
to its key and its value, a struct to the type of each of its fields. A type offends by itself
when its shape cannot be encoded, or when it is a struct with a field that is lost.

The walk stops at types that are on its path already. That hides nothing: a way to an offending
type that comes back to where it started can be cut short to one that does not.

* `reflTransGen_leaving` : a way that ends elsewhere leaves its start for good;
* `exposed_iff` : what the walk looks for below a type, said of its parts;
* `isSome_violationFrom?` : the walk finds a violation exactly when there is one off its path;
* `exists_violation?_iff_reaches` : the verdict on a type of any table.

No assumption is made on the table. Types may be circular, dangling or malformed, and the walk
still ends (`wellFounded_looksInto`): with each step there is one entry less to put on the path.
-/
import Mathlib.Logic.Relation
import BindingAudit.Binding.Transport

namespace BindingAudit

open Relation

/-! ## Ways that do not come back -/

/-- A way from `a` to somewhere else leaves `a` once and never returns. -/
theorem reflTransGen_leaving {α : Type} {r : α → α → Prop} {a b : α} (h : ReflTransGen r a b) :
    a = b ∨ ∃ c, r a c ∧ c ≠ a ∧ ReflTransGen (fun x y => r x y ∧ y ≠ a) c b := by
  induction h with
  | refl => exact .inl rfl
  | @tail b c _ hbc ih =>
    by_cases hca : c = a
    · exact .inl hca.symm
    · rcases ih with rfl | ⟨d, had, hda, hdb⟩
      · exact .inr ⟨c, hbc, hca, .refl⟩
      · exact .inr ⟨d, had, hda, hdb.tail ⟨hbc, hca⟩⟩

/-! ## The graph of parts -/

/-- The types that a shape refers to. -/
def Shape.parts : Shape → List TypeId
  | .pointer elem | .sequence elem | .array elem _ => [elem]
  | .mapping key value => [key, value]
  | .struct fields => fields.map Field.ty
  | .basic _ | .interface | .codec | .unknown | .unsupported _ => []

namespace Transport

variable (types : TypeTable) (conventions : Conventions)

/-- `part` is a part of the type `id`. -/
def HasPart (id part : TypeId) : Prop := part ∈ (shapeOf types conventions id).parts

/-- `target` can be reached from the type `id` through parts. -/
def Reaches (id target : TypeId) : Prop := ReflTransGen (HasPart types conventions) id target

/-- A field that does not survive: it is tagged out, or it is not exported and has no tag value
or an empty one. -/
def FieldLost (f : Field) : Prop :=
  f.tagValue conventions.skipTagKey = some conventions.skipTagValue ∨
    f.isExported = false ∧
      (f.tagValue conventions.skipTagKey = none ∨ f.tagValue conventions.skipTagKey = some "")

/-- A shape that cannot be encoded intact, whatever its parts are. -/
def ShapeOffends : Shape → Prop
  | .unsupported _ => True
  | .basic kind => kind = .unsafePointer
  | .struct fields => ∃ f ∈ fields, FieldLost conventions f
  | .pointer _ | .sequence _ | .array _ _ | .mapping _ _ => False
  | .interface | .codec | .unknown => False

/-- A type that cannot be transported for what it is itself. -/
def Offending (id : TypeId) : Prop := ShapeOffends conventions (shapeOf types conventions id)

/-- The obstacles of a field are the two ways to be lost. -/
theorem isSome_fieldObstacle? (f : Field) :
    (fieldObstacle? conventions f).isSome = true ↔ FieldLost conventions f := by
  unfold fieldObstacle? FieldLost
  by_cases hskip : f.tagValue conventions.skipTagKey = some conventions.skipTagValue
  · simp [hskip]
  · rw [if_neg hskip]
    cases htag : f.tagValue conventions.skipTagKey with
    | none => cases f.isExported <;> simp
    | some value =>
      have hvalue : value ≠ conventions.skipTagValue := by simpa [htag] using hskip
      cases f.isExported <;> simp [hvalue]

/-! ## Violations off a path -/

/-- An offending type can be reached from `id` without touching the types in `visiting`. -/
def Exposed (visiting : List TypeId) (id : TypeId) : Prop :=
  id ∉ visiting ∧ ∃ target,
    ReflTransGen (fun a b => HasPart types conventions a b ∧ b ∉ visiting) id target ∧
      Offending types conventions target

/-- A violation is exposed below a new type when the type offends itself, or when one is exposed
below a part of it by a way that does not come back to it. -/
theorem exposed_iff {visiting : List TypeId} {id : TypeId} {shape : Shape}
    (hnew : id ∉ visiting) (hshape : shapeOf types conventions id = shape) :
    Exposed types conventions visiting id ↔
      ShapeOffends conventions shape ∨
        ∃ part ∈ shape.parts, Exposed types conventions (id :: visiting) part := by
  subst hshape
  constructor
  · rintro ⟨-, target, hway, hoff⟩
    rcases reflTransGen_leaving hway with rfl | ⟨part, ⟨hpart, hnp⟩, hne, hrest⟩
    · exact .inl hoff
    -- the way into the part never comes back to `id`, so `id` may be put on the path
    · refine .inr ⟨part, hpart, by simp [hne, hnp], target, ?_, hoff⟩
      refine ReflTransGen.mono ?_ _ _ hrest
      rintro a b ⟨⟨hab, hb⟩, hbid⟩
      exact ⟨hab, by simp [hb, hbid]⟩
  · rintro (hoff | ⟨part, hpart, hnp, target, hway, hoff⟩)
    · exact ⟨hnew, id, .refl, hoff⟩
    · rw [List.mem_cons, not_or] at hnp
      refine ⟨hnew, target, .head ⟨hpart, hnp.2⟩ ?_, hoff⟩
      refine ReflTransGen.mono ?_ _ _ hway
      rintro a b ⟨hab, hb⟩
      rw [List.mem_cons, not_or] at hb
      exact ⟨hab, hb.2⟩

/-- Without a path to keep off, an exposed violation is one that can be reached. -/
theorem exposed_nil_iff (id : TypeId) :
    Exposed types conventions [] id ↔
      ∃ target, Reaches types conventions id target ∧ Offending types conventions target := by
  simp [Exposed, Reaches]

/-! ## What the walk finds -/

/-- **The cut at types on the path hides nothing.** The walk finds a violation below a type exactly
when one is exposed there. -/
theorem isSome_violationFrom? (visiting : List TypeId) (path : List String) (id : TypeId) :
    (violationFrom? types conventions visiting path id).isSome = true ↔
      Exposed types conventions visiting id := by
  -- one case for each branch of the walk, with the hypotheses for the parts it looks into
  fun_induction violationFrom? types conventions visiting path id with
  | case1 visiting path id hin => simp [Exposed, hin]
  | case2 visiting path id hnew hshape | case3 visiting path id hnew kind hshape =>
    simp [exposed_iff types conventions hnew hshape, ShapeOffends]
  | case4 visiting path id hnew elem hshape ih
  | case5 visiting path id hnew elem hshape ih
  | case6 visiting path id hnew elem len hshape ih =>
    simp [exposed_iff types conventions hnew hshape, ShapeOffends, Shape.parts, ih]
  | case7 visiting path id hnew key value hshape v hv ih =>
    have hkey : Exposed types conventions (id :: visiting) key := ih.1 (by rw [hv]; rfl)
    simp [exposed_iff types conventions hnew hshape, Shape.parts, hkey]
  -- the value is looked into only after a key in which nothing is exposed
  | case8 visiting path id hnew key value hshape hnone ihkey ihvalue =>
    have hkey : ¬ Exposed types conventions (id :: visiting) key := by
      rw [← ihkey, hnone]
      simp
    simp [exposed_iff types conventions hnew hshape, ShapeOffends, Shape.parts, hkey, ihvalue]
  | case9 visiting path id hnew fields hshape ih =>
    rw [exposed_iff types conventions hnew hshape, List.findSome?_isSome_iff]
    constructor
    · rintro ⟨f, hf, hsome⟩
      cases hobstacle : fieldObstacle? conventions f with
      | some obstacle =>
        have hlost := (isSome_fieldObstacle? conventions f).1 (by rw [hobstacle]; rfl)
        exact .inl ⟨f, hf, hlost⟩
      | none =>
        rw [hobstacle] at hsome
        exact .inr ⟨f.ty, List.mem_map_of_mem hf, (ih f).1 hsome⟩
    -- a field before `f` may be reported instead; that there is a violation does not change
    · rintro (⟨f, hf, hlost⟩ | ⟨_, hpart, hexposed⟩)
      · have hsome := (isSome_fieldObstacle? conventions f).2 hlost
        obtain ⟨obstacle, hobstacle⟩ := Option.isSome_iff_exists.1 hsome
        exact ⟨f, hf, by rw [hobstacle]; rfl⟩
      · obtain ⟨f, hf, rfl⟩ := List.mem_map.1 hpart
        refine ⟨f, hf, ?_⟩
        cases fieldObstacle? conventions f with
        | some obstacle => rfl
        | none => exact (ih f).2 hexposed
  | case10 visiting path id hnew kind hkind hshape =>
    simpa [exposed_iff types conventions hnew hshape, ShapeOffends, Shape.parts] using hkind
  | case11 visiting path id hnew hshape
  | case12 visiting path id hnew hshape
  | case13 visiting path id hnew hshape =>
    simp [exposed_iff types conventions hnew hshape, ShapeOffends, Shape.parts]

/-! ## The walk ends -/

/-- One step of the walk: from a type, with the types above it, into a part of it. -/
def LooksInto (inner outer : List TypeId × TypeId) : Prop :=
  outer.2 ∉ outer.1 ∧ inner.1 = outer.2 :: outer.1 ∧ HasPart types conventions outer.2 inner.2

/-- **The walk ends on every table.** A type with a part is an entry of the table, and each step
puts one more entry on the path. -/
theorem wellFounded_looksInto : WellFounded (LooksInto types conventions) := by
  have hstep : ∀ inner outer, LooksInto types conventions inner outer →
      fresh types inner.1 < fresh types outer.1 := by
    rintro ⟨_, part⟩ ⟨visiting, id⟩ ⟨hnew, rfl, hpart⟩
    refine fresh_cons_lt (index_lt_of_shape conventions.encodesItself ?_) hnew
    -- what is not in the table has the unknown shape, and that has no parts
    intro hunknown
    rw [HasPart, shapeOf, hunknown] at hpart
    cases hpart
  exact Subrelation.wf (hstep _ _) (measure fun s : List TypeId × TypeId => fresh types s.1).wf

/-- **Exactness of the verdict.** On every table the walk ends, and it finds a violation in a type
exactly when an offending type can be reached from it. -/
theorem exists_violation?_iff_reaches (id : TypeId) :
    WellFounded (LooksInto types conventions) ∧
      ((∃ v, violation? types conventions id = some v) ↔
        ∃ target, Reaches types conventions id target ∧ Offending types conventions target) := by
  refine ⟨wellFounded_looksInto types conventions, ?_⟩
  rw [← exposed_nil_iff, ← isSome_violationFrom? types conventions [] [] id,
    Option.isSome_iff_exists]
  rfl

end Transport

end BindingAudit
