/-
# A violation tells where it is

The path of a violation lists the fields that lead from a type to the spot that is blamed. This
module shows that there is such a spot. A route goes from type to part, through elements, keys,
values and fields that survive; it lists the types that it visits and the names of the fields that
it passes. For every violation there is a route without repetition that passes the fields of its
path and ends at the blamed type, or at the struct that holds the blamed field.

* `Route` : ways through the parts of types, with what is visited and passed on them;
* `Explains` : what the type at the end of a route must be for a violation to be right;
* `Traced.into` : a route into a part is one step longer than a route from the part;
* `traced_of_violationFrom?` : whatever the walk finds below a path can be traced from there;
* `violation?_traced` : the same for the violation of a type, from the type on.
-/
import Mathlib.Data.List.Nodup
import BindingAudit.Proofs.TransportExactness

namespace BindingAudit

namespace Transport

variable (types : TypeTable) (conventions : Conventions)

/-! ## Routes -/

/-- One step of a route, from a type into a part of it. A step into the type of a field passes the
field by its name, and only a field that is not lost can be passed. -/
inductive StepsInto (id : TypeId) : Option String → TypeId → Prop where
  | pointer {elem : TypeId} (shape : shapeOf types conventions id = .pointer elem) :
      StepsInto id none elem
  | sequence {elem : TypeId} (shape : shapeOf types conventions id = .sequence elem) :
      StepsInto id none elem
  | array {elem : TypeId} {len : UInt64} (shape : shapeOf types conventions id = .array elem len) :
      StepsInto id none elem
  | key {key value : TypeId} (shape : shapeOf types conventions id = .mapping key value) :
      StepsInto id none key
  | value {key value : TypeId} (shape : shapeOf types conventions id = .mapping key value) :
      StepsInto id none value
  | field {fields : List Field} {f : Field} (shape : shapeOf types conventions id = .struct fields)
      (listed : f ∈ fields) (kept : ¬ FieldLost conventions f) : StepsInto id (some f.name) f.ty

/-- `Route id visited names target` : a route from `id` to `target` that visits the types `visited`,
both ends included, and passes the fields `names`, each in order. -/
inductive Route : TypeId → List TypeId → List String → TypeId → Prop where
  | here (id : TypeId) : Route id [id] [] id
  | step {id part target : TypeId} {name : Option String} {visited : List TypeId}
      {names : List String} (first : StepsInto types conventions id name part)
      (rest : Route part visited names target) :
      Route id (id :: visited) (name.toList ++ names) target

/-! ## Violations at the end of a route -/

/-- The field `f` of the struct `target` is where the path of a violation ends, behind the fields
`names`, and its type is the one that the violation shows. -/
structure BlamesField (names : List String) (target : TypeId) (v : Violation) (f : Field) :
    Prop where
  listed : ∃ fields, shapeOf types conventions target = .struct fields ∧ f ∈ fields
  path : v.path = names ++ [f.name]
  typeText : v.typeText = types.render f.ty

/-- **What a violation says is true** of the type `target`, reached through the fields `names`. A
type that cannot be encoded is blamed itself. A field that is lost is blamed by its name, and the
obstacle says in which of the two ways it is lost. -/
def Explains (names : List String) (target : TypeId) (v : Violation) : Prop :=
  match v.obstacle with
  | .unsupported kind =>
      v.path = names ∧ v.typeText = types.render target ∧
        (shapeOf types conventions target = .unsupported kind ∨
          kind = .unsafePointer ∧ shapeOf types conventions target = .basic .unsafePointer)
  | .skippedByTag key value =>
      key = conventions.skipTagKey ∧ value = conventions.skipTagValue ∧
        ∃ f, BlamesField types conventions names target v f ∧ f.tagValue key = some value
  | .unexported =>
      ∃ f, BlamesField types conventions names target v f ∧
        f.tagValue conventions.skipTagKey ≠ some conventions.skipTagValue ∧
        (f.tagValue conventions.skipTagKey = none ∨ f.tagValue conventions.skipTagKey = some "") ∧
        f.isExported = false

/-- The obstacle of a field is true of the struct that lists the field. -/
theorem explains_of_fieldObstacle? {names : List String} {target : TypeId} {fields : List Field}
    {f : Field} {obstacle : TransportObstacle}
    (hshape : shapeOf types conventions target = .struct fields) (hf : f ∈ fields)
    (hobstacle : fieldObstacle? conventions f = some obstacle) :
    Explains types conventions names target
      ⟨names ++ [f.name], types.render f.ty, obstacle⟩ := by
  have hblames : BlamesField types conventions names target
      ⟨names ++ [f.name], types.render f.ty, obstacle⟩ f := ⟨⟨fields, hshape, hf⟩, rfl, rfl⟩
  unfold fieldObstacle? at hobstacle
  by_cases hskip : f.tagValue conventions.skipTagKey = some conventions.skipTagValue
  · rw [if_pos hskip, Option.some.injEq] at hobstacle
    subst hobstacle
    exact ⟨rfl, rfl, f, hblames, hskip⟩
  · simp only [if_neg hskip, Option.ite_none_right_eq_some, Bool.and_eq_true, Bool.not_eq_true',
      Option.some.injEq] at hobstacle
    obtain ⟨⟨hempty, hunexported⟩, rfl⟩ := hobstacle
    have htag : f.tagValue conventions.skipTagKey = none ∨
        f.tagValue conventions.skipTagKey = some "" := by
      cases htag : f.tagValue conventions.skipTagKey with
      | none => exact .inl rfl
      | some value =>
        rw [htag, Option.all_some, beq_iff_eq] at hempty
        exact .inr (by rw [hempty])
    exact ⟨f, hblames, hskip, htag, hunexported⟩

/-! ## Violations that can be traced -/

/-- A violation that was found in `id`, below the fields `path` and the types `visiting`, can be
traced: a route from `id` visits no type twice and none of those above it, and at its end the
violation is true. -/
def Traced (visiting : List TypeId) (path : List String) (id : TypeId) (v : Violation) : Prop :=
  ∃ visited names target, Route types conventions id visited names target ∧ visited.Nodup ∧
    visited.Disjoint visiting ∧ Explains types conventions (path ++ names) target v

variable {types conventions}

/-- What is true of a type itself is traced by the route that does not move. -/
theorem Traced.here {visiting : List TypeId} {path : List String} {id : TypeId} {v : Violation}
    (hnew : id ∉ visiting) (h : Explains types conventions path id v) :
    Traced types conventions visiting path id v := by
  refine ⟨[id], [], id, .here id, List.nodup_singleton id, ?_, ?_⟩
  · exact List.singleton_disjoint.2 hnew
  · rwa [List.append_nil]

/-- **One step.** A violation that can be traced from a part, with its type on the path, can be
traced from the type. The route from the part keeps off the type, so it may be put in front. -/
theorem Traced.into {visiting : List TypeId} {path : List String} {id part : TypeId}
    {name : Option String} {v : Violation} (hnew : id ∉ visiting)
    (hstep : StepsInto types conventions id name part)
    (h : Traced types conventions (id :: visiting) (path ++ name.toList) part v) :
    Traced types conventions visiting path id v := by
  obtain ⟨visited, names, target, hroute, hnodup, hdisjoint, hexplains⟩ := h
  obtain ⟨hid, hvisiting⟩ := List.disjoint_cons_right.1 hdisjoint
  refine ⟨id :: visited, name.toList ++ names, target, .step hstep hroute, ?_, ?_, ?_⟩
  · exact List.nodup_cons.2 ⟨hid, hnodup⟩
  · exact List.disjoint_cons_left.2 ⟨hnew, hvisiting⟩
  · rwa [← List.append_assoc]

/-- A step into an element, a key or a value passes no field. -/
theorem Traced.intoPart {visiting : List TypeId} {path : List String} {id part : TypeId}
    {v : Violation} (hnew : id ∉ visiting) (hstep : StepsInto types conventions id none part)
    (h : Traced types conventions (id :: visiting) path part v) :
    Traced types conventions visiting path id v := by
  apply Traced.into hnew hstep
  rwa [Option.toList_none, List.append_nil]

/-- **Every violation that the walk finds can be traced**, from the type where the walk stands and
along the fields that it has passed so far. -/
theorem traced_of_violationFrom? {visiting : List TypeId} {path : List String} {id : TypeId}
    {v : Violation} (h : violationFrom? types conventions visiting path id = some v) :
    Traced types conventions visiting path id v := by
  -- one case for each branch of the walk; the violation is the same all the way up
  fun_induction violationFrom? types conventions visiting path id with
  | case1 visiting path id hin => cases h
  | case2 visiting path id hnew hshape =>
    cases h
    exact .here hnew ⟨rfl, rfl, .inr ⟨rfl, hshape⟩⟩
  | case3 visiting path id hnew kind hshape =>
    cases h
    exact .here hnew ⟨rfl, rfl, .inl hshape⟩
  | case4 visiting path id hnew elem hshape ih =>
    exact .intoPart hnew (.pointer hshape) (ih h)
  | case5 visiting path id hnew elem hshape ih =>
    exact .intoPart hnew (.sequence hshape) (ih h)
  | case6 visiting path id hnew elem len hshape ih =>
    exact .intoPart hnew (.array hshape) (ih h)
  | case7 visiting path id hnew key value hshape w hw ih =>
    cases h
    exact .intoPart hnew (.key hshape) (ih hw)
  | case8 visiting path id hnew key value hshape hnone ihkey ihvalue =>
    exact .intoPart hnew (.value hshape) (ihvalue h)
  | case9 visiting path id hnew fields hshape ih =>
    obtain ⟨f, hf, hfound⟩ := List.exists_of_findSome?_eq_some h
    cases hobstacle : fieldObstacle? conventions f with
    | some obstacle =>
      simp only [hobstacle, Option.some.injEq] at hfound
      subst hfound
      exact .here hnew (explains_of_fieldObstacle? types conventions hshape hf hobstacle)
    -- a field without an obstacle is not lost, so the route may pass it
    | none =>
      simp only [hobstacle] at hfound
      have hkept : ¬ FieldLost conventions f := by
        rw [← isSome_fieldObstacle?, hobstacle]
        simp
      exact .into hnew (.field hshape hf hkept) (ih f hfound)
  | case10 | case11 | case12 | case13 => cases h

/-- **A violation is real, and its path leads to it.** If a type of any table cannot be transported,
a route from it visits no type twice and passes exactly the fields of the reported path, except for
a blamed field at its end; and what is reported is true of the type where the route ends. -/
theorem violation?_traced {id : TypeId} {v : Violation}
    (h : violation? types conventions id = some v) :
    ∃ visited names target, Route types conventions id visited names target ∧ visited.Nodup ∧
      Explains types conventions names target v := by
  obtain ⟨visited, names, target, hroute, hnodup, -, hexplains⟩ := traced_of_violationFrom? h
  rw [List.nil_append] at hexplains
  exact ⟨visited, names, target, hroute, hnodup, hexplains⟩

/-- Nodes with a title, a link to the next node and notes by name, each note with a field that is
not exported and has an empty tag value. The titles are looked into before, and the links run in a
circle. -/
def linkedNotes : TypeTable :=
  (((((TypeTable.predeclared.add (.named ⟨"app", "Node", some (.ofIndex 24), []⟩)).add
    (.pointer (.ofIndex 19))).add
    (.struct [⟨"Text", TypeTable.basic .string, none, false⟩])).add
    (.struct [⟨"hidden", TypeTable.basic .string, some "json:\"\"", false⟩])).add
    (.map (TypeTable.basic .string) (.ofIndex 22))).add
    (.struct [⟨"Title", .ofIndex 21, none, false⟩, ⟨"Next", .ofIndex 20, none, false⟩,
      ⟨"Notes", .ofIndex 23, none, false⟩])

/-- The hidden field is reported below the notes, not below the titles or links before them. -/
theorem linkedNotes_traced :
    violation? linkedNotes .temporal (.ofIndex 20) =
        some ⟨["Notes", "hidden"], "string", .unexported⟩ ∧
      ∃ visited names target, Route linkedNotes .temporal (.ofIndex 20) visited names target ∧
        visited.Nodup ∧ Explains linkedNotes .temporal names target
          ⟨["Notes", "hidden"], "string", .unexported⟩ := by
  have hfound : violation? linkedNotes .temporal (.ofIndex 20) =
      some ⟨["Notes", "hidden"], "string", .unexported⟩ := by decide +kernel
  exact ⟨hfound, violation?_traced hfound⟩

end Transport

end BindingAudit
