/-
# Identity of types is an equivalence

Two types are identical when they are the same entry of the table, or when both are unnamed, look
alike from outside and have components that are identical in turn. The comparison stops below a
fixed number of levels, where only the same entry counts. It is an equivalence for every number of
levels, so the stop does not spoil that, whatever the table holds.

* `TypeKind.PartsAgree` : two unnamed kinds with one outline and components that are related;
* `TypeKind.alike_iff` : that is what the comparison of two kinds decides;
* `TypeTable.identicalWithin_succ_iff` : what one more level of comparison can tell;
* `TypeTable.identicalWithin_succ` : one more level keeps what was identical;
* `TypeTable.identical_equivalence` : identity is reflexive, symmetric and transitive.
-/
import Mathlib.Data.List.Forall2
import Mathlib.Data.Multiset.Defs
import BindingAudit.Program.TypeTable.Identity

namespace BindingAudit

/-! ## Related lists -/

/-- Relations between lists compose place by place. -/
theorem forall₂_trans {α β γ : Type} {R : α → β → Prop} {S : β → γ → Prop} {T : α → γ → Prop}
    (hT : ∀ a b c, R a b → S b c → T a c) {l : List α} {m : List β} {n : List γ}
    (h : List.Forall₂ R l m) (h' : List.Forall₂ S m n) : List.Forall₂ T l n := by
  induction h generalizing n with
  | nil =>
    cases h'
    exact .nil
  | cons hab _ ih =>
    cases h' with
    | cons hbc hrest => exact .cons (hT _ _ _ hab hbc) (ih hrest)

/-- Two lists in a row are related when their parts are, the first parts being equally long. -/
theorem forall₂_append_iff {α β : Type} {R : α → β → Prop} {l l' : List α} {m m' : List β}
    (hlength : l.length = m.length) :
    List.Forall₂ R (l ++ l') (m ++ m') ↔ List.Forall₂ R l m ∧ List.Forall₂ R l' m' := by
  induction l generalizing m with
  | nil =>
    cases m with
    | nil => simp
    | cons b m => simp at hlength
  | cons a l ih =>
    cases m with
    | nil => simp at hlength
    | cons b m =>
      simp only [List.cons_append, List.forall₂_cons, ih (Nat.succ.inj hlength), and_assoc]

/-! ## Outlines and components -/

/-- A field apart from its type: its name, whether it is embedded, and its raw tag. -/
def Field.label (f : Field) : String × Bool × Option String := (f.name, f.embedded, f.tag)

/-- An unnamed kind apart from its component types: the sort of type with its scalar parts, and
how many components each of its lists has. -/
inductive Outline where
  | basic (kind : Predeclared)
  | pointer
  | slice
  | array (len : UInt64)
  | map
  | struct (labels : List (String × Bool × Option String))
  /-- The order of the methods does not matter; how often each is listed does. -/
  | interface (methods : Multiset String)
  | signature (variadic : Bool) (params results : Nat)
  | chan

/-- The number of components that belong to an outline. -/
def Outline.arity : Outline → Nat
  | .basic _ | .interface _ => 0
  | .pointer | .slice | .array _ | .chan => 1
  | .map => 2
  | .struct labels => labels.length
  | .signature _ params results => params + results

namespace TypeKind

/-- The outline of an unnamed kind. -/
def outline? : TypeKind → Option Outline
  | .basic kind => some (.basic kind)
  | .named _ => none
  | .pointer _ => some .pointer
  | .slice _ => some .slice
  | .array _ len => some (.array len)
  | .map _ _ => some .map
  | .struct fields => some (.struct (fields.map Field.label))
  | .interface methods => some (.interface methods)
  | .signature s => some (.signature s.variadic s.params.length s.results.length)
  | .chan _ => some .chan

/-- The types that an unnamed kind is put together from, in order. -/
def components : TypeKind → List TypeId
  | .pointer elem | .slice elem | .array elem _ | .chan elem => [elem]
  | .map key value => [key, value]
  | .struct fields => fields.map Field.ty
  | .signature s => s.params ++ s.results
  | .basic _ | .named _ | .interface _ => []

/-- Two unnamed kinds that look alike from outside. -/
def SameOutline (x y : TypeKind) : Prop := ∃ o, x.outline? = some o ∧ y.outline? = some o

variable {R S T : TypeId → TypeId → Prop} {x y z : TypeKind}

theorem SameOutline.symm (h : SameOutline x y) : SameOutline y x := by
  obtain ⟨o, hx, hy⟩ := h
  exact ⟨o, hy, hx⟩

theorem SameOutline.trans (h : SameOutline x y) (h' : SameOutline y z) : SameOutline x z := by
  obtain ⟨o, hx, hy⟩ := h
  obtain ⟨o', hy', hz⟩ := h'
  have ho : o = o' := Option.some.inj (hy.symm.trans hy')
  exact ⟨o, hx, ho ▸ hz⟩

theorem sameOutline_iff {o o' : Outline} (hx : x.outline? = some o) (hy : y.outline? = some o') :
    SameOutline x y ↔ o = o' := by
  rw [SameOutline, hx, hy]
  simp [eq_comm]

/-- An outline tells how many components there are. -/
theorem length_components {o : Outline} (h : x.outline? = some o) :
    x.components.length = o.arity := by
  cases x <;> cases h <;> simp [components, Outline.arity]

theorem SameOutline.length_components (h : SameOutline x y) :
    x.components.length = y.components.length := by
  obtain ⟨o, hx, hy⟩ := h
  rw [TypeKind.length_components hx, TypeKind.length_components hy]

/-- Two unnamed kinds with one outline and components that are related in pairs. -/
structure PartsAgree (R : TypeId → TypeId → Prop) (x y : TypeKind) : Prop where
  outline : SameOutline x y
  components : List.Forall₂ R x.components y.components

theorem partsAgree_iff :
    PartsAgree R x y ↔ SameOutline x y ∧ List.Forall₂ R x.components y.components :=
  ⟨fun h => ⟨h.outline, h.components⟩, fun h => ⟨h.1, h.2⟩⟩

namespace PartsAgree

theorem imp (h : PartsAgree R x y) (hRS : ∀ c d, R c d → S c d) : PartsAgree S x y :=
  ⟨h.outline, h.components.imp hRS⟩

theorem symm (h : PartsAgree R x y) (hRS : ∀ c d, R c d → S d c) : PartsAgree S y x :=
  ⟨h.outline.symm, (h.components.imp hRS).flip⟩

theorem trans (h : PartsAgree R x y) (h' : PartsAgree S y z)
    (hT : ∀ c d e, R c d → S d e → T c e) : PartsAgree T x z :=
  ⟨h.outline.trans h'.outline, forall₂_trans hT h.components h'.components⟩

/-- **Sorts of kinds.** Kinds that agree in their parts are of one sort, and what is said of their
components can be said for each sort by itself. -/
@[elab_as_elim]
theorem sorts {motive : ∀ {x y : TypeKind}, PartsAgree R x y → Prop}
    (basic : ∀ b h, @motive (.basic b) (.basic b) h)
    (pointer : ∀ c d h, R c d → @motive (.pointer c) (.pointer d) h)
    (slice : ∀ c d h, R c d → @motive (.slice c) (.slice d) h)
    (array : ∀ c d len h, R c d → @motive (.array c len) (.array d len) h)
    (map : ∀ k v l w h, R k l → R v w → @motive (.map k v) (.map l w) h)
    (struct : ∀ fs gs h, fs.map Field.label = gs.map Field.label →
      List.Forall₂ R (fs.map Field.ty) (gs.map Field.ty) → @motive (.struct fs) (.struct gs) h)
    (interface : ∀ ms ns h, ms.Perm ns → @motive (.interface ms) (.interface ns) h)
    (signature : ∀ s r h, s.variadic = r.variadic → List.Forall₂ R s.params r.params →
      List.Forall₂ R s.results r.results → @motive (.signature s) (.signature r) h)
    (chan : ∀ c d h, R c d → @motive (.chan c) (.chan d) h)
    {x y : TypeKind} (h : PartsAgree R x y) : motive h := by
  obtain ⟨⟨o, hx, hy⟩, hcomponents⟩ := h
  cases x <;> cases hx <;> cases y <;> simp only [outline?, reduceCtorEq, Option.some.injEq] at hy
  case basic.refl.basic =>
    cases hy
    exact basic _ _
  case pointer.refl.pointer =>
    exact pointer _ _ _ (by simpa [TypeKind.components] using hcomponents)
  case slice.refl.slice =>
    exact slice _ _ _ (by simpa [TypeKind.components] using hcomponents)
  case array.refl.array =>
    cases hy
    exact array _ _ _ _ (by simpa [TypeKind.components] using hcomponents)
  case map.refl.map =>
    simp only [TypeKind.components, List.forall₂_cons, List.Forall₂.nil, and_true] at hcomponents
    exact map _ _ _ _ _ hcomponents.1 hcomponents.2
  case struct.refl.struct => exact struct _ _ _ (Outline.struct.inj hy).symm hcomponents
  case interface.refl.interface =>
    exact interface _ _ _ (Multiset.coe_eq_coe.1 (Outline.interface.inj hy)).symm
  case signature.refl.signature =>
    obtain ⟨hvariadic, hparams, -⟩ := Outline.signature.inj hy
    obtain ⟨hparams, hresults⟩ := (forall₂_append_iff hparams.symm).1 hcomponents
    exact signature _ _ _ hvariadic.symm hparams hresults
  case chan.refl.chan =>
    exact chan _ _ _ (by simpa [TypeKind.components] using hcomponents)

end PartsAgree

/-! ## What the comparison of two kinds decides -/

/-- Lists that are compared place by place. -/
theorem allAlike_iff {α : Type} {same : α → α → Bool} {xs ys : List α} :
    allAlike same xs ys = true ↔ List.Forall₂ (fun x y => same x y = true) xs ys := by
  simp [allAlike, List.forall₂_iff_zip]

theorem fieldsAlike_iff {same : TypeId → TypeId → Bool} {f g : Field} :
    fieldsAlike same f g = true ↔ f.label = g.label ∧ same f.ty g.ty = true := by
  simp [fieldsAlike, Field.label, and_assoc]

/-- Fields are alike when their labels are the same and their types agree. -/
theorem allAlike_fields_iff {same : TypeId → TypeId → Bool} {fs gs : List Field} :
    allAlike (fieldsAlike same) fs gs = true ↔
      fs.map Field.label = gs.map Field.label ∧
        List.Forall₂ (fun c d => same c d = true) (fs.map Field.ty) (gs.map Field.ty) := by
  rw [allAlike_iff]
  induction fs generalizing gs with
  | nil => cases gs <;> simp
  | cons f fs ih =>
    cases gs with
    | nil => simp
    | cons g gs =>
      rw [List.forall₂_cons, ih, fieldsAlike_iff, List.map_cons, List.map_cons, List.map_cons,
        List.map_cons, List.cons.injEq, List.forall₂_cons]
      tauto

/-- **Comparison of two kinds.** It holds of unnamed kinds with one outline whose components are
the same, however the components are compared. -/
theorem alike_iff {same : TypeId → TypeId → Bool} :
    x.alike same y = true ↔ PartsAgree (fun c d => same c d = true) x y := by
  rw [partsAgree_iff]
  fun_cases alike same x y with
  | case1 b c | case2 c d | case3 c d | case4 c d | case5 c m d n | case6 k v l w =>
    rw [sameOutline_iff rfl rfl]
    simp [components]
  | case7 fs gs =>
    rw [sameOutline_iff rfl rfl, Outline.struct.injEq]
    exact allAlike_fields_iff
  | case8 ms ns =>
    rw [sameOutline_iff rfl rfl]
    simp [components, List.isPerm_iff]
  | case9 s r =>
    rw [sameOutline_iff rfl rfl, Outline.signature.injEq, Bool.and_eq_true, Bool.and_eq_true,
      beq_iff_eq, allAlike_iff, allAlike_iff]
    constructor
    · rintro ⟨⟨hvariadic, hparams⟩, hresults⟩
      exact ⟨⟨hvariadic, hparams.length_eq, hresults.length_eq⟩,
        (forall₂_append_iff hparams.length_eq).2 ⟨hparams, hresults⟩⟩
    · rintro ⟨⟨hvariadic, hparams, -⟩, hcomponents⟩
      obtain ⟨hparams, hresults⟩ := (forall₂_append_iff hparams).1 hcomponents
      exact ⟨⟨hvariadic, hparams⟩, hresults⟩
  | case10 =>
    -- kinds of one outline are of one sort, and the cases above cover all unnamed sorts
    have hsort : ¬ SameOutline x y := by
      rintro ⟨o, hx, hy⟩
      cases x <;> cases hx <;> cases y <;> simp only [outline?, reduceCtorEq] at hy
      all_goals grind
    simp [hsort]

end TypeKind

/-! ## Levels of comparison -/

namespace TypeTable

variable (t : TypeTable) {a b c : TypeId} {n : Nat}

/-- **One more level.** Two types are the same entry, or they are unnamed entries of one outline
whose components pass the comparison with one level less. -/
theorem identicalWithin_succ_iff :
    t.identicalWithin (n + 1) a b = true ↔ a = b ∨ ∃ x y, t.get? a = some x ∧ t.get? b = some y ∧
      x.PartsAgree (fun c d => t.identicalWithin n c d = true) y := by
  rw [identicalWithin, Bool.or_eq_true, beq_iff_eq]
  refine or_congr_right ?_
  cases t.get? a with
  | none => simp
  | some x =>
    cases t.get? b with
    | none => simp
    | some y => simp [TypeKind.alike_iff]

/-- Every type is identical to itself, however few levels are looked at. -/
theorem identicalWithin_refl (n : Nat) (a : TypeId) : t.identicalWithin n a a = true := by
  cases n <;> simp [identicalWithin]

theorem identicalWithin_symm (h : t.identicalWithin n a b = true) :
    t.identicalWithin n b a = true := by
  induction n generalizing a b with
  | zero =>
    rw [identicalWithin, beq_iff_eq] at h ⊢
    exact h.symm
  | succ n ih =>
    rw [identicalWithin_succ_iff] at h ⊢
    obtain rfl | ⟨x, y, hx, hy, hparts⟩ := h
    · exact .inl rfl
    · exact .inr ⟨y, x, hy, hx, hparts.symm fun c d hcd => ih hcd⟩

/-- Transitivity holds at each number of levels by itself: both comparisons and the one that they
imply look equally deep. -/
theorem identicalWithin_trans (h : t.identicalWithin n a b = true)
    (h' : t.identicalWithin n b c = true) : t.identicalWithin n a c = true := by
  induction n generalizing a b c with
  | zero =>
    rw [identicalWithin, beq_iff_eq] at h h' ⊢
    exact h.trans h'
  | succ n ih =>
    rw [identicalWithin_succ_iff] at h h' ⊢
    obtain rfl | ⟨x, y, hx, hy, hparts⟩ := h
    · exact h'
    obtain rfl | ⟨y', z, hy', hz, hparts'⟩ := h'
    · exact .inr ⟨x, y, hx, hy, hparts⟩
    · cases hy.symm.trans hy'
      exact .inr ⟨x, z, hx, hz, hparts.trans hparts' fun c d e hcd hde => ih hcd hde⟩

/-- What is identical stays so when one more level is looked at. -/
theorem identicalWithin_succ (h : t.identicalWithin n a b = true) :
    t.identicalWithin (n + 1) a b = true := by
  induction n generalizing a b with
  | zero =>
    rw [identicalWithin, beq_iff_eq] at h
    rw [h]
    exact t.identicalWithin_refl _ b
  | succ n ih =>
    rw [identicalWithin_succ_iff] at h ⊢
    obtain rfl | ⟨x, y, hx, hy, hparts⟩ := h
    · exact .inl rfl
    · exact .inr ⟨x, y, hx, hy, hparts.imp fun c d hcd => ih hcd⟩

/-- The relation of being identical. -/
def Identical (a b : TypeId) : Prop := t.identical a b = true

instance : Decidable (t.Identical a b) := inferInstanceAs (Decidable (t.identical a b = true))

/-- **What identity can tell.** Types that are identical are the same entry, or they are unnamed
entries of one outline whose components are identical. -/
theorem identical_cases (h : t.Identical a b) :
    a = b ∨ ∃ x y, t.get? a = some x ∧ t.get? b = some y ∧ x.PartsAgree t.Identical y := by
  obtain rfl | ⟨x, y, hx, hy, hparts⟩ := t.identicalWithin_succ_iff.1 h
  · exact .inl rfl
  -- the components were compared with one level less than `identical` uses
  · exact .inr ⟨x, y, hx, hy, hparts.imp fun c d hcd => t.identicalWithin_succ hcd⟩

theorem equivalence_identical : Equivalence t.Identical where
  refl := t.identicalWithin_refl _
  symm := t.identicalWithin_symm
  trans := t.identicalWithin_trans

/-- **Identity is an equivalence** on the types of any table, be they circular, missing from the
table or nested deeper than the comparison looks. -/
theorem identical_equivalence :
    (∀ a, t.identical a a = true) ∧ (∀ a b, t.identical a b = t.identical b a) ∧
      ∀ a b c, t.identical a b = true → t.identical b c = true → t.identical a c = true := by
  have hequivalence := t.equivalence_identical
  refine ⟨hequivalence.refl, ?_, fun a b c => hequivalence.trans⟩
  intro a b
  rw [Bool.eq_iff_iff]
  exact ⟨hequivalence.symm, hequivalence.symm⟩

end TypeTable

end BindingAudit
