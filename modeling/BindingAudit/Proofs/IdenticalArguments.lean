/-
# Arguments up to identity of types

The table does not share equal types, so one type of the program may have many entries. The check
of arguments against a signature cannot tell these apart. Entries that are identical fit the same
parameters and take the same arguments, and what is found about one list of arguments is found
about any other one that is identical to it place by place.

* `TypeTable.underlyingEntry_cases` : what identity keeps of the type behind a name;
* `Arguments.fits_congr` : whether an argument fits depends on types up to identity;
* `Arguments.rel_expectedAt` : so does the type that is expected at an index;
* `Arguments.findings_identical` : the findings about two identical invocations.
-/
import BindingAudit.Binding.Arguments
import BindingAudit.Proofs.TypeIdentity

namespace BindingAudit

/-! ## Related options and lists -/

/-- Related lists have related entries at each place. -/
theorem rel_getElem? {α β : Type} {R : α → β → Prop} {l : List α} {m : List β}
    (h : List.Forall₂ R l m) (i : Nat) : Option.Rel R l[i]? m[i]? := by
  induction h generalizing i with
  | nil => exact .none
  | cons hab _ ih =>
    cases i with
    | zero => exact .some hab
    | succ i => exact ih i

/-- Related lists have related last entries. -/
theorem rel_getLast? {α β : Type} {R : α → β → Prop} {l : List α} {m : List β}
    (h : List.Forall₂ R l m) : Option.Rel R l.getLast? m.getLast? := by
  rw [List.getLast?_eq_getElem?, List.getLast?_eq_getElem?, h.length_eq]
  exact rel_getElem? h _

theorem rel_bind {α β γ δ : Type} {R : α → β → Prop} {S : γ → δ → Prop} {o : Option α}
    {o' : Option β} {f : α → Option γ} {g : β → Option δ} (h : Option.Rel R o o')
    (hfg : ∀ a b, R a b → Option.Rel S (f a) (g b)) : Option.Rel S (o.bind f) (o'.bind g) := by
  cases h with
  | some hab => exact hfg _ _ hab
  | none => exact .none

namespace TypeTable

variable {t : TypeTable} {a a' b b' : TypeId}

theorem rel_identical_self (o : Option TypeId) : Option.Rel t.Identical o o := by
  cases o with
  | none => exact .none
  | some a => exact .some (t.equivalence_identical.refl a)

/-- Identity does not tell identical types apart. -/
theorem identical_congr (ha : t.Identical a a') (hb : t.Identical b b') :
    t.identical a b = t.identical a' b' := by
  have hequivalence := t.equivalence_identical
  rw [Bool.eq_iff_iff]
  constructor
  · intro h
    exact hequivalence.trans (hequivalence.trans (hequivalence.symm ha) h) hb
  · intro h
    exact hequivalence.trans (hequivalence.trans ha h) (hequivalence.symm hb)

/-! ## Queries on identical types -/

theorem rel_pointerElem (h : t.Identical a b) :
    Option.Rel t.Identical (t.pointerElem a) (t.pointerElem b) := by
  obtain rfl | ⟨x, y, hx, hy, hparts⟩ := t.identical_cases h
  · exact rel_identical_self _
  · rw [pointerElem, pointerElem, hx, hy]
    cases hparts using TypeKind.PartsAgree.sorts with
    | pointer c d _ hcd => exact .some hcd
    | _ => exact .none

theorem isNilType_congr (h : t.Identical a b) : t.isNilType a = t.isNilType b := by
  obtain rfl | ⟨x, y, hx, hy, hparts⟩ := t.identical_cases h
  · rfl
  · rw [isNilType, isNilType, hx, hy]
    cases hparts using TypeKind.PartsAgree.sorts <;> rfl

/-- An unnamed entry is its own underlying type. -/
theorem underlyingEntry_of_get? {x : TypeKind} (hx : t.get? a = some x)
    (hunnamed : x.outline?.isSome = true) : t.underlyingEntry a = some x := by
  have hself : t.underlying a = some a := by
    rw [underlying, underlyingWithin, hx]
    cases x <;> simp_all [TypeKind.outline?]
  rw [underlyingEntry, hself, Option.bind_some, hx]

/-- Identical types have the same underlying entry, or entries of one outline with identical
components. -/
theorem underlyingEntry_cases (h : t.Identical a b) :
    t.underlyingEntry a = t.underlyingEntry b ∨
      ∃ x y, t.underlyingEntry a = some x ∧ t.underlyingEntry b = some y ∧
        x.PartsAgree t.Identical y := by
  obtain rfl | ⟨x, y, hx, hy, hparts⟩ := t.identical_cases h
  · exact .inl rfl
  · obtain ⟨o, hox, hoy⟩ := hparts.outline
    exact .inr ⟨x, y, underlyingEntry_of_get? hx (by rw [hox]; rfl),
      underlyingEntry_of_get? hy (by rw [hoy]; rfl), hparts⟩

theorem rel_sliceElement (h : t.Identical a b) :
    Option.Rel t.Identical (t.sliceElement a) (t.sliceElement b) := by
  rw [sliceElement, sliceElement]
  obtain heq | ⟨x, y, hx, hy, hparts⟩ := underlyingEntry_cases h
  · rw [heq]
    exact rel_identical_self _
  · rw [hx, hy]
    cases hparts using TypeKind.PartsAgree.sorts with
    | slice c d _ hcd => exact .some hcd
    | _ => exact .none

theorem isStruct_congr (h : t.Identical a b) : t.isStruct a = t.isStruct b := by
  rw [isStruct, isStruct]
  obtain heq | ⟨x, y, hx, hy, hparts⟩ := underlyingEntry_cases h
  · rw [heq]
  · rw [hx, hy]
    cases hparts using TypeKind.PartsAgree.sorts <;> rfl

theorem isStructLike_congr (h : t.Identical a b) : t.isStructLike a = t.isStructLike b := by
  rw [isStructLike, isStructLike, isStruct_congr h]
  obtain heq | ⟨x, y, hx, hy, hparts⟩ := underlyingEntry_cases h
  · rw [heq]
  · rw [hx, hy]
    cases hparts using TypeKind.PartsAgree.sorts with
    | pointer c d _ hcd => simp only [isStruct_congr hcd]
    | _ => rfl

end TypeTable

/-! ## Whether an argument fits -/

namespace Arguments

variable {types : TypeTable} (settings : Settings)

theorem any_identical_congr {o o' : Option TypeId} {a a' : TypeId}
    (ho : Option.Rel types.Identical o o') (ha : types.Identical a a') :
    o.any (types.identical · a) = o'.any (types.identical · a') := by
  cases ho with
  | none => rfl
  | some h => exact TypeTable.identical_congr h ha

/-- **Fitting up to identity.** One pointer is looked through on either side, and what is behind
identical pointers is identical again. -/
theorem fits_congr {expected expected' actual actual' : TypeId}
    (hexpected : types.Identical expected expected') (hactual : types.Identical actual actual') :
    fits types settings expected actual = fits types settings expected' actual' := by
  have hboxed := any_identical_congr (TypeTable.rel_pointerElem hexpected) hactual
  have hunboxed := any_identical_congr (TypeTable.rel_pointerElem hactual) hexpected
  rw [fits, fits, TypeTable.identical_congr hexpected hactual, hboxed, hunboxed,
    TypeTable.isNilType_congr hactual, TypeTable.isStructLike_congr hexpected]

end Arguments

/-! ## The expected types -/

/-- Two declarations with as many parameters each, identical in pairs, that are both variadic or
both not. -/
structure Declaration.SameParameters (types : TypeTable) (d d' : Declaration) : Prop where
  variadic : d.isVariadic = d'.isVariadic
  params : List.Forall₂ types.Identical d.params d'.params

namespace Arguments

variable {types : TypeTable} {d d' : Declaration} (h : d.SameParameters types d')
include h

theorem expectedCount_congr : expectedCount d = expectedCount d' := by
  rw [expectedCount, expectedCount, h.params.length_eq]

theorem rel_restElement :
    Option.Rel types.Identical (d.restElement types) (d'.restElement types) := by
  rw [Declaration.restElement, Declaration.restElement, h.variadic]
  split
  · exact rel_bind (rel_getLast? h.params) fun _ _ => TypeTable.rel_sliceElement
  · exact .none

/-- The types that are expected at an index are identical, or there is none for both. -/
theorem rel_expectedAt (count : Nat) (spread : Bool) (index : Nat) :
    Option.Rel types.Identical (expectedAt types d count spread index)
      (expectedAt types d' count spread index) := by
  rw [expectedAt, expectedAt, expectedCount_congr h, h.variadic]
  split
  · exact rel_restElement h
  · exact rel_getElem? h.params (index + 1)

theorem countFinding?_congr (supplied : Nat) (spread : Bool) :
    countFinding? d supplied spread = countFinding? d' supplied spread := by
  rw [countFinding?, countFinding?, expectedCount_congr h, h.variadic]

end Arguments

/-! ## Findings -/

/-- Two findings of the same sort and numbers about types that are identical. -/
inductive ArgumentFinding.Alike (types : TypeTable) : ArgumentFinding → ArgumentFinding → Prop where
  | tooMany (expected supplied : Nat) :
      Alike types (.tooMany expected supplied) (.tooMany expected supplied)
  | tooFew (expected supplied : Nat) (atLeast : Bool) :
      Alike types (.tooFew expected supplied atLeast) (.tooFew expected supplied atLeast)
  | mismatch (index : Nat) {expected expected' actual actual' : TypeId} :
      types.Identical expected expected' → types.Identical actual actual' →
      Alike types (.mismatch index expected actual) (.mismatch index expected' actual')

theorem ArgumentFinding.Alike.refl (types : TypeTable) (f : ArgumentFinding) :
    Alike types f f := by
  cases f with
  | tooMany expected supplied => exact .tooMany expected supplied
  | tooFew expected supplied atLeast => exact .tooFew expected supplied atLeast
  | mismatch index expected actual =>
    exact .mismatch index (types.equivalence_identical.refl _) (types.equivalence_identical.refl _)

namespace Arguments

section

variable {types : TypeTable} (settings : Settings) {d d' : Declaration}
  {args args' : List (Option TypeId)} (h : d.SameParameters types d')
  (hargs : List.Forall₂ (Option.Rel types.Identical) args args') (spread : Bool)
include h hargs

/-- **One argument.** There is a mismatch at an index of both lists or of none. -/
theorem rel_mismatchAt? (index : Nat) :
    Option.Rel (ArgumentFinding.Alike types) (mismatchAt? types settings d args spread index)
      (mismatchAt? types settings d' args' spread index) := by
  have hexpected := rel_expectedAt h args.length spread index
  have hactual : Option.Rel types.Identical (args[index]?).join (args'[index]?).join :=
    rel_bind (rel_getElem? hargs index) fun _ _ hab => hab
  rw [mismatchAt?, mismatchAt?, ← hargs.length_eq]
  generalize expectedAt types d args.length spread index = e,
    expectedAt types d' args.length spread index = e', (args[index]?).join = a,
    (args'[index]?).join = a' at hexpected hactual
  cases hexpected with
  | none => exact .none
  | some he =>
    cases hactual with
    | none => exact .none
    | some ha =>
      simp only [fits_congr settings he ha]
      split
      · exact .none
      · exact .some (.mismatch index he ha)

/-- **All arguments**, from left to right. -/
theorem forall₂_typeFindings :
    List.Forall₂ (ArgumentFinding.Alike types) (typeFindings types settings d args spread)
      (typeFindings types settings d' args' spread) := by
  rw [typeFindings, typeFindings, ← hargs.length_eq]
  refine List.rel_filterMap (R := Eq) ?_ (List.forall₂_same.2 fun _ _ => rfl)
  rintro index _ rfl
  exact rel_mismatchAt? settings h hargs spread index

end

/-- **The check cannot see which entry a type is.** Declarations with identical parameters and lists
of arguments that are identical place by place, or both unknown there, have the same finding about
the count, and as many findings in all, with the same indices in the same order and about types
that are identical. Whether an argument fits is the same for identical types. -/
theorem findings_identical (types : TypeTable) (settings : Settings) (d d' : Declaration)
    (args args' : List (Option TypeId)) (spread : Bool) (h : d.SameParameters types d')
    (hargs : List.Forall₂ (Option.Rel types.Identical) args args') :
    countFinding? d args.length spread = countFinding? d' args'.length spread ∧
      (findings types settings d args spread).length =
        (findings types settings d' args' spread).length ∧
      List.Forall₂ (ArgumentFinding.Alike types) (findings types settings d args spread)
        (findings types settings d' args' spread) ∧
      ∀ expected expected' actual actual', types.Identical expected expected' →
        types.Identical actual actual' →
        fits types settings expected actual = fits types settings expected' actual' := by
  have hcount : countFinding? d args.length spread = countFinding? d' args'.length spread := by
    rw [countFinding?_congr h, hargs.length_eq]
  have hfindings : List.Forall₂ (ArgumentFinding.Alike types)
      (findings types settings d args spread) (findings types settings d' args' spread) := by
    rw [findings, findings, hcount]
    exact List.rel_append (List.forall₂_same.2 fun f _ => .refl types f)
      (forall₂_typeFindings settings h hargs spread)
  exact ⟨hcount, hfindings.length_eq, hfindings, fun _ _ _ _ => fits_congr settings⟩

/-- A table with two entries for slices of strings and two for pointers to integers. -/
def repetitiveTable : TypeTable :=
  (((TypeTable.predeclared.add (.slice (TypeTable.basic .string))).add
    (.slice (TypeTable.basic .string))).add (.pointer (TypeTable.basic .int))).add
    (.pointer (TypeTable.basic .int))

/-- A variadic function of strings that is declared with the given entry for their slice. -/
def variadicOf (strings : TypeId) : Declaration :=
  { (default : Declaration) with
    signature := ⟨[TypeTable.basic .int, strings], [], true⟩ }

/-- A pointer to an integer, behind an argument of unknown type, is no string, whichever entries
stand for the slice and the pointer. -/
theorem variadicOf_findings_identical :
    let first := variadicOf (.ofIndex 19)
    let second := variadicOf (.ofIndex 20)
    let args := [none, some (TypeId.ofIndex 21)]
    let args' := [none, some (TypeId.ofIndex 22)]
    first.SameParameters repetitiveTable second ∧
      List.Forall₂ (Option.Rel repetitiveTable.Identical) args args' ∧
      findings repetitiveTable {} first args false =
        [.mismatch 1 (TypeTable.basic .string) (.ofIndex 21)] ∧
      List.Forall₂ (ArgumentFinding.Alike repetitiveTable)
        (findings repetitiveTable {} first args false)
        (findings repetitiveTable {} second args' false) := by
  intro first second args args'
  have hparams : first.SameParameters repetitiveTable second :=
    ⟨rfl, .cons (by decide +kernel) (.cons (by decide +kernel) .nil)⟩
  have hargs : List.Forall₂ (Option.Rel repetitiveTable.Identical) args args' :=
    .cons .none (.cons (.some (by decide +kernel)) .nil)
  have hidentical := findings_identical repetitiveTable {} first second args args' false hparams
    hargs
  exact ⟨hparams, hargs, by decide +kernel, hidentical.2.2.1⟩

end Arguments

end BindingAudit
