/-
# Identical types read the same

Types are written out level by level, as they are compared. Two types read the same if their entries
do: both are missing, both are the same named type, or both are unnamed and agree in their parts,
whose texts are the same one level further down. Identity is more than that, except that it does not
see in which order an interface lists its methods. Where all lists are sorted, identical types have
the same text, also where the table is circular and where either of them runs into the limit.

The last parameter of a variadic signature is written as the element of its slice, on the same level
as the other parameters. Elements are compared one level later than they are written, so what is
known of them is enough.

* `TypeTable.ReadsLike` : entries that are written alike, given which components are;
* `TypeTable.renderWithin_succ_eq` : one level of writing;
* `TypeTable.rel_sliceElement_within` : the elements of slices that pass for identical;
* `TypeTable.render_eq_of_identical` : the texts of identical types.
-/
import BindingAudit.Program.TypeTable.Rendering
import BindingAudit.Proofs.IdenticalArguments

namespace BindingAudit

/-! ## Texts of related lists -/

theorem map_eq_of_forall₂ {α β γ : Type} {R : α → β → Prop} {f : α → γ} {g : β → γ}
    (hfg : ∀ a b, R a b → f a = g b) {l : List α} {m : List β} (h : List.Forall₂ R l m) :
    l.map f = m.map g := by
  induction h with
  | nil => rfl
  | cons hab _ ih => rw [List.map_cons, List.map_cons, hfg _ _ hab, ih]

theorem mapIdx_eq_of_forall₂ {α β γ : Type} {R : α → β → Prop} {f : Nat → α → γ}
    {g : Nat → β → γ} (hfg : ∀ i a b, R a b → f i a = g i b) {l : List α} {m : List β}
    (h : List.Forall₂ R l m) : l.mapIdx f = m.mapIdx g := by
  induction h generalizing f g with
  | nil => rfl
  | cons hab _ ih =>
    rw [List.mapIdx_cons, List.mapIdx_cons, hfg 0 _ _ hab, ih fun i => hfg (i + 1)]

/-- Fields with the same labels and related types are related in pairs. -/
theorem forall₂_fields {R : TypeId → TypeId → Prop} {fs gs : List Field}
    (hlabels : fs.map Field.label = gs.map Field.label)
    (htypes : List.Forall₂ R (fs.map Field.ty) (gs.map Field.ty)) :
    List.Forall₂ (fun f g => f.label = g.label ∧ R f.ty g.ty) fs gs := by
  induction fs generalizing gs with
  | nil =>
    cases gs with
    | nil => exact .nil
    | cons g gs => cases hlabels
  | cons f fs ih =>
    cases gs with
    | nil => cases hlabels
    | cons g gs =>
      obtain ⟨hlabel, hrest⟩ := List.cons.inj hlabels
      obtain ⟨htype, htypes⟩ := List.forall₂_cons.1 htypes
      exact .cons ⟨hlabel, htype⟩ (ih hrest htypes)

/-- An unnamed kind agrees with itself in its parts. -/
theorem TypeKind.PartsAgree.self {R : TypeId → TypeId → Prop} {x : TypeKind}
    (hunnamed : x.outline?.isSome = true) (hR : ∀ c ∈ x.components, R c c) : x.PartsAgree R x := by
  obtain ⟨o, ho⟩ := Option.isSome_iff_exists.1 hunnamed
  exact ⟨⟨o, ho, ho⟩, List.forall₂_same.2 hR⟩

/-- The methods that an interface lists. Other kinds list none. -/
def TypeKind.methodNames : TypeKind → List String
  | .interface methods => methods
  | _ => []

namespace TypeTable

variable {t t' : TypeTable} {R : TypeId → TypeId → Prop} {a b : TypeId} {n : Nat}

/-! ## One level -/

/-- Entries that are written alike if related components are: none, the same named type, or unnamed
kinds that agree in their parts and list the methods of interfaces in the same order. -/
inductive ReadsLike (R : TypeId → TypeId → Prop) : Option TypeKind → Option TypeKind → Prop where
  | missing : ReadsLike R none none
  | named (n : NamedType) : ReadsLike R (some (.named n)) (some (.named n))
  | unnamed {x y : TypeKind} (parts : x.PartsAgree R y)
      (methods : ∀ ms ns, x = .interface ms → y = .interface ns → ms = ns) :
      ReadsLike R (some x) (some y)

/-- An entry is written like itself. -/
theorem ReadsLike.self {entry : Option TypeKind} (hR : ∀ x ∈ entry, ∀ c ∈ x.components, R c c) :
    ReadsLike R entry entry := by
  cases entry with
  | none => exact .missing
  | some x =>
    cases x with
    | named n => exact .named n
    | _ =>
      refine .unnamed (.self rfl (hR _ rfl)) ?_
      rintro ms ns hms hns
      exact TypeKind.interface.inj (hms.symm.trans hns)

/-- **One level of writing.** Types whose entries are written alike have the same text, if related
types have the same text one level further down and slices of related types have related
elements. -/
theorem renderWithin_succ_eq (hentry : ReadsLike R (t.get? a) (t'.get? b))
    (htext : ∀ c d, R c d → t.renderWithin n c = t'.renderWithin n d)
    (helement : ∀ c d, R c d → Option.Rel R (t.sliceElement c) (t'.sliceElement d)) :
    t.renderWithin (n + 1) a = t'.renderWithin (n + 1) b := by
  rw [renderWithin, renderWithin]
  generalize t.get? a = entry, t'.get? b = entry' at hentry
  cases hentry with
  | missing | named n => rfl
  | unnamed parts hmethods =>
    cases parts using TypeKind.PartsAgree.sorts with
    | basic => rfl
    | pointer c d _ hcd | slice c d _ hcd | array c d _ _ hcd | chan c d _ hcd =>
      simp only [htext c d hcd]
    | map k v l w _ hkl hvw => simp only [htext k l hkl, htext v w hvw]
    | struct fs gs _ hlabels htypes =>
      refine congrArg (fun shown => "struct" ++ Text.braced ("; ".intercalate shown))
        (map_eq_of_forall₂ ?_ (forall₂_fields hlabels htypes))
      rintro f g ⟨hlabel, hty⟩
      obtain ⟨hname, hembedded, htag⟩ : f.name = g.name ∧ f.embedded = g.embedded ∧
          f.tag = g.tag := by simpa [Field.label] using hlabel
      rw [hname, hembedded, htag, htext _ _ hty]
    | interface ms ns _ _ => rw [hmethods ms ns rfl rfl]
    | signature s r _ hvariadic hparams hresults =>
      dsimp only
      rw [map_eq_of_forall₂ htext hresults]
      refine congrArg (fun params => "func(" ++ ", ".intercalate params ++ ")" ++ _)
        (mapIdx_eq_of_forall₂ (fun i c d hcd => ?_) hparams)
      rw [hvariadic, hparams.length_eq]
      generalize (r.variadic && i == r.params.length - 1) = rest
      -- the last parameter of a variadic signature is written as its element, if it has one
      have hrel : Option.Rel R (if rest then t.sliceElement c else none)
          (if rest then t'.sliceElement d else none) := by
        split
        · exact helement c d hcd
        · exact .none
      generalize (if rest then t.sliceElement c else none) = e,
        (if rest then t'.sliceElement d else none) = e' at hrel
      cases hrel with
      | none => exact htext c d hcd
      | some he => exact congrArg ("..." ++ ·) (htext _ _ he)

/-! ## Identical types -/

/-- Slices that pass for identical have elements that pass for identical on the same level. They
were compared one level further down. -/
theorem rel_sliceElement_within (h : t.identicalWithin n a b = true) :
    Option.Rel (fun c d => t.identicalWithin n c d = true) (t.sliceElement a)
      (t.sliceElement b) := by
  have hself : ∀ e : Option TypeId, Option.Rel (fun c d => t.identicalWithin n c d = true) e e := by
    rintro (_ | c)
    · exact .none
    · exact .some (t.identicalWithin_refl n c)
  cases n with
  | zero =>
    rw [identicalWithin, beq_iff_eq] at h
    rw [h]
    exact hself _
  | succ n =>
    obtain rfl | ⟨x, y, hx, hy, hparts⟩ := t.identicalWithin_succ_iff.1 h
    · exact hself _
    obtain ⟨o, hox, hoy⟩ := hparts.outline
    rw [sliceElement, sliceElement, underlyingEntry_of_get? hx (by rw [hox]; rfl),
      underlyingEntry_of_get? hy (by rw [hoy]; rfl)]
    cases hparts using TypeKind.PartsAgree.sorts with
    | slice c d _ hcd => exact .some (t.identicalWithin_succ hcd)
    | _ => exact .none

/-- Each interface of the table lists its methods in order. -/
def InterfacesSorted (t : TypeTable) : Prop := ∀ x ∈ t.kinds, x.methodNames.Pairwise (· ≤ ·)

instance (t : TypeTable) : Decidable t.InterfacesSorted :=
  inferInstanceAs (Decidable (∀ x ∈ t.kinds, x.methodNames.Pairwise (· ≤ ·)))

/-- Identical types are written alike, one level after the other. -/
theorem readsLike_of_identicalWithin (hsorted : t.InterfacesSorted)
    (h : t.identicalWithin (n + 1) a b = true) :
    ReadsLike (fun c d => t.identicalWithin n c d = true) (t.get? a) (t.get? b) := by
  obtain rfl | ⟨x, y, hx, hy, hparts⟩ := t.identicalWithin_succ_iff.1 h
  · exact .self fun _ _ c _ => t.identicalWithin_refl n c
  rw [hx, hy]
  refine .unnamed hparts ?_
  rintro ms ns rfl rfl
  cases hparts using TypeKind.PartsAgree.sorts with
  | interface _ _ _ hperm =>
    have hms := hsorted _ (List.mem_of_getElem? hx)
    have hns := hsorted _ (List.mem_of_getElem? hy)
    exact hperm.eq_of_pairwise (fun _ _ _ _ hab hba => String.le_antisymm hab hba) hms hns

theorem renderWithin_eq_of_identicalWithin (hsorted : t.InterfacesSorted)
    (h : t.identicalWithin n a b = true) : t.renderWithin n a = t.renderWithin n b := by
  induction n generalizing a b with
  | zero => rfl
  | succ n ih =>
    exact renderWithin_succ_eq (readsLike_of_identicalWithin hsorted h) (fun c d => ih)
      fun c d => rel_sliceElement_within

/-- **Identical types read the same**, in every table whose interfaces list their methods in order.
So types whose texts in a message are different are never identical. -/
theorem render_eq_of_identical (hsorted : t.InterfacesSorted) (a b : TypeId) :
    (t.identical a b = true → t.render a = t.render b) ∧
      (t.render a ≠ t.render b → t.identical a b = false) := by
  have hsame : t.identical a b = true → t.render a = t.render b :=
    renderWithin_eq_of_identicalWithin hsorted
  refine ⟨hsame, fun hne => ?_⟩
  rw [← Bool.not_eq_true]
  exact fun h => hne (hsame h)

/-- A pointer to itself, with another entry for a pointer to it, and a named slice. Two entries for
functions differ in the entries they use for the pointer, and for interfaces and functions that they
return. Their last parameters are slices, their first one is missing from the table. -/
def selfPointers : TypeTable :=
  ⟨TypeTable.predeclared.kinds ++ [.pointer (.ofIndex 19), .pointer (.ofIndex 19),
    .named ⟨"app", "Names", some (.ofIndex 22), []⟩, .slice (TypeTable.basic .string),
    .interface ["Close", "Read"], .interface ["Close", "Read"],
    .slice (.ofIndex 19), .slice (.ofIndex 20),
    .signature ⟨[.ofIndex 21], [], true⟩, .signature ⟨[.ofIndex 21], [], true⟩,
    .signature ⟨[.ofIndex 99, .ofIndex 25], [.ofIndex 23, .ofIndex 27], true⟩,
    .signature ⟨[.ofIndex 99, .ofIndex 26], [.ofIndex 24, .ofIndex 28], true⟩]⟩

/-- The functions have one text, which runs into the limit at the pointer. Types with other texts
are not identical. -/
theorem selfPointers_render :
    selfPointers.InterfacesSorted ∧
      selfPointers.identical (.ofIndex 29) (.ofIndex 30) = true ∧
      selfPointers.render (.ofIndex 29) = selfPointers.render (.ofIndex 30) ∧
      selfPointers.render (.ofIndex 27) = "func(...string)" ∧
      selfPointers.render (.ofIndex 27) ≠ selfPointers.render (.ofIndex 22) ∧
      selfPointers.identical (.ofIndex 27) (.ofIndex 22) = false := by
  have hsorted : selfPointers.InterfacesSorted := by decide +kernel
  have hidentical : selfPointers.identical (.ofIndex 29) (.ofIndex 30) = true := by decide +kernel
  have hne : selfPointers.render (.ofIndex 27) ≠ selfPointers.render (.ofIndex 22) := by
    decide +kernel
  exact ⟨hsorted, hidentical, (render_eq_of_identical hsorted _ _).1 hidentical,
    by decide +kernel, hne, (render_eq_of_identical hsorted _ _).2 hne⟩

/-- The order of methods is seen in the text, not in the comparison. -/
example :
    let t : TypeTable := ⟨[.interface ["Close", "Read"], .interface ["Read", "Close"]]⟩
    t.identical ⟨0⟩ ⟨1⟩ = true ∧ t.render ⟨0⟩ ≠ t.render ⟨1⟩ := by
  decide +kernel

end TypeTable

end BindingAudit
