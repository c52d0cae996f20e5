/-
# Strict matching of pointers

Unless pointers are matched strictly, a pointer fits where its element is expected, and the element
where the pointer is. The setting is read in one place only, and all that it can do is to add
diagnostics about such arguments.

* `Supplemented` : one list is another one with further entries put in;
* `Arguments.findings_lenientPointers` : the findings of the lenient check are those of the strict
  one less the mismatches between a type and a pointer to it;
* `Scene.tightened_fullReport` : the strict report on a unit is the lenient one, supplemented;
* `Auditor.run_strictPointers` : the comparison of two whole runs.
-/
import BindingAudit.Proofs.ReportComposition

namespace BindingAudit

/-! ## Supplemented lists -/

/-- `more` is `less` with further entries put in, each of which satisfies `p`. -/
inductive Supplemented {α : Type} (p : α → Prop) : List α → List α → Prop where
  | nil : Supplemented p [] []
  | keep {less more : List α} (a : α) : Supplemented p less more →
      Supplemented p (a :: less) (a :: more)
  | extra {less more : List α} {a : α} : p a → Supplemented p less more →
      Supplemented p less (a :: more)

namespace Supplemented

variable {α : Type} {p q : α → Prop} {less more less' more' : List α}

theorem refl (p : α → Prop) (l : List α) : Supplemented p l l := by
  induction l with
  | nil => exact .nil
  | cons a l ih => exact .keep a ih

theorem append (h : Supplemented p less more) (h' : Supplemented p less' more') :
    Supplemented p (less ++ less') (more ++ more') := by
  induction h with
  | nil => exact h'
  | keep a _ ih => exact .keep a ih
  | extra ha _ ih => exact .extra ha ih

theorem imp (hpq : ∀ a, p a → q a) (h : Supplemented p less more) : Supplemented q less more := by
  induction h with
  | nil => exact .nil
  | keep a _ ih => exact .keep a ih
  | extra ha _ ih => exact .extra (hpq _ ha) ih

theorem sublist (h : Supplemented p less more) : less.Sublist more := by
  induction h with
  | nil => exact .slnil
  | keep a _ ih => exact ih.cons_cons a
  | extra _ _ ih => exact ih.cons _

/-- What is put in does not matter to a filter that drops it. -/
theorem filter_eq {keep : α → Bool} (hdrops : ∀ a, p a → keep a = false)
    (h : Supplemented p less more) : less.filter keep = more.filter keep := by
  induction h with
  | nil => rfl
  | keep a _ ih => rw [List.filter_cons, List.filter_cons, ih]
  | extra ha _ ih => rw [List.filter_cons_of_neg (by simp [hdrops _ ha]), ih]

end Supplemented

/-! ## Pointers and their elements -/

namespace Settings

/-- The same settings with a pointer fitting its element and the reverse. -/
def lenientPointers (s : Settings) : Settings := { s with strictPointerMatch := false }

/-- The same settings with pointers matched strictly. -/
def strictPointers (s : Settings) : Settings := { s with strictPointerMatch := true }

end Settings

/-- One type is a pointer to a type identical to the other. -/
def TypeTable.PointsTo (types : TypeTable) (pointer target : TypeId) : Prop :=
  ∃ elem, types.pointerElem pointer = some elem ∧ types.identical elem target = true

/-- Whether a finding is about a type and a pointer to it. -/
def ArgumentFinding.isAboutPointer (types : TypeTable) : ArgumentFinding → Bool
  | .mismatch _ expected actual =>
      (types.pointerElem expected).any (types.identical · actual) ||
        (types.pointerElem actual).any (types.identical · expected)
  | _ => false

theorem ArgumentFinding.pointsTo_of_isAboutPointer {types : TypeTable} {index : Nat}
    {expected actual : TypeId}
    (h : (ArgumentFinding.mismatch index expected actual).isAboutPointer types = true) :
    types.PointsTo actual expected ∨ types.PointsTo expected actual := by
  rw [isAboutPointer, Bool.or_eq_true, Option.any_eq_true, Option.any_eq_true] at h
  exact h.symm

namespace Arguments

variable (types : TypeTable) (settings : Settings)

/-- The setting widens the relation by the pairs of a type and a pointer to it. -/
theorem fits_lenientPointers (index : Nat) (expected actual : TypeId) :
    fits types settings.lenientPointers expected actual =
      (fits types settings.strictPointers expected actual ||
        (ArgumentFinding.mismatch index expected actual).isAboutPointer types) := by
  simp only [fits, Settings.lenientPointers, Settings.strictPointers,
    ArgumentFinding.isAboutPointer, Bool.not_false, Bool.not_true, Bool.true_and, Bool.false_and,
    Bool.or_false, Bool.or_assoc]
  simp only [Bool.or_comm (types.isNilType actual && types.isStructLike expected), Bool.or_assoc]

/-- A pointer to a string fits where a string is expected, unless pointers are matched strictly. -/
example :
    fits (TypeTable.predeclared.add (.pointer (TypeTable.basic .string)))
        (Settings.lenientPointers {}) (TypeTable.basic .string) TypeTable.predeclared.nextId =
          true ∧
      fits (TypeTable.predeclared.add (.pointer (TypeTable.basic .string)))
        (Settings.strictPointers {}) (TypeTable.basic .string) TypeTable.predeclared.nextId =
          false := by
  decide

variable (d : Declaration) (args : List (Option TypeId)) (spread : Bool)

theorem mismatchAt?_lenientPointers (index : Nat) :
    mismatchAt? types settings.lenientPointers d args spread index =
      (mismatchAt? types settings.strictPointers d args spread index).filter
        fun f => !f.isAboutPointer types := by
  unfold mismatchAt?
  split
  · rename_i expected actual _ _
    rw [fits_lenientPointers types settings index]
    cases hfits : fits types settings.strictPointers expected actual
    · cases hpointer : (ArgumentFinding.mismatch index expected actual).isAboutPointer types <;>
        simp [Option.filter, hpointer]
    · simp
  · rfl

/-- A finding about the count is no mismatch. -/
theorem countFinding?_ne_mismatch (supplied index : Nat) (expected actual : TypeId) :
    countFinding? d supplied spread ≠ some (.mismatch index expected actual) := by
  simp only [countFinding?]
  split_ifs <;> simp

/-- **Findings of the lenient check.** -/
theorem findings_lenientPointers :
    findings types settings.lenientPointers d args spread =
      (findings types settings.strictPointers d args spread).filter
        fun f => !f.isAboutPointer types := by
  rw [findings, findings, List.filter_append, typeFindings, typeFindings, List.filter_filterMap]
  congr 1
  · refine (List.filter_eq_self.2 ?_).symm
    intro f hf
    cases f with
    | mismatch index expected actual =>
      exact absurd (Option.mem_toList.1 hf) (countFinding?_ne_mismatch d spread _ _ _ _)
    | _ => rfl
  · exact List.filterMap_congr fun index _ =>
      mismatchAt?_lenientPointers types settings d args spread index

/-- A mismatch is between the type that is expected at an index and that of the argument there. -/
theorem of_mismatch_mem_findings {index : Nat} {expected actual : TypeId}
    (h : ArgumentFinding.mismatch index expected actual ∈ findings types settings d args spread) :
    expectedAt types d args.length spread index = some expected ∧
      args[index]? = some (some actual) := by
  rw [findings, List.mem_append] at h
  rcases h with h | h
  · exact absurd (Option.mem_toList.1 h) (countFinding?_ne_mismatch d spread _ _ _ _)
  · obtain ⟨i, -, hi⟩ := List.mem_filterMap.1 h
    unfold mismatchAt? at hi
    split at hi
    · rename_i hexpected hactual
      split_ifs at hi
      cases hi
      exact ⟨hexpected, Option.join_eq_some_iff.1 hactual⟩
    · cases hi

end Arguments

/-! ## The parts of the report on a unit -/

/-- A diagnostic about an argument that is a pointer to what its parameter expects, or that is
what its parameter expects a pointer to. It belongs to an invocation with a resolved callee. -/
def Scene.PointerMismatch (scene : Scene) (d : Diagnostic) : Prop :=
  ∃ site decl index argument expected actual, .site site ∈ scene.invocations ∧
    site.resolution = .resolved decl ∧
    Arguments.expectedAt scene.defs.types decl site.arguments.length site.spread index =
      some expected ∧
    site.arguments[index]? = some argument ∧ argument.ty = some actual ∧
    (scene.defs.types.PointsTo actual expected ∨ scene.defs.types.PointsTo expected actual) ∧
    d.category = .argumentType ∧
    (scene.reportFinding site decl (.mismatch index expected actual)).diagnostics = [d]

namespace Report

/-- `strict` is `lenient` with further diagnostics put in, each of which satisfies `p`. -/
structure Tightened (p : Diagnostic → Prop) (lenient strict : Report) : Prop where
  diagnostics : Supplemented p lenient.diagnostics strict.diagnostics
  summary : lenient.summary.SameCounts strict.summary

variable {p : Diagnostic → Prop}

theorem Tightened.refl (r : Report) : Tightened p r r := ⟨.refl p _, .refl _⟩

theorem compositional_tightened : Compositional (Tightened p) where
  empty := .refl {}
  append := by
    intro a a' b b' ha hb
    exact ⟨ha.diagnostics.append hb.diagnostics, ha.summary.add hb.summary⟩

/-- A sequence of reports from which some are left out that are extra. -/
theorem tightened_concat_filter {α : Type} {f : α → Report} {keep : α → Bool} {xs : List α}
    (h : ∀ x ∈ xs, keep x = false → Tightened p {} (f x)) :
    Tightened p (concat ((xs.filter keep).map f)) (concat (xs.map f)) := by
  induction xs with
  | nil => exact .refl _
  | cons x xs ih =>
    have hrest := ih fun y hy => h y (List.mem_cons_of_mem _ hy)
    rw [List.map_cons, concat_cons]
    cases hkeep : keep x with
    | true =>
      rw [List.filter_cons_of_pos hkeep, List.map_cons, concat_cons]
      exact compositional_tightened.append (.refl _) hrest
    | false =>
      rw [List.filter_cons_of_neg (by simp [hkeep]), ← empty_append (concat _)]
      exact compositional_tightened.append (h x List.mem_cons_self hkeep) hrest

end Report

namespace Scene

open Report

variable (scene : Scene) (settings : Settings)

/-- The signature report of the strict check has the mismatches with pointers besides. -/
theorem tightened_reportSignature {site : CallSite} {decl : Declaration}
    (hsite : .site site ∈ scene.invocations) (hdecl : site.resolution = .resolved decl) :
    Tightened scene.PointerMismatch
      (scene.reportSignature settings.lenientPointers site decl)
      (scene.reportSignature settings.strictPointers site decl) := by
  rw [reportSignature, reportSignature]
  split
  · exact .refl _
  · rw [Arguments.findings_lenientPointers]
    apply tightened_concat_filter
    intro f hf hpointer
    cases f with
    | tooMany expected supplied => cases hpointer
    | tooFew expected supplied atLeast => cases hpointer
    | mismatch index expected actual =>
      obtain ⟨hexpected, hactual⟩ := Arguments.of_mismatch_mem_findings _ _ _ _ _ hf
      rw [CallSite.argTypes, List.getElem?_map, Option.map_eq_some_iff] at hactual
      obtain ⟨argument, hargument, hty⟩ := hactual
      rw [CallSite.argTypes, List.length_map] at hexpected
      have hpair := ArgumentFinding.pointsTo_of_isAboutPointer (by simpa using hpointer)
      refine ⟨.extra ?_ .nil, ⟨rfl, rfl, rfl, rfl⟩⟩
      exact ⟨site, decl, index, argument, expected, actual, hsite, hdecl, hexpected, hargument,
        hty, hpair, rfl, rfl⟩

/-- **One invocation.** -/
theorem tightened_reportInvocation {i : Invocation} (hi : i ∈ scene.invocations) :
    Tightened scene.PointerMismatch (scene.reportInvocation settings.lenientPointers i)
      (scene.reportInvocation settings.strictPointers i) := by
  cases i with
  | malformed position form supplied => exact .refl _
  | site site =>
    -- resolution and transport do not read the setting
    refine compositional_tightened.append (.refl _) ?_
    rw [reportCallee, reportCallee]
    cases hdecl : site.resolution with
    | resolved decl =>
      exact compositional_tightened.append (.refl _)
        (tightened_reportSignature scene settings hi hdecl)
    | unresolved reason => exact .refl _

/-- **The whole unit.** -/
theorem tightened_fullReport :
    Tightened scene.PointerMismatch (scene.fullReport settings.lenientPointers)
      (scene.fullReport settings.strictPointers) := by
  have hinvocations : Tightened scene.PointerMismatch
      (scene.reportInvocations settings.lenientPointers)
      (scene.reportInvocations settings.strictPointers) :=
    compositional_tightened.concat_map fun i hi => tightened_reportInvocation scene settings hi
  rw [fullReport, fullReport, ← hinvocations.summary.sites]
  exact compositional_tightened.append hinvocations (.refl _)

end Scene

/-! ## Runs -/

/-- The report on a unit with lenient and with strict matching of pointers. -/
structure UnitReport.Tightened (lenient strict : UnitReport) : Prop where
  /-- The unit, the registries and the conventions, so every resolution. -/
  scene : lenient.scene = strict.scene
  /-- The registry, the exported facts and the registrations. -/
  outcome : lenient.outcome = strict.outcome
  summary : lenient.summary.SameCounts strict.summary
  diagnostics : Supplemented lenient.scene.PointerMismatch lenient.diagnostics strict.diagnostics

namespace Auditor

theorem tightened_passReport (settings : Settings) (scene : Scene) :
    Report.Tightened scene.PointerMismatch (passReport settings.lenientPointers scene)
      (passReport settings.strictPointers scene) :=
  Report.compositional_tightened.append (.refl _) (Scene.tightened_fullReport scene settings)

/-- **One pass.** -/
theorem tightened_analyze (conventions : Conventions) (settings : Settings) (defs : Definitions)
    (unit : CompilationUnit) (dependencies : List Registry) :
    UnitReport.Tightened
      (analyze ⟨conventions, settings.lenientPointers⟩ defs unit dependencies)
      (analyze ⟨conventions, settings.strictPointers⟩ defs unit dependencies) := by
  rw [analyze_eq, analyze_eq]
  have htightened := tightened_passReport settings
    (passScene conventions defs unit dependencies)
  exact ⟨rfl, rfl, htightened.summary, htightened.diagnostics⟩

/-- **Strict matching of pointers only adds mismatches.** Under any other settings the run with
lenient matching fails with the fault of the run with strict matching, or both succeed: they report
on the same units with the same registries, facts, registrations and resolutions, and the strict
run has the diagnostics of the lenient one in the same order, with others put in between that are
all about an argument and a parameter one of which is a pointer to the other. -/
theorem run_strictPointers (conventions : Conventions) (settings : Settings)
    (snapshot : Snapshot) :
    (∃ fault, run ⟨conventions, settings.lenientPointers⟩ snapshot = .error fault ∧
      run ⟨conventions, settings.strictPointers⟩ snapshot = .error fault) ∨
    ∃ lenient strict, run ⟨conventions, settings.lenientPointers⟩ snapshot = .ok lenient ∧
      run ⟨conventions, settings.strictPointers⟩ snapshot = .ok strict ∧
      List.Forall₂ UnitReport.Tightened lenient.reports strict.reports ∧
      Supplemented (fun d => ∃ r ∈ lenient.reports, r.scene.PointerMismatch d)
        lenient.diagnostics strict.diagnostics ∧
      lenient.diagnostics.Sublist strict.diagnostics ∧
      lenient.diagnostics.filter (fun d => d.category = .argumentCount) =
        strict.diagnostics.filter fun d => d.category = .argumentCount := by
  obtain hfault | ⟨lenient, strict, hlenient, hstrict, hreports⟩ :=
    run_related (a := ⟨conventions, settings.lenientPointers⟩)
      (b := ⟨conventions, settings.strictPointers⟩) rfl snapshot
      (tightened_analyze conventions settings snapshot.defs)
  · exact .inl hfault
  · have hdiagnostics : Supplemented (fun d => ∃ r ∈ lenient.reports, r.scene.PointerMismatch d)
        lenient.diagnostics strict.diagnostics := by
      have hmem := (List.forall₂_and_left _ _).2 ⟨fun r hr => hr, hreports⟩
      refine AuditReport.diagnostics_related .nil .append (hmem.imp ?_)
      rintro r r' ⟨hr, htightened⟩
      exact htightened.diagnostics.imp fun d hd => ⟨r, hr, hd⟩
    refine .inr ⟨lenient, strict, hlenient, hstrict, hreports, hdiagnostics,
      hdiagnostics.sublist, hdiagnostics.filter_eq ?_⟩
    rintro d ⟨r, -, site, decl, index, argument, expected, actual, -, -, -, -, -, -, hcategory, -⟩
    simp [hcategory]

end Auditor

end BindingAudit
