/-
# The report of a unit is exact

A report is clean when it holds trace output only. Reports are put together from small ones, so
cleanness is read off part by part: every check of an invocation contributes a part that is clean
exactly when the check passes.

* `Report.clean_concat` : a sequence of reports is clean when each of them is;
* `Scene.clean_reportInvocation_site` : the report on one well-formed invocation is clean exactly
  when its callee resolves, its signature fits and its arguments can be transported;
* `Scene.clean_fullReport_iff_flawless` : the report on a unit is clean exactly when every call
  that occurs in the unit and is an invocation is flawless.

The last one joins the walk, the recognition of invocations, the resolution of callees and the
two checks on arguments. No call is passed over because of where it stands, and none because a
check before it has failed.
-/
import BindingAudit.Binding.Report
import BindingAudit.Proofs.Occurrence

namespace BindingAudit

/-! ## Clean reports -/

namespace Report

@[simp] theorem diagnostics_append (a b : Report) :
    (a ++ b).diagnostics = a.diagnostics ++ b.diagnostics := rfl

/-- Appending reports one by one appends their diagnostics. -/
theorem diagnostics_foldl_append (rs : List Report) (r : Report) :
    (rs.foldl append r).diagnostics = r.diagnostics ++ rs.flatMap diagnostics := by
  induction rs generalizing r with
  | nil => simp
  | cons s rs ih =>
    rw [List.foldl_cons, ih, List.flatMap_cons, ← List.append_assoc]
    rfl

/-- The diagnostics of many reports are those of each in turn. -/
theorem diagnostics_concat (rs : List Report) :
    (concat rs).diagnostics = rs.flatMap diagnostics := by
  rw [concat, diagnostics_foldl_append]
  rfl

/-- A report without problems: all it holds is trace output. -/
def Clean (r : Report) : Prop := ∀ d ∈ r.diagnostics, d.category = .trace

@[simp] theorem clean_empty : Clean {} := by
  intro d hd
  cases hd

@[simp] theorem clean_counting (s : Summary) : (counting s).Clean := by
  intro d hd
  cases hd

@[simp] theorem clean_append (a b : Report) : (a ++ b).Clean ↔ a.Clean ∧ b.Clean := by
  simp only [Clean, diagnostics_append, List.mem_append]
  constructor
  · intro h
    exact ⟨fun d hd => h d (.inl hd), fun d hd => h d (.inr hd)⟩
  · rintro ⟨ha, hb⟩ d (hd | hd)
    · exact ha d hd
    · exact hb d hd

/-- A report of one diagnostic is clean only if that is trace output. -/
@[simp] theorem clean_single (position : Position) (category : Category) (message : String) :
    (single position category message).Clean ↔ category = .trace := by
  simp [Clean, single]

@[simp] theorem clean_onlyIf (condition : Bool) (r : Report) :
    (onlyIf condition r).Clean ↔ (condition = true → r.Clean) := by
  cases condition <;> simp [onlyIf]

/-- Many reports are clean together when each of them is. -/
@[simp] theorem clean_concat (rs : List Report) : (concat rs).Clean ↔ ∀ r ∈ rs, r.Clean := by
  simp only [Clean, diagnostics_concat, List.mem_flatMap]
  constructor
  · intro h r hr d hd
    exact h d ⟨r, hr, hd⟩
  · rintro h d ⟨r, hr, hd⟩
    exact h r hr d hd

end Report

/-! ## The checks of one invocation -/

namespace Scene

variable (scene : Scene) (settings : Settings)

/-- The report on an invocation without a callee is never clean. -/
theorem not_clean_reportMalformed (position : Position) (form : InvocationForm)
    (supplied : Nat) : ¬ (reportMalformed position form supplied).Clean := by
  simp [reportMalformed]

/-- If unresolved callees are reported, a clean report means that the callee resolved. -/
theorem clean_reportResolution (hreport : settings.reportUnresolved = true) (site : CallSite) :
    (reportResolution settings site).Clean ↔ ∃ d, site.resolution = .resolved d := by
  rw [reportResolution]
  cases site.resolution with
  | resolved d => simp
  | unresolved reason => simp [hreport]

/-- An argument of unknown type is passed over, any other must be transportable. -/
theorem clean_reportArgument (site : CallSite) (index : Nat) (a : Argument) :
    (scene.reportArgument site index a).Clean ↔
      ∀ ty, a.ty = some ty →
        Transport.isTransportable scene.defs.types scene.conventions ty = true := by
  rw [reportArgument]
  cases a.ty with
  | none => simp
  | some ty =>
    simp only [Option.bind_some, Option.some.injEq, Transport.isTransportable]
    cases hviolation : Transport.violation? scene.defs.types scene.conventions ty <;>
      simp [hviolation]

/-- The transport report looks at every argument, whatever it found before. -/
theorem clean_reportTransport (site : CallSite) :
    (scene.reportTransport site).Clean ↔
      ∀ a ∈ site.arguments, ∀ ty, a.ty = some ty →
        Transport.isTransportable scene.defs.types scene.conventions ty = true := by
  rw [reportTransport, Report.clean_concat]
  constructor
  · intro h a ha
    obtain ⟨i, hi, rfl⟩ := List.mem_iff_getElem.1 ha
    rw [← clean_reportArgument scene site i]
    exact h _ (List.mem_mapIdx.2 ⟨i, hi, rfl⟩)
  · intro h r hr
    obtain ⟨i, hi, rfl⟩ := List.mem_mapIdx.1 hr
    rw [clean_reportArgument]
    exact h _ (List.getElem_mem hi)

/-- Every mismatch with a signature is reported as a problem. -/
theorem not_clean_reportFinding (site : CallSite) (d : Declaration) (f : ArgumentFinding) :
    ¬ (scene.reportFinding site d f).Clean := by
  cases f <;> simp [reportFinding]

/-- The signature report is clean if the callee takes a context and nothing else is amiss. -/
theorem clean_reportSignature (site : CallSite) (d : Declaration) :
    (scene.reportSignature settings site d).Clean ↔
      d.params ≠ [] ∧
        Arguments.findings scene.defs.types settings d site.argTypes site.spread = [] := by
  rw [reportSignature]
  by_cases hparams : d.params = []
  · simp [hparams]
  · rw [if_neg (by simpa using hparams), Report.clean_concat]
    constructor
    · intro h
      refine ⟨hparams, List.eq_nil_iff_forall_not_mem.2 fun f hf => ?_⟩
      exact not_clean_reportFinding scene site d f (h _ (List.mem_map_of_mem hf))
    · rintro ⟨-, hnil⟩
      simp [hnil]

/-- **One well-formed invocation.** Its report is clean exactly when the callee resolves to a
declaration whose signature fits and every argument of known type can be transported. -/
theorem clean_reportInvocation_site (hreport : settings.reportUnresolved = true)
    (site : CallSite) :
    (scene.reportInvocation settings (.site site)).Clean ↔
      (∃ d, site.resolution = .resolved d ∧ d.params ≠ [] ∧
        Arguments.findings scene.defs.types settings d site.argTypes site.spread = []) ∧
      ∀ a ∈ site.arguments, ∀ ty, a.ty = some ty →
        Transport.isTransportable scene.defs.types scene.conventions ty = true := by
  rw [reportInvocation, Report.clean_append, Report.clean_append,
    clean_reportResolution settings hreport, clean_reportTransport, reportCallee]
  cases site.resolution with
  | unresolved reason => simp
  | resolved d => simp [clean_reportSignature, and_comm]

/-! ## Flawless calls -/

/-- The types of the arguments that a call hands on to its callee, where they are known. -/
def forwardedTypes (form : InvocationForm) (args : List Expr) : List (Option TypeId) :=
  (args.drop form.firstArgIndex).map scene.unit.info.recordedType?

/-- What a call that is an invocation has to satisfy. -/
structure Flawless (form : InvocationForm) (args : List Expr) (spread : Bool) : Prop where
  /-- There are enough arguments for a callee. -/
  enough : form.minArgs ≤ args.length
  /-- The callee resolves to a declaration that takes a context, and what is handed on fits the
  rest of its signature. -/
  fits : ∃ callee d, args[form.calleeIndex]? = some callee ∧
    scene.resolve form callee = .resolved d ∧ d.params ≠ [] ∧
    Arguments.findings scene.defs.types settings d (scene.forwardedTypes form args) spread = []
  /-- What is handed on and has a known type can be transported. -/
  transportable : ∀ ty, some ty ∈ scene.forwardedTypes form args →
    Transport.isTransportable scene.defs.types scene.conventions ty = true

/-- The report on a call of a known form is clean exactly when the call is flawless. -/
theorem clean_invocation?_call (hreport : settings.reportUnresolved = true) (file : String)
    {node : Node} {fn : Expr} {args : List Expr} {spread : Bool} {form : InvocationForm}
    (hform : scene.form? (.call node fn args spread) = some form) :
    (∀ i, scene.invocation? file (.call node fn args spread) = some i →
      (scene.reportInvocation settings i).Clean) ↔
      scene.Flawless settings form args spread := by
  simp only [invocation?, hform, Option.bind_eq_bind, Option.bind_some]
  cases hcallee : args[form.calleeIndex]? with
  | none =>
    -- too few arguments: neither side holds
    have hlen : args.length ≤ form.calleeIndex := List.getElem?_eq_none_iff.1 hcallee
    constructor
    · intro h
      exact absurd (h _ rfl) (not_clean_reportMalformed _ form args.length)
    · intro h
      have henough : form.calleeIndex + 1 ≤ args.length := h.enough
      omega
  | some callee =>
    -- there is a callee: the call is a site, and its arguments are the forwarded ones
    have hlen : form.calleeIndex < args.length := (List.getElem?_eq_some_iff.1 hcallee).1
    simp only [Option.some.injEq, forall_eq',
      clean_reportInvocation_site scene settings hreport, CallSite.argTypes, List.map_map]
    constructor
    · rintro ⟨⟨d, hd, hparams, hfits⟩, harg⟩
      refine ⟨hlen, ⟨callee, d, hcallee, hd, hparams, hfits⟩, ?_⟩
      intro ty hty
      obtain ⟨e, he, hte⟩ := List.mem_map.1 hty
      exact harg _ (List.mem_map_of_mem he) ty hte
    · rintro ⟨-, ⟨callee', d, hcallee', hd, hparams, hfits⟩, htransport⟩
      rw [hcallee, Option.some.injEq] at hcallee'
      subst hcallee'
      refine ⟨⟨d, hd, hparams, hfits⟩, ?_⟩
      intro a ha ty hty
      obtain ⟨e, he, rfl⟩ := List.mem_map.1 ha
      exact htransport ty (List.mem_map.2 ⟨e, he, hty⟩)

/-! ## The whole unit -/

/-- The report on a unit is clean when those on its invocations are: what it adds at the end is
trace output. -/
theorem clean_fullReport :
    (scene.fullReport settings).Clean ↔
      ∀ file ∈ scene.unit.files, ∀ e ∈ file.calls, ∀ i, scene.invocation? file.name e = some i →
        (scene.reportInvocation settings i).Clean := by
  simp only [fullReport, Report.clean_append, Report.clean_onlyIf, Report.clean_single,
    implies_true, and_true, reportInvocations, Report.clean_concat, invocations, invocationCalls]
  constructor
  · intro h file hfile e he i hi
    apply h
    refine List.mem_map_of_mem (List.mem_map.2 ⟨(e, i), ?_, rfl⟩)
    exact List.mem_flatMap.2 ⟨file, hfile, List.mem_filterMap.2 ⟨e, he, by rw [hi]; rfl⟩⟩
  · intro h r hr
    obtain ⟨i, hi, rfl⟩ := List.mem_map.1 hr
    obtain ⟨⟨e, i⟩, hei, rfl⟩ := List.mem_map.1 hi
    obtain ⟨file, hfile, hmem⟩ := List.mem_flatMap.1 hei
    obtain ⟨e', he', hsome⟩ := List.mem_filterMap.1 hmem
    obtain ⟨j, hj, hpair⟩ := Option.map_eq_some_iff.1 hsome
    cases hpair
    exact h file hfile e he' i hj

/-- Only calls are invocations. -/
theorem exists_form_of_invocation? {file : String} {e : Expr} {i : Invocation}
    (h : scene.invocation? file e = some i) :
    ∃ node fn args spread form, e = .call node fn args spread ∧ scene.form? e = some form := by
  cases e with
  | call node fn args spread =>
    simp only [invocation?, Option.bind_eq_bind, Option.bind_eq_some_iff] at h
    obtain ⟨form, hform, -⟩ := h
    exact ⟨node, fn, args, spread, form, rfl, hform⟩
  | _ => simp [invocation?] at h

/-- **Exactness of the report.** If unresolved callees are reported, the report on a unit holds
nothing but trace output exactly when every call that occurs anywhere in the unit and is an
invocation is flawless. -/
theorem clean_fullReport_iff_flawless (hreport : settings.reportUnresolved = true) :
    (∀ d ∈ (scene.fullReport settings).diagnostics, d.category = .trace) ↔
      ∀ node fn args spread, (Expr.call node fn args spread).OccursInUnit scene.unit →
        ∀ form, scene.form? (.call node fn args spread) = some form →
          scene.Flawless settings form args spread := by
  refine Iff.trans (clean_fullReport scene settings) ?_
  constructor
  · rintro h node fn args spread ⟨file, hfile, hoccurs⟩ form hform
    rw [← clean_invocation?_call scene settings hreport file.name hform]
    exact h file hfile _ ((SourceFile.mem_calls_iff rfl file).2 hoccurs)
  · intro h file hfile e he i hi
    obtain ⟨node, fn, args, spread, form, rfl, hform⟩ := exists_form_of_invocation? scene hi
    have hoccurs := (SourceFile.mem_calls_iff rfl file).1 he
    have hflawless := h node fn args spread ⟨file, hfile, hoccurs⟩ form hform
    exact (clean_invocation?_call scene settings hreport file.name hform).2 hflawless i hi

/-- An invocation without a callee: `workflow.ExecuteActivity(ctx)`. -/
def calleelessCall : Expr :=
  .call ⟨⟨3⟩, .start⟩
    (.selector ⟨⟨2⟩, .start⟩ (.ident ⟨⟨0⟩, .start⟩ "workflow")
      (.ident ⟨⟨1⟩, .start⟩ "ExecuteActivity"))
    [.ident ⟨⟨4⟩, .start⟩ "ctx"] false

/-- A unit with that call as a key of a composite literal in a function literal. -/
def nestedScene : Scene where
  defs := .predeclared
  unit :=
    { CompilationUnit.empty "app" with
      files := [⟨"app.go", [], [⟨"main", none, [.expr (.closure ⟨⟨5⟩, .start⟩
        [.ret [.composite ⟨⟨6⟩, .start⟩ none
          [.mk (some calleelessCall) (.ident ⟨⟨7⟩, .start⟩ "x")]]])], .start⟩]⟩]
      info := { Annotations.empty with
        uses := FinMap.empty.insert ⟨0⟩ (.module "workflow" "go.temporal.io/sdk/workflow") } }
  registry := .empty "app"
  dependencies := []
  conventions := .temporal

/-- The nested call is found and reported. -/
theorem nestedScene_not_clean :
    Settings.strict.reportUnresolved = true ∧
      ¬ ∀ d ∈ (nestedScene.fullReport .strict).diagnostics, d.category = .trace := by
  refine ⟨rfl, ?_⟩
  rw [clean_fullReport_iff_flawless nestedScene .strict rfl]
  intro h
  have hoccurs : calleelessCall.OccursInUnit nestedScene.unit :=
    ⟨_, .head _, _, .head _, _, .head _, .expr (.body (.head _) (.ret (.head _)
      (.key (.head _) .here)))⟩
  have hflawless := h _ _ _ _ hoccurs .executeActivity (by decide)
  exact absurd hflawless.enough (by decide)

end Scene

end BindingAudit
