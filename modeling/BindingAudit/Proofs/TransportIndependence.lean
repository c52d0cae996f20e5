/-
# Transport does not depend on resolution

Whether an argument can be transported is a question about its type. Which calls are invocations,
which arguments they hand on and what is said about the transport of these does not depend on the
registries that callees are resolved against; only the name of the callee in the wording does.

* `Scene.invocationCalls_withRegistries` : other registries resolve the same invocations again;
* `Scene.filter_serialization_fullReport` : the transport diagnostics of a unit are its complaints,
  each voiced with the name of a callee, and the complaints do not speak of resolution;
* `Scene.transport_independent` : the comparison of two reports on a unit.
-/
import BindingAudit.Proofs.SummaryCounts

namespace BindingAudit

/-! ## Complaints -/

/-- An argument that cannot be transported: where it stands, its index and what is in the way. -/
structure Complaint where
  position : Position
  index : Nat
  violation : Violation

/-- The diagnostic that a complaint becomes when the callee is called by a name. -/
def Complaint.voiced (c : Complaint) (callee : String) : Diagnostic :=
  ⟨c.position, .serialization,
    Text.ordinal (c.index + 1) ++ " argument to `" ++ callee ++ "` is not serializable: " ++
      c.violation.message ++ " - this value will not be visible" ++
      " on the receiving end and will assume a default"⟩

/-- A diagnostic voices a complaint, under some name of the callee. -/
def Complaint.IsVoicedBy (c : Complaint) (d : Diagnostic) : Prop :=
  ∃ callee, d = c.voiced callee

/-- Two diagnostics that voice one complaint, under two names of the callee at most. -/
def Diagnostic.SameComplaint (d d' : Diagnostic) : Prop :=
  ∃ (c : Complaint) (callee callee' : String), d = c.voiced callee ∧ d' = c.voiced callee'

/-- The text that a diagnostic about a call without a callee begins with. -/
def calleelessText : String := "Malformed call to `"

/-- Whether a diagnostic is about a call with too few arguments to have a callee. -/
def Diagnostic.isCalleeless (d : Diagnostic) : Bool :=
  d.category == .malformed && calleelessText.toList.isPrefixOf d.message.toList

/-- Two invocations that differ in the resolution of their callee at most. -/
inductive Invocation.SameButResolution : Invocation → Invocation → Prop where
  | malformed (position : Position) (form : InvocationForm) (supplied : Nat) :
      SameButResolution (.malformed position form supplied) (.malformed position form supplied)
  | site (s : CallSite) (resolution : Resolution) :
      SameButResolution (.site s) (.site { s with resolution })

namespace Scene

open Report

variable (scene : Scene) (settings : Settings)

/-- The complaint about one argument, if there is one. An argument of unknown type passes. -/
def complaint? (site : CallSite) (index : Nat) (argument : Argument) : Option Complaint :=
  (argument.ty.bind (Transport.violation? scene.defs.types scene.conventions)).map fun violation =>
    ⟨site.position, index, violation⟩

/-- The complaints about an invocation, from left to right. -/
def complaintsAt : Invocation → List Complaint
  | .malformed _ _ _ => []
  | .site site => site.arguments.zipIdx.filterMap fun (argument, index) =>
      scene.complaint? site index argument

/-- The complaints about all invocations of the unit. -/
def complaints : List Complaint := scene.invocations.flatMap scene.complaintsAt

/-! ## Resolving again -/

/-- The same unit to be resolved against other registries. -/
def withRegistries (registry : Registry) (dependencies : List Registry) : Scene :=
  { scene with registry, dependencies }

/-- An invocation with its callee resolved again. -/
def resolveAgain : Invocation → Invocation
  | .malformed position form supplied => .malformed position form supplied
  | .site site => .site { site with resolution := scene.resolve site.form site.callee }

theorem sameButResolution_resolveAgain (i : Invocation) :
    i.SameButResolution (scene.resolveAgain i) := by
  cases i with
  | malformed position form supplied => exact .malformed position form supplied
  | site site => exact .site site _

variable (registry : Registry) (dependencies : List Registry)

theorem invocation?_withRegistries (file : String) (e : Expr) :
    (scene.withRegistries registry dependencies).invocation? file e =
      (scene.invocation? file e).map
        (scene.withRegistries registry dependencies).resolveAgain := by
  cases e with
  | call node fn args spread =>
    have hform : (scene.withRegistries registry dependencies).form? (.call node fn args spread) =
        scene.form? (.call node fn args spread) := rfl
    simp only [invocation?, hform, Option.bind_eq_bind]
    cases scene.form? (.call node fn args spread) with
    | none => rfl
    | some form =>
      simp only [Option.bind_some]
      cases args[form.calleeIndex]? <;> rfl
  | _ => rfl

/-- **Other registries resolve the same invocations again.** -/
theorem invocationCalls_withRegistries :
    (scene.withRegistries registry dependencies).invocationCalls =
      scene.invocationCalls.map (Prod.map id
        (scene.withRegistries registry dependencies).resolveAgain) := by
  simp only [invocationCalls, List.map_flatMap, List.map_filterMap, invocation?_withRegistries,
    Option.map_map]
  rfl

theorem invocations_withRegistries :
    (scene.withRegistries registry dependencies).invocations =
      scene.invocations.map (scene.withRegistries registry dependencies).resolveAgain := by
  rw [invocations, invocations, invocationCalls_withRegistries, List.map_map, List.map_map]
  rfl

/-- Complaints do not speak of resolution. -/
theorem complaints_withRegistries :
    (scene.withRegistries registry dependencies).complaints = scene.complaints := by
  rw [complaints, complaints, invocations_withRegistries, List.flatMap_map]
  apply List.flatMap_congr
  intro i _
  cases i <;> rfl

/-! ## Diagnostics of one kind -/

/-- A filter that drops traces leaves what it leaves of each invocation. -/
theorem filter_fullReport {keep : Diagnostic → Bool}
    (hkeep : ∀ d : Diagnostic, d.category = .trace → keep d = false) :
    (scene.fullReport settings).diagnostics.filter keep =
      scene.invocations.flatMap fun i =>
        (scene.reportInvocation settings i).diagnostics.filter keep := by
  have htrace : ∀ position message,
      (onlyIf settings.debug (single position .trace message)).diagnostics.filter keep = [] := by
    intro position message
    rw [List.filter_eq_nil_iff]
    intro d hd
    obtain ⟨-, hd⟩ := mem_diagnostics_onlyIf.1 hd
    rw [mem_diagnostics_single.1 hd, hkeep _ rfl]
    decide
  rw [fullReport, diagnostics_append, List.filter_append, htrace, List.append_nil,
    reportInvocations, diagnostics_concat, List.flatMap_map, List.filter_flatMap]

/-- A callee without parameters is reported in other words than a call without a callee. -/
theorem isCalleeless_of_mem_reportSignature {site : CallSite} {decl : Declaration}
    {d : Diagnostic} (h : d ∈ (scene.reportSignature settings site decl).diagnostics) :
    d.isCalleeless = false := by
  rw [reportSignature] at h
  split at h
  · rw [List.mem_singleton.1 h]
    simp [Diagnostic.isCalleeless, calleelessText, List.isPrefixOf]
  · rw [diagnostics_concat, List.flatMap_map, List.mem_flatMap] at h
    obtain ⟨f, -, hd⟩ := h
    rcases category_of_mem_reportFinding scene hd with hcategory | hcategory <;>
      simp [Diagnostic.isCalleeless, hcategory]

/-- What is said about a resolved callee is neither about transport nor about a missing callee. -/
theorem of_mem_reportCallee {site : CallSite} {d : Diagnostic}
    (h : d ∈ (scene.reportCallee settings site).diagnostics) :
    d.category ≠ .serialization ∧ d.isCalleeless = false := by
  rw [reportCallee] at h
  split at h
  · rw [diagnostics_append, List.mem_append] at h
    rcases h with h | h
    · obtain ⟨-, hd⟩ := mem_diagnostics_onlyIf.1 h
      rw [mem_diagnostics_single.1 hd]
      simp [Diagnostic.isCalleeless]
    · refine ⟨?_, isCalleeless_of_mem_reportSignature scene settings h⟩
      rcases category_of_mem_reportSignature scene settings h with hd | hd | hd <;>
        rw [hd] <;> decide
  · cases h

/-! ## Calls without a callee -/

/-- The diagnostics about a call without a callee. -/
def calleelessDiagnostics : Invocation → List Diagnostic
  | .malformed position form supplied => (reportMalformed position form supplied).diagnostics
  | .site _ => []

theorem isCalleeless_of_mem_reportMalformed {position : Position} {form : InvocationForm}
    {supplied : Nat} {d : Diagnostic}
    (h : d ∈ (reportMalformed position form supplied).diagnostics) : d.isCalleeless = true := by
  rw [List.mem_singleton.1 h]
  simp [Diagnostic.isCalleeless, calleelessText]

theorem filter_isCalleeless_reportInvocation (i : Invocation) :
    (scene.reportInvocation settings i).diagnostics.filter Diagnostic.isCalleeless =
      calleelessDiagnostics i := by
  cases i with
  | malformed position form supplied =>
    exact List.filter_eq_self.2 fun d hd => isCalleeless_of_mem_reportMalformed hd
  | site site =>
    rw [calleelessDiagnostics, List.filter_eq_nil_iff]
    intro d hd
    rw [reportInvocation, diagnostics_append, diagnostics_append, List.mem_append,
      List.mem_append] at hd
    rcases hd with (hd | hd) | hd
    · simp [Diagnostic.isCalleeless, category_of_mem_reportResolution settings hd]
    · simp [Diagnostic.isCalleeless, category_of_mem_reportTransport scene hd]
    · simp [(of_mem_reportCallee scene settings hd).2]

/-- The diagnostics about calls without a callee are those that such calls bring. -/
theorem filter_isCalleeless_fullReport :
    (scene.fullReport settings).diagnostics.filter Diagnostic.isCalleeless =
      scene.invocations.flatMap calleelessDiagnostics := by
  rw [filter_fullReport scene settings (by simp +contextual [Diagnostic.isCalleeless])]
  simp only [filter_isCalleeless_reportInvocation]

/-! ## Transport -/

/-- The transport report voices the complaints about an invocation. -/
theorem diagnostics_reportTransport (site : CallSite) :
    (scene.reportTransport site).diagnostics =
      (scene.complaintsAt (.site site)).map fun c => c.voiced site.calleeText := by
  have hargument : ∀ index argument, (scene.reportArgument site index argument).diagnostics =
      ((scene.complaint? site index argument).map fun c => c.voiced site.calleeText).toList := by
    intro index argument
    rw [reportArgument, complaint?]
    split
    · rename_i h
      rw [h]
      rfl
    · rename_i violation h
      rw [h]
      rfl
  rw [reportTransport, diagnostics_concat, List.mapIdx_eq_zipIdx_map, List.flatMap_map,
    complaintsAt, List.map_filterMap, List.filterMap_eq_flatMap_toList]
  exact List.flatMap_congr fun p _ => hargument p.2 p.1

/-- **One invocation.** Its transport diagnostics are its complaints, whether or not its callee is
resolved. -/
theorem filter_serialization_reportInvocation (i : Invocation) :
    List.Forall₂ Complaint.IsVoicedBy (scene.complaintsAt i)
      ((scene.reportInvocation settings i).diagnostics.filter
        fun d => d.category = .serialization) := by
  cases i with
  | malformed position form supplied => exact .nil
  | site site =>
    have hresolution : (reportResolution settings site).diagnostics.filter
        (fun d => d.category = .serialization) = [] := by
      rw [List.filter_eq_nil_iff]
      intro d hd
      simp [category_of_mem_reportResolution settings hd]
    have htransport : (scene.reportTransport site).diagnostics.filter
        (fun d => d.category = .serialization) = (scene.reportTransport site).diagnostics := by
      rw [List.filter_eq_self]
      intro d hd
      simp [category_of_mem_reportTransport scene hd]
    have hcallee : (scene.reportCallee settings site).diagnostics.filter
        (fun d => d.category = .serialization) = [] := by
      rw [List.filter_eq_nil_iff]
      intro d hd
      simp [(of_mem_reportCallee scene settings hd).1]
    rw [reportInvocation, diagnostics_append, diagnostics_append, List.filter_append,
      List.filter_append, hresolution, htransport, hcallee, List.nil_append, List.append_nil,
      diagnostics_reportTransport, List.forall₂_map_right_iff, List.forall₂_same]
    exact fun c _ => ⟨site.calleeText, rfl⟩

/-- **The whole unit.** -/
theorem filter_serialization_fullReport :
    List.Forall₂ Complaint.IsVoicedBy scene.complaints
      ((scene.fullReport settings).diagnostics.filter fun d => d.category = .serialization) := by
  rw [filter_fullReport scene settings (by simp +contextual), complaints]
  induction scene.invocations with
  | nil => exact .nil
  | cons i is ih =>
    rw [List.flatMap_cons, List.flatMap_cons]
    exact List.rel_append (filter_serialization_reportInvocation scene settings i) ih

/-- Two lists of diagnostics that voice the same complaints. -/
theorem forall₂_sameComplaint {cs : List Complaint} {ds ds' : List Diagnostic}
    (h : List.Forall₂ Complaint.IsVoicedBy cs ds)
    (h' : List.Forall₂ Complaint.IsVoicedBy cs ds') :
    List.Forall₂ Diagnostic.SameComplaint ds ds' := by
  induction h generalizing ds' with
  | nil =>
    cases h'
    exact .nil
  | @cons c d _ _ hd _ ih =>
    obtain ⟨callee, rfl⟩ := hd
    cases h' with
    | cons hd' htail =>
      obtain ⟨callee', rfl⟩ := hd'
      exact .cons ⟨c, callee, callee', rfl, rfl⟩ (ih htail)

/-! ## Two reports on a unit -/

/-- Two scenes in which the same calls are invocations and the same is said about transport. -/
structure AgreeOnTransport (other : Scene) : Prop where
  /-- The same calls are invocations, with the same arguments. -/
  calls : List.Forall₂ (fun p q => p.1 = q.1 ∧ p.2.SameButResolution q.2)
    scene.invocationCalls other.invocationCalls
  /-- As many invocations are checked. -/
  sites : (scene.fullReport settings).summary.sites = (other.fullReport settings).summary.sites
  /-- The diagnostics about calls without a callee are the same. -/
  calleeless : (scene.fullReport settings).diagnostics.filter Diagnostic.isCalleeless =
    (other.fullReport settings).diagnostics.filter Diagnostic.isCalleeless
  /-- The transport diagnostics differ in the names of callees at most. -/
  serialization : List.Forall₂ Diagnostic.SameComplaint
    ((scene.fullReport settings).diagnostics.filter fun d => d.category = .serialization)
    ((other.fullReport settings).diagnostics.filter fun d => d.category = .serialization)
  complaints : scene.complaints = other.complaints
  /-- They are about every argument of every invocation that cannot be transported. -/
  voiced : List.Forall₂ Complaint.IsVoicedBy scene.complaints
    ((scene.fullReport settings).diagnostics.filter fun d => d.category = .serialization)

/-- **Transport does not depend on resolution.** Resolve a unit against any other registries: the
same calls are invocations, as many of them are checked, the diagnostics about calls without a
callee are the same, and the transport diagnostics voice the same complaints in the same order,
whether or not the callees are resolved. -/
theorem transport_independent (scene : Scene) (settings : Settings) (registry : Registry)
    (dependencies : List Registry) :
    scene.AgreeOnTransport settings (scene.withRegistries registry dependencies) where
  calls := by
    rw [invocationCalls_withRegistries, List.forall₂_map_right_iff, List.forall₂_same]
    exact fun p _ => ⟨rfl, sameButResolution_resolveAgain _ p.2⟩
  sites := by
    -- both sums are counted over the syntax, where no registry is looked at
    have hplaces := sites_add_places scene settings
    have hplaces' : _ + scene.unit.places scene.lacksCallee = scene.unit.places scene.invokes :=
      sites_add_places (scene.withRegistries registry dependencies) settings
    omega
  calleeless := by
    rw [filter_isCalleeless_fullReport, filter_isCalleeless_fullReport,
      invocations_withRegistries, List.flatMap_map]
    apply List.flatMap_congr
    intro i _
    cases i <;> rfl
  serialization := by
    have hvoiced' := filter_serialization_fullReport
      (scene.withRegistries registry dependencies) settings
    rw [complaints_withRegistries] at hvoiced'
    exact forall₂_sameComplaint (filter_serialization_fullReport scene settings) hvoiced'
  complaints := (complaints_withRegistries scene registry dependencies).symm
  voiced := filter_serialization_fullReport scene settings

end Scene

end BindingAudit
