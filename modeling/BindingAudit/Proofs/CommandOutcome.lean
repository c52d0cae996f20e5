/-
# What the command leaves behind

The arguments are read from left to right, the snapshots are audited one after the other, and the
output of those before a failure has been printed when the failure comes. What is left behind in
the end can be said without these steps.

* `Auditor.findings_withoutTraces` : trace output does not change what is found;
* `Command.Request.ofArgs_eq` : the arguments ask for what the set of their options says, or the
  first unknown option among them stops everything;
* `Command.diagnosticLine_eq` : the line of a diagnostic, in text and in JSON;
* `Command.auditPaths_cases` : the output is that of the paths before the first that fails;
* `Command.Audits.unique` : which paths yield reports settles output and exit code;
* `Command.run_answers` : output and exit code for all arguments and files.
-/
import Mathlib.Data.List.Forall2
import Mathlib.Data.List.Induction
import BindingAudit.Command.Line
import BindingAudit.Proofs.SnapshotRoundTrip
import BindingAudit.Proofs.SummaryCounts
import BindingAudit.Proofs.Verbosity

namespace BindingAudit

/-! ## Trace output and findings -/

namespace Settings

/-- The same settings without trace output. -/
def withoutTraces (s : Settings) : Settings := { s with debug := false }

/-- Which problems are shown does not depend on trace output. -/
theorem filter_isFinding_filter_shows (s : Settings) (ds : List Diagnostic) :
    (ds.filter s.shows).filter Diagnostic.isFinding =
      (ds.filter s.withoutTraces.shows).filter Diagnostic.isFinding := by
  rw [List.filter_filter, List.filter_filter]
  apply List.filter_congr
  intro d _
  rw [Diagnostic.isFinding, shows, shows, withoutTraces]
  cases d.category <;> cases s.debug <;> rfl

end Settings

namespace Auditor

/-- **Trace output does not change what is found.** A run with and one without it fail with the
same fault, or both succeed with the same findings. -/
theorem findings_withoutTraces (conventions : Conventions) (settings : Settings)
    (snapshot : Snapshot) :
    (∃ fault, run ⟨conventions, settings⟩ snapshot = .error fault ∧
      run ⟨conventions, settings.withoutTraces⟩ snapshot = .error fault) ∨
    ∃ report report', run ⟨conventions, settings⟩ snapshot = .ok report ∧
      run ⟨conventions, settings.withoutTraces⟩ snapshot = .ok report' ∧
      report.findings = report'.findings := by
  have hpass : ∀ unit dependencies,
      (analyze ⟨conventions, settings⟩ snapshot.defs unit dependencies).diagnostics.filter
          Diagnostic.isFinding =
        (analyze ⟨conventions, settings.withoutTraces⟩ snapshot.defs unit
          dependencies).diagnostics.filter Diagnostic.isFinding := by
    intro unit dependencies
    -- both are what the same verbose report leaves when less is shown
    have hmuted := muted_analyze conventions settings snapshot.defs unit dependencies
    have hmuted' := muted_analyze conventions settings.withoutTraces snapshot.defs unit
      dependencies
    rw [hmuted.diagnostics, hmuted'.diagnostics]
    exact settings.filter_isFinding_filter_shows _
  obtain hfault | ⟨report, report', hrun, hrun', hreports⟩ :=
    run_related (a := ⟨conventions, settings⟩) (b := ⟨conventions, settings.withoutTraces⟩) rfl
      snapshot (R := fun r r' => r.diagnostics.filter Diagnostic.isFinding =
        r'.diagnostics.filter Diagnostic.isFinding) hpass
  · exact .inl hfault
  · refine .inr ⟨report, report', hrun, hrun', ?_⟩
    refine AuditReport.diagnostics_related
      (R := fun l l' => l.filter Diagnostic.isFinding = l'.filter Diagnostic.isFinding) rfl ?_
      hreports
    intro l l' m m' hl hm
    rw [List.filter_append, List.filter_append, hl, hm]

end Auditor

namespace Command

/-! ## Arguments -/

/-- The options that the command knows. -/
def knownOptions : List String :=
  ["-h", "--help", "-V", "--version", "--json", "--debug", "--report-unresolved",
   "--strict-pointer-match"]

/-- Whether an argument is written like an option. All others are paths. -/
def isOption (arg : String) : Bool := arg.startsWith "-"

/-- Whether an argument is written like an option and is none that the command knows. -/
def isUnknownOption (arg : String) : Bool := isOption arg && !knownOptions.contains arg

theorem isOption_of_mem_knownOptions {arg : String} (h : arg ∈ knownOptions) :
    isOption arg = true := by
  have hall : ∀ option ∈ knownOptions, isOption option = true := by
    simp [knownOptions, isOption]
  exact hall arg h

section

variable {q : String → Bool} (hq : ∀ arg ∉ knownOptions, q arg = true) (args : List String)
include hq

/-- If only known options are left out, the first unknown option stays the same. -/
theorem find?_isUnknownOption_filter :
    (args.filter q).find? isUnknownOption = args.find? isUnknownOption := by
  rw [List.find?_filter]
  congr 1
  funext arg
  by_cases hknown : arg ∈ knownOptions
  · simp [isUnknownOption, hknown]
  · simp [hq arg hknown]

/-- If only known options are left out, the paths stay the same. -/
theorem filter_not_isOption_filter :
    (args.filter q).filter (!isOption ·) = args.filter (!isOption ·) := by
  rw [List.filter_filter]
  apply List.filter_congr
  intro arg _
  by_cases hknown : arg ∈ knownOptions
  · simp [isOption_of_mem_knownOptions hknown]
  · simp [hq arg hknown]

end

theorem ne_debug_of_notMem_knownOptions (arg : String) (h : arg ∉ knownOptions) :
    decide (arg ≠ "--debug") = true := by
  have hdebug : "--debug" ∈ knownOptions := by decide
  exact decide_eq_true (ne_of_mem_of_not_mem hdebug h).symm

namespace Request

/-- The same request without trace output. -/
def withoutTraces (r : Request) : Request := { r with settings := r.settings.withoutTraces }

/-- What arguments without an unknown option ask for. Paths are taken in order; of an option it
matters only whether it is there. -/
def asked (args : List String) : Request where
  snapshots := args.filter (!isOption ·)
  help := args.contains "-h" || args.contains "--help"
  version := args.contains "-V" || args.contains "--version"
  json := args.contains "--json"
  settings :=
    { debug := args.contains "--debug"
      reportUnresolved := args.contains "--report-unresolved"
      strictPointerMatch := args.contains "--strict-pointer-match" }

/-- Of arguments that are no paths it matters only which known options are among them. -/
theorem asked_of_contains {args args' : List String}
    (h : ∀ option ∈ knownOptions, args'.contains option = args.contains option) :
    asked args' = { asked args with snapshots := args'.filter (!isOption ·) } := by
  simp only [knownOptions, List.forall_mem_cons] at h
  obtain ⟨hh, hhelp, hV, hversion, hjson, hdebug, hreport, hstrict, -⟩ := h
  rw [asked, asked, hh, hhelp, hV, hversion, hjson, hdebug, hreport, hstrict]

/-- **One argument** is refused as an unknown option or asked for in addition. -/
theorem take_asked (args : List String) (arg : String) :
    (asked args).take arg =
      if isUnknownOption arg then .error (.unknownOption arg) else .ok (asked (args ++ [arg])) := by
  unfold take
  split
  case h_9 =>
    have hnew : arg ∉ knownOptions := by
      intro hmem
      simp only [knownOptions, List.mem_cons, List.not_mem_nil, or_false] at hmem
      tauto
    have hkept : ∀ option ∈ knownOptions,
        (args ++ [arg]).contains option = args.contains option := by
      intro option hoption
      have hne : option ≠ arg := ne_of_mem_of_not_mem hoption hnew
      simp [hne]
    rw [asked_of_contains hkept]
    change (if isOption arg then _ else _) = _
    cases hoption : isOption arg <;> simp [isUnknownOption, hoption, hnew, asked]
  all_goals simp [asked, isUnknownOption, isOption, knownOptions]

/-- **All arguments.** The first unknown option is reported, whatever else is asked for. -/
theorem ofArgs_eq (args : List String) :
    ofArgs args = match args.find? isUnknownOption with
      | some option => .error (.unknownOption option)
      | none => .ok (asked args) := by
  induction args using List.reverseRecOn with
  | nil => rfl
  | append_singleton args arg ih =>
    have hstep : ofArgs (args ++ [arg]) = ofArgs args >>= fun r => r.take arg := by
      simp [ofArgs]
    rw [hstep, ih, List.find?_append]
    cases args.find? isUnknownOption with
    | some option => rfl
    | none =>
      change (asked args).take arg = _
      rw [take_asked]
      cases hunknown : isUnknownOption arg <;> simp [hunknown]

/-- Trace output is asked for by one option, which asks for nothing else. -/
theorem asked_filter_debug (args : List String) :
    asked (args.filter (· ≠ "--debug")) = (asked args).withoutTraces := by
  rw [asked, filter_not_isOption_filter ne_debug_of_notMem_knownOptions]
  simp [asked, withoutTraces, Settings.withoutTraces]

end Request

/-- Two lists of arguments with the same known options, be it at other places and more or less
often, and with the same other arguments in the same order. -/
structure SameUpToOptions (args args' : List String) : Prop where
  options : ∀ option ∈ knownOptions, option ∈ args ↔ option ∈ args'
  others : args.filter (· ∉ knownOptions) = args'.filter (· ∉ knownOptions)

/-- The reading of the arguments sees the options as a set. -/
theorem SameUpToOptions.ofArgs_eq {args args' : List String} (h : SameUpToOptions args args') :
    Request.ofArgs args = Request.ofArgs args' := by
  have hcontains : ∀ option ∈ knownOptions, args.contains option = args'.contains option := by
    intro option hoption
    simp [h.options option hoption]
  have hothers : ∀ arg ∉ knownOptions, decide (arg ∉ knownOptions) = true :=
    fun _ harg => decide_eq_true harg
  have hasked : Request.asked args = Request.asked args' := by
    rw [Request.asked_of_contains hcontains, ← filter_not_isOption_filter hothers, h.others,
      filter_not_isOption_filter hothers]
    rfl
  rw [Request.ofArgs_eq, Request.ofArgs_eq, ← find?_isUnknownOption_filter hothers, h.others,
    find?_isUnknownOption_filter hothers, hasked]

/-! ## Lines -/

/-- The line of a diagnostic in text: `file:line:column: message`. -/
def textLine (d : Diagnostic) : String :=
  d.position.file ++ ":" ++ toString d.position.line.toNat ++ ":" ++
    toString d.position.column.toNat ++ ": " ++ d.message ++ "\n"

/-- A text in JSON. -/
def jsonText (s : String) : String := "\"" ++ String.ofList (Json.escape s) ++ "\""

/-- A position in JSON. -/
def jsonPosition (p : Position) : String :=
  Text.braced ("\"file\":" ++ jsonText p.file ++ ",\"line\":" ++ toString p.line.toNat ++
    ",\"column\":" ++ toString p.column.toNat)

/-- The line of a diagnostic in JSON. -/
def jsonLine (d : Diagnostic) : String :=
  Text.braced ("\"position\":" ++ jsonPosition d.position ++
    ",\"category\":" ++ jsonText d.category.tag ++ ",\"message\":" ++ jsonText d.message) ++ "\n"

@[simp] theorem toList_braced (s : String) : (Text.braced s).toList = '{' :: s.toList ++ ['}'] := by
  simp [Text.braced]

@[simp] theorem toList_jsonText (s : String) :
    (jsonText s).toList = '"' :: Json.escape s ++ ['"'] := by
  simp [jsonText]

/-- The names of the fields are written as they are. -/
theorem escape_fieldName :
    ∀ name ∈ ["file", "line", "column", "position", "category", "message"],
      Json.escape name = name.toList := by
  decide +kernel

theorem print_position (p : Position) :
    Json.print (p.toWire Json.dialect) = (jsonPosition p).toList := by
  have hfile := escape_fieldName "file" (by simp)
  have hline := escape_fieldName "line" (by simp)
  have hcolumn := escape_fieldName "column" (by simp)
  simp [Position.toWire, Dialect.record, Dialect.text, word32, Json.dialect, Json.print_table,
    Json.printMember, Json.print_text, Json.print_natural, List.intercalate_cons_cons, jsonPosition,
    hfile, hline, hcolumn]

theorem print_diagnostic (d : Diagnostic) :
    Json.print (d.toWire Json.dialect) ++ ['\n'] = (jsonLine d).toList := by
  have hposition := escape_fieldName "position" (by simp)
  have hcategory := escape_fieldName "category" (by simp)
  have hmessage := escape_fieldName "message" (by simp)
  have hinner := print_position d.position
  simp only [Json.dialect] at hinner
  simp [Diagnostic.toWire, Dialect.record, Dialect.text, Json.dialect, Json.print_table,
    Json.printMember, Json.print_text, List.intercalate_cons_cons, jsonLine, hposition, hcategory,
    hmessage, hinner]

/-- **The line of a diagnostic.** -/
theorem diagnosticLine_eq (json : Bool) (d : Diagnostic) :
    diagnosticLine json d = if json then jsonLine d else textLine d := by
  cases json with
  | false => rfl
  | true =>
    rw [← String.toList_inj]
    simp [diagnosticLine, ← print_diagnostic]

/-! ## Audits -/

/-- The snapshot at a path can be loaded and analyzed, with this report. -/
def Yields (files : Files) (settings : Settings) (path : String) (report : AuditReport) : Prop :=
  ∃ snapshot, Snapshot.load files path = .ok snapshot ∧
    Auditor.run { settings } snapshot = .ok report

/-- The snapshot at a path cannot be loaded, or it can be but not analyzed. -/
def FailsWith (files : Files) (settings : Settings) (path : String) (fault : Fault) : Prop :=
  Snapshot.load files path = .error fault ∨
    ∃ snapshot, Snapshot.load files path = .ok snapshot ∧
      Auditor.run { settings } snapshot = .error fault

/-- The output for some reports: all their diagnostics, one to a line. -/
def output (json : Bool) (reports : List AuditReport) : String :=
  String.join ((reports.flatMap AuditReport.diagnostics).map
    fun d => if json then jsonLine d else textLine d)

/-- Each path yields a report or fails. -/
theorem auditPath_cases (files : Files) (settings : Settings) (path : String) :
    (∃ fault, auditPath files settings path = .error (.fault fault) ∧
      FailsWith files settings path fault) ∨
    ∃ report, auditPath files settings path = .ok report ∧ Yields files settings path report := by
  unfold auditPath
  cases hload : Snapshot.load files path with
  | error fault => exact .inl ⟨fault, rfl, .inl hload⟩
  | ok snapshot =>
    cases hrun : Auditor.run { settings } snapshot with
    | error fault => exact .inl ⟨fault, by simp only [hrun], .inr ⟨snapshot, hload, hrun⟩⟩
    | ok report => exact .inr ⟨report, by simp only [hrun], snapshot, hload, hrun⟩

section

variable {files : Files} {r : Request} {path : String} (paths : List String)

theorem auditPaths_cons_error {f : Failure} (h : auditPath files r.settings path = .error f) :
    auditPaths files r (path :: paths) = ("", true, some f) := by
  rw [auditPaths, h]

theorem auditPaths_cons_ok {report : AuditReport}
    (h : auditPath files r.settings path = .ok report) :
    auditPaths files r (path :: paths) =
      (output r.json [report] ++ (auditPaths files r paths).1,
        !report.hasFindings && (auditPaths files r paths).2.1, (auditPaths files r paths).2.2) := by
  rw [auditPaths, h]
  simp [output, funext (diagnosticLine_eq r.json)]

end

theorem hasFindings_eq (report : AuditReport) :
    report.hasFindings = report.diagnostics.any Diagnostic.isFinding := by
  rw [Bool.eq_iff_iff]
  simp [AuditReport.hasFindings, AuditReport.findings]

/-- **All paths.** Each of them yields a report, or there is a first one that fails. -/
theorem auditPaths_cases (files : Files) (r : Request) (paths : List String) :
    (∃ reports, List.Forall₂ (Yields files r.settings) paths reports ∧
      auditPaths files r paths =
        (output r.json reports,
          !(reports.flatMap AuditReport.diagnostics).any Diagnostic.isFinding, none)) ∨
    ∃ before path after reports clean fault, paths = before ++ path :: after ∧
      List.Forall₂ (Yields files r.settings) before reports ∧
      FailsWith files r.settings path fault ∧
      auditPaths files r paths = (output r.json reports, clean, some (.fault fault)) := by
  induction paths with
  | nil => exact .inl ⟨[], .nil, rfl⟩
  | cons path paths ih =>
    obtain ⟨fault, haudit, hfails⟩ | ⟨report, haudit, hyields⟩ :=
      auditPath_cases files r.settings path
    · exact .inr ⟨[], path, paths, [], true, fault, rfl, .nil, hfails,
        auditPaths_cons_error paths haudit⟩
    · rw [auditPaths_cons_ok paths haudit]
      obtain ⟨reports, hreports, hrest⟩ |
        ⟨before, failing, after, reports, clean, fault, rfl, hreports, hfails, hrest⟩ := ih
      · refine .inl ⟨report :: reports, .cons hyields hreports, ?_⟩
        simp [hrest, output, hasFindings_eq]
      · refine .inr ⟨path :: before, failing, after, report :: reports,
          !report.hasFindings && clean, fault, rfl, .cons hyields hreports, hfails, ?_⟩
        simp [hrest, output]

/-- Trace output changes neither whether a path fails nor whether it yields findings. -/
theorem auditPath_withoutTraces (files : Files) (settings : Settings) (path : String) :
    (∃ f, auditPath files settings path = .error f ∧
      auditPath files settings.withoutTraces path = .error f) ∨
    ∃ report report', auditPath files settings path = .ok report ∧
      auditPath files settings.withoutTraces path = .ok report' ∧
      report.hasFindings = report'.hasFindings := by
  unfold auditPath
  cases Snapshot.load files path with
  | error fault => exact .inl ⟨.fault fault, rfl, rfl⟩
  | ok snapshot =>
    obtain ⟨fault, hrun, hrun'⟩ | ⟨report, report', hrun, hrun', hfindings⟩ :=
      Auditor.findings_withoutTraces .temporal settings snapshot
    · exact .inl ⟨.fault fault, by simp only [hrun], by simp only [hrun']⟩
    · refine .inr ⟨report, report', by simp only [hrun], by simp only [hrun'], ?_⟩
      rw [AuditReport.hasFindings, AuditReport.hasFindings, hfindings]

theorem auditPaths_withoutTraces (files : Files) (r : Request) (paths : List String) :
    (auditPaths files r.withoutTraces paths).2 = (auditPaths files r paths).2 := by
  induction paths with
  | nil => rfl
  | cons path paths ih =>
    obtain ⟨f, haudit, haudit'⟩ | ⟨report, report', haudit, haudit', hfindings⟩ :=
      auditPath_withoutTraces files r.settings path
    · rw [auditPaths_cons_error paths haudit,
        auditPaths_cons_error (r := r.withoutTraces) paths haudit']
    · rw [auditPaths_cons_ok paths haudit,
        auditPaths_cons_ok (r := r.withoutTraces) paths haudit', ih, hfindings]

/-! ## The outcome -/

/-- What the audit of the snapshots at some paths leaves behind. -/
inductive Audits (files : Files) (settings : Settings) (json : Bool) :
    List String → Outcome → Prop where
  /-- If each path yields a report, all diagnostics are printed, and the exit code tells whether
  one of them is a finding. -/
  | throughout {paths : List String} {reports : List AuditReport} {o : Outcome}
      (yields : List.Forall₂ (Yields files settings) paths reports)
      (stdout : o.stdout = output json reports)
      (exit : o.exitCode =
        if ∃ d ∈ reports.flatMap AuditReport.diagnostics, d.isFinding then 1 else 0) :
      Audits files settings json paths o
  /-- If a path fails, the diagnostics for those before it are printed, and the exit code tells of
  a failure. -/
  | upToFailure {before after : List String} {path : String} {reports : List AuditReport}
      {fault : Fault} {o : Outcome} (yields : List.Forall₂ (Yields files settings) before reports)
      (fails : FailsWith files settings path fault) (stdout : o.stdout = output json reports)
      (exit : o.exitCode = 1) : Audits files settings json (before ++ path :: after) o

section

variable {files : Files} {settings : Settings} {paths : List String} {reports : List AuditReport}

/-- A path yields at most one report. -/
theorem yields_rightUnique (files : Files) (settings : Settings) :
    Relator.RightUnique (Yields files settings) := by
  rintro path report report' ⟨snapshot, hload, hrun⟩ ⟨snapshot', hload', hrun'⟩
  obtain rfl : snapshot = snapshot' := Except.ok.inj (hload.symm.trans hload')
  exact Except.ok.inj (hrun.symm.trans hrun')

/-- A path that fails yields no report. -/
theorem FailsWith.not_exists_yields {path : String} {fault : Fault}
    (h : FailsWith files settings path fault) : ¬ ∃ report, Yields files settings path report := by
  rintro ⟨report, snapshot, hload, hrun⟩
  obtain hfault | ⟨snapshot', hload', hfault⟩ := h
  · cases hload.symm.trans hfault
  · obtain rfl : snapshot = snapshot' := Except.ok.inj (hload.symm.trans hload')
    cases hrun.symm.trans hfault

theorem exists_yields_of_mem (h : List.Forall₂ (Yields files settings) paths reports) :
    ∀ path ∈ paths, ∃ report, Yields files settings path report :=
  ((List.forall₂_and_left paths reports).1
    (h.imp fun _ report hyields => ⟨⟨report, hyields⟩, hyields⟩)).1

open Classical in
/-- The paths before one that fails are told by which paths yield a report. -/
theorem takeWhile_yields (h : List.Forall₂ (Yields files settings) paths reports) {path : String}
    {fault : Fault} (hfails : FailsWith files settings path fault) (after : List String) :
    (paths ++ path :: after).takeWhile (∃ report, Yields files settings · report) = paths := by
  have hall := exists_yields_of_mem h
  rw [List.takeWhile_append_of_pos (by simpa using hall),
    List.takeWhile_cons_of_neg (by simpa using hfails.not_exists_yields), List.append_nil]

/-- **Output and exit code are settled** by what the paths yield. -/
theorem Audits.unique {json : Bool} {o o' : Outcome} (h : Audits files settings json paths o)
    (h' : Audits files settings json paths o') :
    o.stdout = o'.stdout ∧ o.exitCode = o'.exitCode := by
  have hunique := (yields_rightUnique files settings).forall₂
  generalize hpaths : paths = paths' at h'
  cases h with
  | throughout yields stdout exit =>
    cases h' with
    | throughout yields' stdout' exit' =>
      subst hpaths
      obtain rfl := hunique yields yields'
      exact ⟨stdout.trans stdout'.symm, exit.trans exit'.symm⟩
    | upToFailure _ fails' _ _ =>
      exact absurd (exists_yields_of_mem yields _ (by simp [hpaths])) fails'.not_exists_yields
  | upToFailure yields fails stdout exit =>
    cases h' with
    | throughout yields' _ _ =>
      exact absurd (exists_yields_of_mem yields' _ (by simp [← hpaths])) fails.not_exists_yields
    | upToFailure yields' fails' stdout' exit' =>
      obtain rfl := (takeWhile_yields yields fails _).symm.trans
        (hpaths ▸ takeWhile_yields yields' fails' _)
      obtain rfl := hunique yields yields'
      exact ⟨stdout.trans stdout'.symm, exit.trans exit'.symm⟩

end

/-- What the answer to a request leaves behind. Help goes before the version, and both go before
any audit. -/
structure Serves (files : Files) (r : Request) (o : Outcome) : Prop where
  help : r.help = true → o.exitCode = 0 ∧ o.stdout = helpPage
  version : r.help = false → r.version = true → o.exitCode = 0 ∧ o.stdout = versionLine
  nothing : r.help = false → r.version = false → r.snapshots = [] →
    o.exitCode = 1 ∧ o.stdout = ""
  audit : r.help = false → r.version = false → r.snapshots ≠ [] →
    Audits files r.settings r.json r.snapshots o

theorem answer_serves (files : Files) (r : Request) : Serves files r (answer files r) := by
  refine ⟨?_, ?_, ?_, ?_⟩
  · intro hhelp
    simp [answer, hhelp]
  · intro hhelp hversion
    simp [answer, hhelp, hversion]
  · intro hhelp hversion hnone
    simp [answer, hhelp, hversion, hnone]
  · intro hhelp hversion hsome
    obtain ⟨reports, hreports, haudit⟩ |
      ⟨before, path, after, reports, clean, fault, hsplit, hreports, hfails, haudit⟩ :=
      auditPaths_cases files r r.snapshots
    · have hanswer : answer files r = ⟨if !(reports.flatMap AuditReport.diagnostics).any
          Diagnostic.isFinding then 0 else 1, output r.json reports, ""⟩ := by
        simp only [answer, hhelp, hversion, List.isEmpty_iff, hsome, haudit, if_false,
          Bool.false_eq_true]
      refine .throughout hreports (by rw [hanswer]) ?_
      rw [hanswer, if_congr (List.any_eq_true (p := Diagnostic.isFinding)).symm rfl rfl]
      cases (reports.flatMap AuditReport.diagnostics).any Diagnostic.isFinding <;> rfl
    · have hanswer : answer files r = ⟨1, output r.json reports, failureLine (.fault fault)⟩ := by
        simp [answer, hhelp, hversion, hsome, haudit]
      rw [hanswer, hsplit]
      exact .upToFailure hreports hfails rfl rfl

/-- The exit code in short. -/
theorem exitCode_answer (files : Files) (r : Request) :
    (answer files r).exitCode =
      if r.help || r.version then 0 else if r.snapshots.isEmpty then 1
      else if (auditPaths files r r.snapshots).2 = (true, none) then 0 else 1 := by
  unfold answer
  obtain ⟨text, clean, failure⟩ := auditPaths files r r.snapshots
  cases r.help <;> cases r.version <;> cases r.snapshots.isEmpty <;> cases failure <;>
    cases clean <;> rfl

theorem exitCode_answer_withoutTraces (files : Files) (r : Request) :
    (answer files r.withoutTraces).exitCode = (answer files r).exitCode := by
  rw [exitCode_answer, exitCode_answer, auditPaths_withoutTraces]
  rfl

/-- **What the command leaves behind.** An unknown option anywhere makes it fail without output.
Otherwise the request is served that the options, as a set, and the paths, in order, amount to:
moving or repeating known options changes nothing. Trace output never changes the exit code. -/
theorem run_answers (files : Files) (args : List String) :
    ((∃ arg ∈ args, isUnknownOption arg = true) →
        (run files args).exitCode = 1 ∧ (run files args).stdout = "") ∧
      ((∀ arg ∈ args, isUnknownOption arg = false) →
        Serves files (Request.asked args) (run files args)) ∧
      (∀ args', SameUpToOptions args args' → run files args = run files args') ∧
      (run files (args.filter (· ≠ "--debug"))).exitCode = (run files args).exitCode := by
  refine ⟨?_, ?_, ?_, ?_⟩
  · rintro ⟨arg, hmem, hunknown⟩
    obtain ⟨first, hfirst⟩ : ∃ first, args.find? isUnknownOption = some first := by
      rw [← Option.isSome_iff_exists, List.find?_isSome]
      exact ⟨arg, hmem, hunknown⟩
    simp [run, Request.ofArgs_eq, hfirst]
  · intro hknown
    have hnone : args.find? isUnknownOption = none := by
      rw [List.find?_eq_none]
      intro arg hmem
      simp [hknown arg hmem]
    rw [run, Request.ofArgs_eq, hnone]
    exact answer_serves files (Request.asked args)
  · intro args' h
    rw [run, run, h.ofArgs_eq]
  · rw [run, run, Request.ofArgs_eq, Request.ofArgs_eq, Request.asked_filter_debug,
      find?_isUnknownOption_filter ne_debug_of_notMem_knownOptions]
    cases args.find? isUnknownOption with
    | some option => rfl
    | none => exact exitCode_answer_withoutTraces files (Request.asked args)

/-- A program in which two calls are reported. -/
def carelessProgram : Snapshot := ⟨.predeclared, [Auditor.carelessUnit]⟩

/-- One file, which holds that program. -/
def oneFile : Files := fun path =>
  if path = "app.json" then .ok (SnapshotEncoding.json.encode carelessProgram)
  else .error "no such file"

/-- The report on it. -/
def oneFileReport (settings : Settings) : AuditReport :=
  ⟨[0].filterMap (Auditor.reportAlone { settings } carelessProgram)⟩

theorem oneFile_yields (settings : Settings) :
    Yields oneFile settings "app.json" (oneFileReport settings) := by
  have hformat : SnapshotEncoding.ofPath "app.json" = .json := by decide +kernel
  have hread : oneFile "app.json" =
      .ok ((SnapshotEncoding.ofPath "app.json").encode carelessProgram) := by
    rw [hformat, oneFile, if_pos rfl]
  have hroom : (SnapshotEncoding.ofPath "app.json").HasRoomFor carelessProgram := by
    rw [hformat, SnapshotEncoding.HasRoomFor]
    decide +kernel
  have horder : dependencyOrder carelessProgram.units = .ok [0] := by decide +kernel
  exact ⟨carelessProgram, Snapshot.load_of_saved hread hroom,
    (Auditor.run_eq_ok_iff { settings } _).2 ⟨_, horder, rfl⟩⟩

/-- One call is reported as text. Both are reported in JSON, before the command fails at a file
that is missing. -/
theorem oneFile_run_answers :
    (run oneFile ["app.json"]).exitCode = 1 ∧
    (run oneFile ["app.json"]).stdout =
      "app.go:1:1: Malformed call to `ExecuteActivity` - expected at least 2 arguments, got 1\n" ∧
    (run oneFile ["--json", "app.json", "lost.json", "--report-unresolved"]).exitCode = 1 ∧
    (run oneFile ["--json", "app.json", "lost.json", "--report-unresolved"]).stdout =
      Text.braced ("\"position\":" ++
        Text.braced "\"file\":\"extra.go\",\"line\":1,\"column\":1" ++
        ",\"category\":\"Unresolved\"," ++
        "\"message\":\"Could not resolve the type of the workflow/activity `\\\"missing\\\"`: " ++
        "no workflow or activity is registered as \\\"missing\\\"\"") ++ "\n" ++
      Text.braced ("\"position\":" ++
        Text.braced "\"file\":\"app.go\",\"line\":1,\"column\":1" ++
        ",\"category\":\"Malformed\"," ++
        "\"message\":\"Malformed call to `ExecuteActivity` - expected at least 2 arguments, " ++
        "got 1\"") ++ "\n" := by
  obtain ⟨-, htext, -⟩ := run_answers oneFile ["app.json"]
  obtain ⟨-, hjson, -⟩ :=
    run_answers oneFile ["--json", "app.json", "lost.json", "--report-unresolved"]
  have hserves := htext (by decide +kernel)
  have hserves' := hjson (by decide +kernel)
  have hasked : Request.asked ["app.json"] = { snapshots := ["app.json"] } := by decide +kernel
  have hasked' : Request.asked ["--json", "app.json", "lost.json", "--report-unresolved"] =
      { snapshots := ["app.json", "lost.json"], json := true, settings := { reportUnresolved := true } } := by
    decide +kernel
  rw [hasked] at hserves
  rw [hasked'] at hserves'
  -- what the paths yield settles the outcome, so it is enough to give one that fits
  have hwhole : Audits oneFile {} false ["app.json"] ⟨1, output false [oneFileReport {}], ""⟩ :=
    .throughout (.cons (oneFile_yields _) .nil) rfl (by decide +kernel)
  have hlost : FailsWith oneFile { reportUnresolved := true } "lost.json"
      ⟨.io "lost.json" "no such file", none⟩ := .inl rfl
  have hpart : Audits oneFile { reportUnresolved := true } true (["app.json"] ++ ["lost.json"])
      ⟨1, output true [oneFileReport { reportUnresolved := true }], ""⟩ :=
    .upToFailure (.cons (oneFile_yields _) .nil) hlost rfl rfl
  obtain ⟨hstdout, hexit⟩ := (hserves.audit rfl rfl (by decide)).unique hwhole
  obtain ⟨hstdout', hexit'⟩ := (hserves'.audit rfl rfl (by decide)).unique hpart
  refine ⟨hexit, hstdout.trans ?_, hexit', hstdout'.trans ?_⟩
  · decide +kernel
  · decide +kernel

end Command

end BindingAudit
