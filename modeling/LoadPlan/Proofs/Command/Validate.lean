import LoadPlan.Proofs.Command.Line
import LoadPlan.Proofs.Lint.Reports
import LoadPlan.Proofs.Scenario.Described

/-!
# Reports from the command line

If there is a report on a scenario file, the command that writes it ends with the verdict of the
report as its status, zero if the file is valid. The table of issues never stands in the way: where
issues are is told by texts. But the name of the test is written as well, and a test that is given a
name which is no text makes the command fail although its file is valid (`run_validate`).
-/

namespace LoadPlan.Command

open Logged
open Lint (Report)

/-! ## Command lines -/

/-- A command line that runs the body of `validate` on a file. -/
structure Validates (files : Files.Tree) (args : List String) (file : String) : Prop where
  /-- The first argument of the program is the name of the command. -/
  named : ∃ first rest w, words .program args = .ok first ∧ first.eager? = none ∧
    first.arguments = "validate" :: rest ∧ words .validate rest = .ok w ∧ w.eager? = none ∧
    argumentOf files .validate w = .ok file

theorem run_of_validates {files : Files.Tree} {args : List String} {file : String}
    (h : Validates files args file) : run files args = ended (validate files file) := by
  obtain ⟨first, rest, w, hfirst, heager, hname, hwords, hnoHelp, hargument⟩ := h.named
  rw [run_of_named hfirst heager hname rfl, runCommand, hwords]
  dsimp only
  rw [hnoHelp]
  dsimp only
  rw [hargument]

/-! ## What is written about a report -/

/-- A value that can be written as a name: one that is left out, or a text. -/
def IsPrinted (v : Value) : Prop :=
  v.isTruthy = false ∨ ∃ s, v = .text s

theorem exists_reportLines {r : Report} (h : IsPrinted r.testName) :
    ∃ lines, reportLines r = .ok lines := by
  unfold reportLines
  obtain hfalsy | ⟨s, hs⟩ := h
  · cases hname : r.testName with
    | text s => exact ⟨_, rfl⟩
    | _ =>
      rw [hname] at hfalsy
      simp only [hfalsy, Bool.false_eq_true, if_false]
      exact ⟨_, rfl⟩
  · rw [hs]
    exact ⟨_, rfl⟩

theorem reportLines_of_not_printed {r : Report} (h : ¬IsPrinted r.testName) :
    reportLines r = .error .wrongKind := by
  obtain ⟨hgiven, hnoText⟩ := not_or.mp h
  unfold reportLines
  cases hname : r.testName with
  | text s => exact absurd ⟨s, hname⟩ hnoText
  | _ =>
    rw [hname, Bool.not_eq_false] at hgiven
    simp only [hgiven, if_true]
    rfl

/-- The issues of a test whose scenarios have requests are at places that are told by texts. -/
theorem exists_location_of_check {t : Test} (hrequests : ∀ s ∈ t.scenarios, s.requests ≠ [])
    {report : Report} (h : (Lint.check t).result = .ok report) :
    ∀ issue ∈ report.issues, ∃ s, issue.location = .text s := by
  rw [Lint.issues_of_check h]
  intro issue hissue
  obtain ⟨s, hs, hissue⟩ := List.mem_flatMap.mp hissue
  rw [Lint.scenarioIssuesOf, if_neg (by simpa using hrequests s hs), List.nil_append] at hissue
  obtain ⟨r, -, hissue⟩ := List.mem_flatMap.mp hissue
  obtain ⟨x, -, rfl⟩ := List.mem_map.mp hissue
  exact ⟨_, rfl⟩

/-! ## Files -/

section Files

variable {files : Files.Tree} {file : String}

/-- A test that is loaded from a file has everything that one built from options has. -/
theorem isComplete_of_load {loaded : Loaded} (h : (Loaded.load files file).result = .ok loaded) :
    loaded.test.IsComplete := by
  obtain ⟨entries, hloaded⟩ := Loaded.isLoaded_of_load h
  have hdescribed : Options.OfEntity Test.DescribedBy
      (.mapping (entries.erase Loaded.settingsKey)) loaded.test :=
    (Test.ofOptions_describedBy _).of_run (Prod.ext hloaded.test rfl)
  obtain ⟨o, ho⟩ := hdescribed.exists_options
  exact ho.isComplete

/-- A report on a file is the one on the test that is loaded from it, or tells in its only issue,
which has no location, why there is none. -/
inductive IsReport (files : Files.Tree) (file : String) : Report → Prop
  | loaded {loaded : Loaded} {report : Report}
      (hload : (Loaded.load files file).result = .ok loaded)
      (hcheck : (Lint.check loaded.test).result = .ok report) :
      IsReport files file { report with path := some file }
  | unloaded {fault : Fault} {finding : Lint.Finding}
      (hload : (Loaded.load files file).result = .error fault)
      (hfinding : Lint.findingOf? fault = some finding) :
      IsReport files file (Lint.failed file finding)

theorem isReport_of_checkFile {report : Report}
    (h : (Lint.checkFile files file).result = .ok report) : IsReport files file report := by
  cases hload : (Loaded.load files file).result with
  | ok loaded =>
    rw [Lint.checkFile_of_loaded hload] at h
    obtain ⟨checked, hchecked, rfl⟩ := Except.map_eq_ok.mp h
    exact .loaded hload hchecked
  | error fault =>
    rw [Lint.checkFile_of_unloaded hload] at h
    cases hfinding : Lint.findingOf? fault with
    | none =>
      rw [Lint.caught_of_none hfinding] at h
      cases h
    | some finding =>
      rw [Lint.caught_of_finding hfinding] at h
      obtain rfl := Except.ok.inj h
      exact .unloaded hload hfinding

theorem IsReport.locations {report : Report} (h : IsReport files file report) :
    ∀ issue ∈ report.issues, issue.location = .null ∨ ∃ s, issue.location = .text s := by
  cases h with
  | loaded hload hcheck =>
    intro issue hissue
    exact .inr (exists_location_of_check (isComplete_of_load hload).requests hcheck issue hissue)
  | unloaded =>
    intro issue hissue
    obtain rfl := List.mem_singleton.mp hissue
    exact .inl rfl

/-- Only a file that is loaded, and so is valid, has a name that is not written. -/
theorem IsReport.isValid_of_not_printed {report : Report} (h : IsReport files file report)
    (hname : ¬IsPrinted report.testName) : report.isValid = true := by
  cases h with
  | @loaded _ checked hload hcheck =>
    have hvalid : checked.isValid = true :=
      Lint.isValid_of_check (Lint.built_of_load hload) hcheck
    exact hvalid
  | unloaded => exact absurd (.inl rfl) hname

/-! ## How the command ends -/

/-- How a command line for a report ends. -/
structure Delivers (files : Files.Tree) (report : Report) (out : Outcome) : Prop where
  untouched : out.files = files
  /-- The location of each issue can be written, whatever the name of the test is. -/
  locations : ∀ issue ∈ report.issues, issue.location = .null ∨ ∃ s, issue.location = .text s
  /-- The status is the verdict and no fault escapes, exactly if the name can be written. -/
  verdict : (out.status = (if report.isValid then 0 else 1) ∧ out.escaped = none) ↔
    IsPrinted report.testName
  /-- Otherwise the command fails for a valid file. -/
  failed : ¬IsPrinted report.testName →
    report.isValid = true ∧ out.status = 1 ∧ out.escaped = some .wrongKind

/-- Whatever the files are: a command line for a report on one of them, if there is one, ends with
the verdict of the report, unless the name of the test is given but is no text. -/
theorem run_validate {args : List String} (h : Validates files args file) {report : Report}
    (hreport : (Lint.checkFile files file).result = .ok report) :
    Delivers files report (run files args) := by
  have his := isReport_of_checkFile hreport
  rw [run_of_validates h]
  unfold validate
  rw [← Logged.result, hreport]
  dsimp only
  by_cases hname : IsPrinted report.testName
  · obtain ⟨lines, hlines⟩ := exists_reportLines hname
    rw [hlines]
    exact ⟨rfl, his.locations, iff_of_true ⟨rfl, rfl⟩ hname, fun hnot => absurd hname hnot⟩
  · rw [reportLines_of_not_printed hname]
    refine ⟨rfl, his.locations, iff_of_false ?_ hname, fun _ =>
      ⟨his.isValid_of_not_printed hname, rfl, rfl⟩⟩
    rintro ⟨-, hescaped⟩
    exact Option.some_ne_none _ hescaped

end Files

/-! ## Names of tests -/

/-- A command line for a report on a scenario file. -/
def validateArguments : List String :=
  ["validate", "s.json"]

/-- A scenario file with a text for the name of its test. -/
def namedFiles : Files.Tree :=
  Lint.onlyScenario "\x7b\"name\": \"T\"\x7d"

/-- A scenario file with a number for the name of its test. -/
def numberedFiles : Files.Tree :=
  Lint.onlyScenario "\x7b\"name\": 5\x7d"

theorem validates_onlyScenario (text : String) :
    Validates (Lint.onlyScenario text) validateArguments "s.json" :=
  ⟨⟨{ arguments := validateArguments }, ["s.json"], { arguments := ["s.json"] },
    rfl, rfl, rfl, rfl, rfl, rfl⟩⟩

/-- A report whose verdict is known. -/
theorem exists_report {files : Files.Tree} {file : String} {valid : Bool}
    (h : (Lint.checkFile files file).result.toOption.map Report.isValid = some valid) :
    ∃ report, (Lint.checkFile files file).result = .ok report ∧ report.isValid = valid := by
  cases hresult : (Lint.checkFile files file).result with
  | error fault =>
    rw [hresult] at h
    cases h
  | ok report =>
    rw [hresult] at h
    exact ⟨report, rfl, Option.some.inj h⟩

theorem run_validate_namedFiles : ∃ report,
    Validates namedFiles validateArguments "s.json" ∧
      (Lint.checkFile namedFiles "s.json").result = .ok report ∧
      Delivers namedFiles report (run namedFiles validateArguments) := by
  obtain ⟨report, hreport, -⟩ : ∃ report, (Lint.checkFile namedFiles "s.json").result = .ok report ∧
      report.isValid = true := exists_report (by decide +kernel)
  exact ⟨report, validates_onlyScenario _, hreport,
    run_validate (validates_onlyScenario _) hreport⟩

/-- The report says that the file is valid, but the command fails. -/
theorem run_validate_not_verdict : Validates numberedFiles validateArguments "s.json" ∧
    (∃ report, (Lint.checkFile numberedFiles "s.json").result = .ok report ∧
      report.isValid = true) ∧
    (run numberedFiles validateArguments).status = 1 ∧
    (run numberedFiles validateArguments).escaped = some .wrongKind :=
  ⟨validates_onlyScenario _, exists_report (by decide +kernel), by decide +kernel,
    by decide +kernel⟩

end LoadPlan.Command
