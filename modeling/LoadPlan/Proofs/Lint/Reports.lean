import LoadPlan.Lint.File
import LoadPlan.Proofs.Lint.Checkable
import LoadPlan.Proofs.Scenario.Grammar
import LoadPlan.Proofs.Scenario.Load
import LoadPlan.Proofs.Settings

/-!
# Reports on files

A report says that a file is not valid exactly if the file cannot be loaded. But not every file has
a report (`checkFile_reported`): one that is loaded has none if a request cannot be checked, and of
the faults of loading those that are no wrong shape and no trouble with reading escape, such as that
of an infinite number in the settings (`checkFile_escapes`).
-/

namespace LoadPlan.Lint

open Logged

variable {files : Files.Tree} {file : String}

/-! ## Reports and faults -/

theorem findingOf?_eq_none {fault : Fault} (h : fault.IsMismatch) : findingOf? fault = none := by
  cases fault <;> first | rfl | cases h

theorem isValid_failed {fault : Fault} {finding : Finding} (h : findingOf? fault = some finding) :
    (failed file finding).isValid = false := by
  unfold findingOf? at h
  split at h
  · obtain rfl := Option.some.inj h
    rfl
  · obtain rfl := Option.some.inj h
    rfl
  · obtain rfl := Option.some.inj h
    rfl
  · cases h

/-- Loads a file and checks its test. -/
def checkLoaded (files : Files.Tree) (file : String) : Logged Report := do
  let loaded ← Loaded.load files file
  let report ← check loaded.test
  return { report with path := some file }

/-- Reports a fault, if it is of a kind that is reported. -/
def caught (file : String) (fault : Fault) : Logged Report :=
  match findingOf? fault with
  | some finding => return failed file finding
  | none => throw fault

theorem checkFile_eq (files : Files.Tree) (file : String) :
    checkFile files file = tryCatch (checkLoaded files file) (caught file) :=
  rfl

theorem caught_of_finding {fault : Fault} {finding : Finding}
    (h : findingOf? fault = some finding) :
    (caught file fault).result = .ok (failed file finding) := by
  rw [caught, h]
  rfl

theorem caught_of_none {fault : Fault} (h : findingOf? fault = none) :
    (caught file fault).result = .error fault := by
  rw [caught, h]
  rfl

theorem caught_adds (file : String) (fault : Fault) : Adds (caught file fault) := by
  unfold caught
  split
  · exact Adds.pure _
  · exact Adds.throw _

theorem checkLoaded_result (files : Files.Tree) (file : String) :
    (checkLoaded files file).result = (Loaded.load files file).result >>= fun loaded =>
      (check loaded.test).result.map fun report => { report with path := some file } := by
  have hreturn (loaded : Loaded) : Adds (do
      let report ← check loaded.test
      return { report with path := some file }) :=
    (check_adds loaded.test).bind fun _ => Adds.pure _
  unfold checkLoaded
  rw [result_bind hreturn]
  congr 1
  funext loaded
  rw [result_bind fun _ => Adds.pure _]
  rfl

/-- A file that cannot be loaded is reported on if its fault is of a kind that is reported. -/
theorem checkFile_of_unloaded {fault : Fault}
    (h : (Loaded.load files file).result = .error fault) :
    (checkFile files file).result = (caught file fault).result := by
  rw [checkFile_eq, result_tryCatch _ (caught_adds file), checkLoaded_result, h]
  rfl

/-- A file that is loaded is reported on as its test is. -/
theorem checkFile_of_loaded {loaded : Loaded} (h : (Loaded.load files file).result = .ok loaded) :
    (checkFile files file).result =
      (check loaded.test).result.map fun report => { report with path := some file } := by
  have hchecked : (checkLoaded files file).result =
      (check loaded.test).result.map fun report => { report with path := some file } := by
    rw [checkLoaded_result, h]
    rfl
  rw [checkFile_eq, result_tryCatch _ (caught_adds file), hchecked]
  cases hcheck : (check loaded.test).result with
  | ok report => rfl
  | error fault =>
    have hmismatch := (check_succeeds loaded.test).isMismatch hcheck
    exact caught_of_none (findingOf?_eq_none hmismatch)

/-! ## Faults that escape -/

/-- Faults of loading a file that escape. -/
inductive Escapes (files : Files.Tree) (file : String) : Fault → Prop where
  /-- The path is too long to be looked at. -/
  | nameTooLong (h : files.find (Path.ofString file) = .error .nameTooLong) :
    Escapes files file (.system ⟨.nameTooLong, Path.ofString file⟩)
  /-- The reader of the document gives up, but not about its syntax. -/
  | document {fault : Fault} (h : Loaded.document files (Path.ofString file) = .error fault)
    (hreading : ∀ reading, fault ≠ .reading reading) : Escapes files file fault
  /-- A setting that is an integer is given as an infinite number. -/
  | setting {entries : Entries}
    (h : Loaded.document files (Path.ofString file) = .ok (.mapping entries))
    (hinfinite : Settings.HasInfinite (entries.get Loaded.settingsKey)) :
    Escapes files file .infinite
  /-- A setting has more digits than can be written. -/
  | digits {entries : Entries}
    (h : Loaded.document files (Path.ofString file) = .ok (.mapping entries))
    (hdigits : Settings.HasTooManyDigits (entries.get Loaded.settingsKey)) :
    Escapes files file .tooManyDigits
  /-- Options have keys that are no texts and cannot be sorted. -/
  | key {entries : Entries}
    (h : Loaded.document files (Path.ofString file) = .ok (.mapping entries))
    (hkeys : Value.entriesHaveTextKeys (entries.erase Loaded.settingsKey) = false) :
    Escapes files file .wrongKind

/-- A test with another fault than a wrong shape has options under a key that is no text. -/
theorem keys_of_fault {o : Entries} {fault : Fault}
    (h : ((Test.ofOptions (.mapping o)).outcome 1).1 = .error fault)
    (hshape : ∀ shape, fault ≠ .shape shape none) : Value.entriesHaveTextKeys o = false := by
  rw [Bool.eq_false_iff]
  intro hkeys
  have hverdict := Test.ofOptions_recognizes (.mapping o) hkeys { nextId := 1 }
  rw [← Build.outcome, h] at hverdict
  obtain ⟨shape, hfault⟩ := hverdict.shape
  exact hshape shape hfault

/-- A fault of loading that is not reported is one of those that escape. -/
theorem escapes_of_load {fault : Fault} (h : (Loaded.load files file).result = .error fault)
    (hnone : findingOf? fault = none) : Escapes files file fault := by
  have hwhy := Loaded.loadFault_of_load h
  clear h
  cases hwhy with
  | nameTooLong hfind => exact .nameTooLong hfind
  | missing => cases hnone
  | document hdocument =>
    refine .document hdocument fun reading hreading => ?_
    subst hreading
    cases hnone
  | kind => cases hnone
  | settings hdocument hsettings =>
    obtain ⟨shape, rfl⟩ | ⟨rfl, hinfinite⟩ | ⟨rfl, hdigits⟩ := Settings.fault_of_ofValue hsettings
    · cases hnone
    · exact .setting hdocument hinfinite
    · exact .digits hdocument hdigits
  | test hdocument htest =>
    obtain ⟨shape, rfl⟩ | rfl := (Test.ofOptions_failsOnOptions _).of_run (Prod.ext htest rfl) _ rfl
    · cases hnone
    · exact .key hdocument (keys_of_fault htest nofun)

/-! ## Files -/

/-- What comes of checking a file. -/
structure Reported (files : Files.Tree) (file : String) (result : Except Fault Report) : Prop where
  /-- A report says that the file is not valid exactly if the file cannot be loaded. -/
  valid : ∀ report, result = .ok report →
    (report.isValid = false ↔ ∃ fault, (Loaded.load files file).result = .error fault)
  /-- A file that is loaded has a report exactly if each of its requests can be checked. -/
  loaded : ∀ loaded, (Loaded.load files file).result = .ok loaded →
    ((∃ report, result = .ok report) ↔ ∀ r ∈ loaded.test.requests, IsCheckable r)
  /-- Otherwise a value of the wrong kind was used. -/
  mismatch : ∀ loaded fault, (Loaded.load files file).result = .ok loaded →
    result = .error fault → fault.IsMismatch
  /-- A file that cannot be loaded has a report with the fault as its only issue, unless the fault
  escapes. -/
  unloaded : ∀ fault, (Loaded.load files file).result = .error fault →
    (∃ finding, findingOf? fault = some finding ∧ result = .ok (failed file finding)) ∨
      Escapes files file fault ∧ result = .error fault

/-- A test that is loaded from a file was built from options. -/
theorem built_of_load {loaded : Loaded} (h : (Loaded.load files file).result = .ok loaded) :
    ∀ s ∈ loaded.test.scenarios, ∀ r ∈ s.requests, r.Built := by
  obtain ⟨entries, hloaded⟩ := Loaded.isLoaded_of_load h
  exact Test.built_of_outcome (Prod.ext hloaded.test rfl)

/-- Every file is reported on as described, or has one of the faults described. -/
theorem checkFile_reported (files : Files.Tree) (file : String) :
    Reported files file (checkFile files file).result where
  valid report hreport := by
    cases hload : (Loaded.load files file).result with
    | ok loaded =>
      rw [checkFile_of_loaded hload] at hreport
      obtain ⟨checked, hchecked, rfl⟩ := Except.map_eq_ok.mp hreport
      have hvalid : checked.isValid = true := isValid_of_check (built_of_load hload) hchecked
      change checked.isValid = false ↔ _
      rw [hvalid]
      exact iff_of_false nofun nofun
    | error fault =>
      rw [checkFile_of_unloaded hload] at hreport
      cases hfinding : findingOf? fault with
      | none =>
        rw [caught_of_none hfinding] at hreport
        cases hreport
      | some finding =>
        rw [caught_of_finding hfinding] at hreport
        obtain rfl := Except.ok.inj hreport
        exact iff_of_true (isValid_failed hfinding) ⟨fault, rfl⟩
  loaded loaded hload := by
    rw [checkFile_of_loaded hload]
    exact ((check_succeeds loaded.test).map _).exists_iff
  mismatch loaded fault hload hfault := by
    rw [checkFile_of_loaded hload] at hfault
    exact (check_succeeds loaded.test).isMismatch (Except.map_eq_error.mp hfault)
  unloaded fault hload := by
    rw [checkFile_of_unloaded hload]
    cases hfinding : findingOf? fault with
    | none => exact .inr ⟨escapes_of_load hload hfinding, caught_of_none hfinding⟩
    | some finding => exact .inl ⟨finding, rfl, caught_of_finding hfinding⟩

/-- A scenario file, the only one in its directory. -/
def onlyScenario (text : String) : Files.Tree :=
  ⟨[(⟨"", ["s.json"]⟩, .file text.toUTF8.data.toList)]⟩

/-- A scenario file with an infinite number for the threads, and one with a number for the method
of a request: neither has a report. -/
theorem checkFile_escapes :
    (checkFile (onlyScenario "\x7b\"settings\": \x7b\"threads\": Infinity\x7d\x7d") "s.json").result =
        .error .infinite ∧
      (checkFile (onlyScenario ("\x7b\"scenarioDefinition\": " ++
        "[\x7b\"requests\": [\x7b\"method\": 5\x7d]\x7d]\x7d")) "s.json").result =
          .error (.noMember "int" "upper") := by
  decide +kernel

end LoadPlan.Lint
