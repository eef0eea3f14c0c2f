import LoadPlan.Proofs.Command.Line
import LoadPlan.Proofs.Plan.Generate
import LoadPlan.Proofs.Plan.Load
import LoadPlan.Proofs.Scenario.Load

/-!
# Plans from the command line

For a plan a command loads a scenario file, puts the options of its command line in place of the
settings of the file, and writes the plan. If it ends with status zero, the plan is in its file and
carries the settings that were chosen; with any other status all files are as they were
(`run_generate`).
-/

namespace LoadPlan.Command

open Logged
open Xml (Node readText isChar)

/-! ## How the body ends -/

theorem prepared_eq_ok {files : Files.Tree} {w : Words} {file output : String} {t : Test}
    {settings : Settings} (h : prepared files w file = .ok (t, settings, output)) :
    ∃ loaded, (Loaded.load files file).result = .ok loaded ∧
      loaded.settings.override (overrides w) = .ok settings ∧ t = loaded.test ∧
      output = outputPath w file loaded.test.name := by
  obtain ⟨loaded, hload, h⟩ := Except.bind_eq_ok.mp h
  obtain ⟨chosen, hchosen, h⟩ := Except.bind_eq_ok.mp h
  obtain ⟨rfl, rfl, rfl⟩ := Prod.mk.inj (Except.ok.inj h) |>.imp_right Prod.mk.inj
  exact ⟨loaded, hload, hchosen, rfl, rfl⟩

theorem prepared_of_override {files : Files.Tree} {w : Words} {file : String} {loaded : Loaded}
    {settings : Settings} (hload : (Loaded.load files file).result = .ok loaded)
    (h : loaded.settings.override (overrides w) = .ok settings) :
    prepared files w file =
      .ok (loaded.test, settings, outputPath w file loaded.test.name) := by
  unfold prepared
  rw [← Logged.result, hload]
  change loaded.settings.override (overrides w) >>= _ = _
  rw [h]
  rfl

theorem ended_failed (files : Files.Tree) (lines : List String) (fault : Fault) :
    (ended (failed files lines fault)).status = 1 ∧
      (ended (failed files lines fault)).files = files := by
  unfold failed
  split <;> exact ⟨rfl, rfl⟩

section Ends

variable {files : Files.Tree} {w : Words} {file : String}

theorem generate_of_unprepared {fault : Fault} (h : prepared files w file = .error fault) :
    (ended (generate files w file)).status = 1 ∧
      (ended (generate files w file)).files = files := by
  unfold generate
  rw [h]
  exact ended_failed files [] fault

/-- A command that has a test and settings ends as its attempt to write a plan does. -/
theorem generate_of_prepared {t : Test} {settings : Settings} {output : String}
    (h : prepared files w file = .ok (t, settings, output)) :
    (ended (generate files w file)).files =
        (Plan.generate settings (pure t) files output).files ∧
      ((ended (generate files w file)).status = 0 ↔
        ∃ g, (Plan.generate settings (pure t) files output).result = .ok g) := by
  unfold generate
  rw [h]
  dsimp only
  cases (Plan.generate settings (pure t) files output).result with
  | error fault =>
    obtain ⟨hstatus, hfiles⟩ := ended_failed
      (Plan.generate settings (pure t) files output).files (announcement output settings) fault
    exact ⟨hfiles, by simp [hstatus]⟩
  | ok g => exact ⟨rfl, iff_of_true rfl ⟨g, rfl⟩⟩

end Ends

/-! ## Plans that are written -/

/-- A document that carries chosen settings, in each of some thread groups and of as many
listeners. -/
structure CarriesChosen (w : Words) (v : Value) (groups : Nat) (root : Node) : Prop where
  loads : ∃ threads rampTime loops, chosenInteger w .threads v "threads" 1 = some threads ∧
    chosenInteger w .rampUp v "ramp_time" 1 = some rampTime ∧
    chosenInteger w .loops v "loops" 1 = some loops ∧
    (root.withTag "ThreadGroup").map Plan.loadOf =
      List.replicate groups ⟨toString threads, toString rampTime, toString loops⟩
  /-- A document holds no other characters of the class than it can. -/
  classes : '\r' ∉ (chosenListener w v).toList →
    (root.withTag "BackendListener").map Plan.listenerClass =
      List.replicate groups (String.ofList ((chosenListener w v).toList.filter isChar))

theorem carriesChosen_of_carries {w : Words} {v : Value} {settings : Settings}
    (hchosen : Chosen w v settings) {groups : Nat} {root : Node}
    (h : Plan.Carries settings groups root) : CarriesChosen w v groups root where
  loads := by
    obtain ⟨threads, hthreads, hthreads'⟩ := hchosen.threads
    obtain ⟨rampTime, hrampTime, hrampTime'⟩ := hchosen.rampTime
    obtain ⟨loops, hloops, hloops'⟩ := hchosen.loops
    refine ⟨threads, rampTime, loops, hthreads', hrampTime', hloops', ?_⟩
    rw [h.loads, hthreads, hrampTime, hloops, Plan.readText_planText_int,
      Plan.readText_planText_int, Plan.readText_planText_int]
  classes hreturn := by
    have htext : Plan.planText settings.listener =
        String.ofList ((chosenListener w v).toList.filter isChar) := by
      rw [hchosen.listener]
      rfl
    rw [h.classes, htext, (Xml.readText_eq_self _).mpr]
    rw [String.toList_ofList]
    exact fun hmem => hreturn (List.mem_of_mem_filter hmem)

/-- What a command has written. -/
structure Written (files : Files.Tree) (w : Words) (file : String) (after : Files.Tree)
    (loaded : Loaded) (settings : Settings) (xml : String) : Prop where
  load : (Loaded.load files file).result = .ok loaded
  compiled : (Plan.toXml settings loaded.test).result = .ok xml
  /-- The plan is in its file, and no other file has changed. -/
  written : after.read (Path.ofString (outputPath w file loaded.test.name)) =
    .ok xml.toUTF8.data.toList
  others : ∀ place, place ≠ (Path.ofString (outputPath w file loaded.test.name)).goal →
    after.file? place = files.file? place
  /-- The settings are chosen from the command line and the document, and the plan carries them. -/
  chosen : ∃ (entries : Entries) (root : Node),
    Loaded.document files (Path.ofString file) = .ok (.mapping entries) ∧
    Chosen w (entries.get Loaded.settingsKey) settings ∧
    Xml.read xml.toUTF8.data.toList = .ok root ∧
    CarriesChosen w (entries.get Loaded.settingsKey) loaded.test.scenarios.length root

/-- How a command line for a plan ends: the plan is written, or no file has changed. -/
structure Generates (files : Files.Tree) (w : Words) (file : String) (out : Outcome) : Prop where
  written : out.status = 0 → ∃ loaded settings xml,
    Written files w file out.files loaded settings xml
  untouched : out.status ≠ 0 → ∀ place, out.files.file? place = files.file? place
  complete : out.status = 0 ↔ ∃ loaded settings, (Loaded.load files file).result = .ok loaded ∧
    loaded.settings.override (overrides w) = .ok settings ∧
    (∃ xml, (Plan.toXml settings loaded.test).result = .ok xml) ∧
    files.Writable (Path.ofString (outputPath w file loaded.test.name))

section Run

variable {files : Files.Tree} {args : List String} {w : Words} {file : String}

/-- What is written when the body ends with status zero. -/
theorem written_of_prepared {loaded : Loaded} {settings : Settings}
    (hvalid : ∀ f ∈ integerFlags, ∀ s, w.value? f = some s → ∃ n, Number.integer? s = some n)
    (hload : (Loaded.load files file).result = .ok loaded)
    (hsettings : loaded.settings.override (overrides w) = .ok settings) {g : Plan.Generated}
    (hwritten : (Plan.generate settings (pure loaded.test) files
      (outputPath w file loaded.test.name)).result = .ok g) :
    ∃ xml, Written files w file (Plan.generate settings (pure loaded.test) files
      (outputPath w file loaded.test.name)).files loaded settings xml := by
  obtain ⟨xml, hrendered, hwrite⟩ := Plan.generate_ok hwritten
  obtain ⟨hread, hothers⟩ := Files.Tree.write_of_ok hwrite
  have hxml : (Plan.toXml settings loaded.test).result = .ok xml := by
    have htext : (Plan.toXml settings loaded.test).result =
        (pure loaded.test >>= Plan.rendered settings).result.map Prod.fst :=
      Plan.bind_toXml_result (pure loaded.test)
    rw [htext, hrendered]
    rfl
  obtain ⟨root, hroot, hfrom⟩ := Plan.readFrom_of_toXml settings (outcome_eq_ok hxml)
  obtain ⟨entries, hentries⟩ := Loaded.isLoaded_of_load hload
  have hchosen : Chosen w (entries.get Loaded.settingsKey) settings :=
    chosen_of_override (Settings.ofSection_of_ofValue hentries.settings) hvalid hsettings
  exact ⟨xml, hload, hxml, hread, hothers, entries, root, hentries.document, hchosen, hroot,
    carriesChosen_of_carries hchosen (Plan.carries_of_readFrom hfrom)⟩

theorem ended_generates (h : Runs files args w file) :
    Generates files w file (ended (generate files w file)) := by
  cases hprepared : prepared files w file with
  | error fault =>
    obtain ⟨hstatus, hfiles⟩ := generate_of_unprepared hprepared
    refine ⟨by simp [hstatus], fun _ _ => by rw [hfiles], iff_of_false (by simp [hstatus]) ?_⟩
    rintro ⟨loaded, settings, hload, hsettings, -⟩
    rw [prepared_of_override hload hsettings] at hprepared
    cases hprepared
  | ok triple =>
    obtain ⟨t, settings, output⟩ := triple
    obtain ⟨loaded, hload, hsettings, rfl, rfl⟩ := prepared_eq_ok hprepared
    obtain ⟨hfiles, hstatus⟩ := generate_of_prepared hprepared
    refine ⟨fun hzero => ?_, fun hnonzero place => ?_, ?_⟩
    · obtain ⟨g, hg⟩ := hstatus.mp hzero
      obtain ⟨xml, hwritten⟩ := written_of_prepared
        (fun f hf s hs => exists_integer h.argument hf hs) hload hsettings hg
      rw [hfiles]
      exact ⟨loaded, settings, xml, hwritten⟩
    · cases hresult : (Plan.generate settings (pure loaded.test) files
          (outputPath w file loaded.test.name)).result with
      | ok g => exact absurd (hstatus.mpr ⟨g, hresult⟩) hnonzero
      | error fault =>
        rw [hfiles]
        exact (Plan.generate_error hresult).2 place
    · rw [hstatus, Plan.exists_generated_iff]
      constructor
      · rintro ⟨hxml, hwritable⟩
        exact ⟨loaded, settings, hload, hsettings, hxml, hwritable⟩
      · rintro ⟨loaded', settings', hload', hsettings', hxml, hwritable⟩
        obtain rfl := Except.ok.inj (hload.symm.trans hload')
        obtain rfl := Except.ok.inj (hsettings.symm.trans hsettings')
        exact ⟨hxml, hwritable⟩

/-- What a command line has written when it ends with status zero. -/
theorem written_of_runs (h : Runs files args w file) (hzero : (run files args).status = 0) :
    ∃ loaded settings xml, Written files w file (run files args).files loaded settings xml := by
  rw [run_of_runs h] at hzero ⊢
  exact (ended_generates h).written hzero

/-- Whatever the scenario file, the options and the files are: a plan is written whole, with the
settings that were chosen, or no file has changed. -/
theorem run_generate (h : Runs files args w file) : Generates files w file (run files args) := by
  rw [run_of_runs h]
  exact ended_generates h

end Run

/-! ## A class with a control character -/

/-- A scenario file with settings and no test. -/
def controlFiles : Files.Tree :=
  ⟨[(⟨"", ["s.json"]⟩, .file
    "\x7b\"settings\": \x7b\"threads\": \"3\", \"rampup\": 2\x7d\x7d".toUTF8.data.toList)]⟩

/-- A command line with a control character in the class of listeners. -/
def controlArguments : List String :=
  ["generate", "s.json", "--loops", "5", "--listener-class", "a\x01b"]

/-- The words of the command line. -/
def controlWords : Words where
  given := [(.loops, "5"), (.listener, "a\x01b")]
  arguments := ["s.json"]

theorem controlArguments_runs : Runs controlFiles controlArguments controlWords "s.json" :=
  ⟨⟨{ arguments := controlArguments }, _, rfl, rfl, rfl, rfl⟩, rfl, rfl⟩

theorem controlArguments_status : (run controlFiles controlArguments).status = 0 := by
  decide +kernel

theorem run_generate_controlArguments :
    Runs controlFiles controlArguments controlWords "s.json" ∧
      Generates controlFiles controlWords "s.json" (run controlFiles controlArguments) :=
  ⟨controlArguments_runs, run_generate controlArguments_runs⟩

/-- The path of the plan, and the number of scenarios of the file. -/
theorem load_controlFiles : (Loaded.load controlFiles "s.json").result.toOption.map (fun loaded =>
    (outputPath controlWords "s.json" loaded.test.name, loaded.test.scenarios.length)) =
      some ("s.jmx", 1) := by
  decide +kernel

/-- The control character is not in the plan that is written. -/
theorem run_generate_not_verbatim : controlWords.value? .listener = some "a\x01b" ∧
    (run controlFiles controlArguments).status = 0 ∧
    ∃ (xml : String) (root : Node),
      (run controlFiles controlArguments).files.read (Path.ofString "s.jmx") =
        .ok xml.toUTF8.data.toList ∧
      Xml.read xml.toUTF8.data.toList = .ok root ∧
      (root.withTag "BackendListener").map Plan.listenerClass = ["ab"] := by
  refine ⟨rfl, controlArguments_status, ?_⟩
  obtain ⟨loaded, settings, xml, hwritten⟩ :=
    written_of_runs controlArguments_runs controlArguments_status
  have hload := load_controlFiles
  rw [hwritten.load] at hload
  obtain ⟨hpath, hlength⟩ := Prod.mk.inj (Option.some.inj hload)
  obtain ⟨entries, root, -, -, hroot, hcarried⟩ := hwritten.chosen
  have hclass : chosenListener controlWords (entries.get Loaded.settingsKey) = "a\x01b" := rfl
  have hread := hwritten.written
  rw [hpath] at hread
  refine ⟨xml, root, hread, hroot, ?_⟩
  rw [hcarried.classes (by rw [hclass]; decide), hlength, hclass]
  decide +kernel

end LoadPlan.Command
