import LoadPlan.Proofs.Notice
import LoadPlan.Scenario.Loaded

/-!
# Loading scenario files

A scenario file is loaded when it is there, its document can be read and is a mapping, and both its
settings and the options of its test are accepted (`isLoaded_of_load`). Each step has its own
faults, and a file that is not loaded has the fault of one of them (`loadFault_of_load`).
-/

namespace LoadPlan

open Logged

/-! ## Builds -/

section Results

variable {α : Type}

theorem Build.logged_run (x : Build α) (first : Int) (before : List Notice) :
    (x.logged first).run before =
      ((x.outcome first).1, before ++ (x.outcome first).2.notices) := by
  unfold Build.logged
  rcases x.outcome first with ⟨_ | a, state⟩ <;> rfl

theorem Build.logged_adds (x : Build α) (first : Int) : Adds (x.logged first) := by
  intro before
  rw [Build.logged_run, Logged.outcome, Build.logged_run, List.nil_append]

@[simp]
theorem Build.logged_result (x : Build α) (first : Int) :
    (x.logged first).result = (x.outcome first).1 := by
  rw [Logged.result, Logged.outcome, Build.logged_run]

end Results

/-! ## Faults of options -/

/-- Faults of building from options: a wrong shape, or keys that cannot be sorted. -/
def Fault.OfOptions (fault : Fault) : Prop :=
  (∃ shape, fault = .shape shape none) ∨ fault = .wrongKind

namespace Build

variable {α β : Type}

/-- A build that fails only with the faults of options. -/
def FailsOnOptions (x : Build α) : Prop :=
  EachRun x fun _ result _ => ∀ fault, result = .error fault → fault.OfOptions

theorem FailsOnOptions.pure (a : α) : FailsOnOptions (Pure.pure a : Build α) :=
  EachRun.pure fun _ => nofun

theorem FailsOnOptions.throw {fault : Fault} (hfault : fault.OfOptions) :
    FailsOnOptions (MonadExcept.throw fault : Build α) :=
  EachRun.throw fun _ _ h => Except.error.inj h ▸ hfault

theorem FailsOnOptions.bind {x : Build α} {f : α → Build β} (hx : FailsOnOptions x)
    (hf : ∀ a, FailsOnOptions (f a)) : FailsOnOptions (x >>= f) :=
  EachRun.bind hx hf (fun _ h => h) fun hfirst fault h =>
    hfirst fault (Except.error.inj h ▸ rfl)

theorem FailsOnOptions.mapM {f : α → Build β} (hf : ∀ a, FailsOnOptions (f a)) (l : List α) :
    FailsOnOptions (l.mapM f) :=
  EachRun.mapM (L := fun _ _ result _ => ∀ fault, result = .error fault → fault.OfOptions)
    { nil := fun _ => nofun
      cons := fun _ _ => nofun
      first := fun hfirst fault h => hfirst fault (Except.error.inj h ▸ rfl)
      rest := fun _ hrest => hrest } fun a _ => hf a

theorem drawId_failsOnOptions : FailsOnOptions drawId :=
  fun _ => nofun

theorem ofValue_failsOnOptions (kind : Kind) (v : Value) :
    FailsOnOptions (Options.ofValue kind v) := by
  unfold Options.ofValue
  split
  · exact .pure _
  · exact .pure _
  · exact .throw (.inl ⟨_, rfl⟩)

theorem noteIgnored_failsOnOptions (kind : Kind) (o : Entries) :
    FailsOnOptions (Options.noteIgnored kind o) := by
  unfold Options.noteIgnored
  dsimp only
  split
  · exact .pure _
  · split
    · exact fun _ => nofun
    · exact .throw (.inr rfl)

theorem entities_failsOnOptions {f : Value → Build α} (hf : ∀ v, FailsOnOptions (f v)) (kind : Kind)
    (key : String) (v : Value) : FailsOnOptions (Options.entities f kind key v) := by
  unfold Options.entities
  split
  · exact .pure _
  · exact .mapM hf _
  · exact .throw (.inl ⟨_, rfl⟩)

/-- An entity is built from its options after those that are ignored are noted. -/
theorem entity_failsOnOptions (kind : Kind) {f : Entries → Build α}
    (hf : ∀ o, FailsOnOptions (f o)) (v : Value) :
    FailsOnOptions (Options.ofValue kind v >>= f) :=
  (ofValue_failsOnOptions kind v).bind hf

theorem noted_failsOnOptions (kind : Kind) (o : Entries) (a : α) :
    FailsOnOptions (Options.noteIgnored kind o >>= fun _ => Pure.pure a) :=
  (noteIgnored_failsOnOptions kind o).bind fun _ => .pure a

end Build

open Build

theorem Request.ofOptions_failsOnOptions (v : Value) : FailsOnOptions (Request.ofOptions v) := by
  have hkeyValues := entities_failsOnOptions (f := KeyValue.ofOptions) <|
    entity_failsOnOptions .keyValue fun o => noted_failsOnOptions .keyValue o _
  have htexts := entities_failsOnOptions (f := TextAssertion.ofOptions) <|
    entity_failsOnOptions .text fun o => noted_failsOnOptions .text o _
  have hregexes := entities_failsOnOptions (f := RegexAssertion.ofOptions) <|
    entity_failsOnOptions .regex fun o => noted_failsOnOptions .regex o _
  have hduration : ∀ v, FailsOnOptions (ResponseTime.ofOptions v) :=
    entity_failsOnOptions .responseTime fun o => noted_failsOnOptions .responseTime o _
  have hassertions : ∀ v, FailsOnOptions (Assertions.ofOptions v) :=
    entity_failsOnOptions .assertions fun o => (hduration _).bind fun _ =>
      (htexts _ _ _).bind fun _ => (hregexes _ _ _).bind fun _ => noted_failsOnOptions _ o _
  have hbody : ∀ v, FailsOnOptions (Body.ofOptions v) :=
    entity_failsOnOptions .body fun o => (hkeyValues _ _ _).bind fun _ =>
      noted_failsOnOptions _ o _
  exact entity_failsOnOptions .request (fun o => drawId_failsOnOptions.bind fun _ =>
    (hbody _).bind fun _ => (hassertions _).bind fun _ => (hkeyValues _ _ _).bind fun _ =>
      (hkeyValues _ _ _).bind fun _ => noted_failsOnOptions _ o _) v

/-- A test that is not built has a fault of its options. -/
theorem Test.ofOptions_failsOnOptions (v : Value) : FailsOnOptions (Test.ofOptions v) := by
  have hkeyValues := entities_failsOnOptions (f := KeyValue.ofOptions) <|
    entity_failsOnOptions .keyValue fun o => noted_failsOnOptions .keyValue o _
  have hscenario : ∀ v, FailsOnOptions (Scenario.ofOptions v) :=
    entity_failsOnOptions .scenario fun o => drawId_failsOnOptions.bind fun _ =>
      (hkeyValues _ _ _).bind fun _ => (hkeyValues _ _ _).bind fun _ =>
        (entities_failsOnOptions Request.ofOptions_failsOnOptions _ _ _).bind fun _ =>
          noted_failsOnOptions _ o _
  exact entity_failsOnOptions .test (fun o =>
    (entities_failsOnOptions hscenario _ _ _).bind fun _ => noted_failsOnOptions _ o _) v

namespace Loaded

/-! ## Documents -/

/-- A document that is a mapping gives its settings and the test of its other options. -/
theorem ofValue_mapping_result (entries : Entries) : (ofValue (.mapping entries)).result =
    Settings.ofValue (entries.get settingsKey) >>= fun settings =>
      ((Test.ofOptions (.mapping (entries.erase settingsKey))).outcome 1).1.map fun test =>
        { test, settings } := by
  unfold ofValue
  rw [result_bind fun _ => (Build.logged_adds _ 1).bind fun _ => Adds.pure _, result_lift]
  congr 1
  funext settings
  rw [result_bind fun _ => Adds.pure _, Build.logged_result]
  rfl

theorem ofValue_adds (v : Value) : Adds (ofValue v) := by
  unfold ofValue
  split
  · exact (Adds.lift _).bind fun _ => (Build.logged_adds _ 1).bind fun _ => Adds.pure _
  · exact Adds.throw _

/-! ## Files -/

section Load

variable {files : Files.Tree} {file : String}

/-- A document comes from a file that is read. -/
theorem read_of_document {path : Path} {v : Value} (h : document files path = .ok v) :
    ∃ bytes, files.read path = .ok bytes := by
  obtain ⟨cs, hcs, -⟩ := Except.bind_eq_ok.mp h
  unfold characters at hcs
  split at hcs
  · cases hcs
  · rename_i bytes hbytes
    exact ⟨bytes, hbytes⟩

theorem document_of_characters {path : Path} {cs : List Char}
    (h : characters files path = .ok cs) : document files path =
      if Text.lower path.suffix == ".json" then ofJson path cs else ofYaml path cs := by
  unfold document
  rw [h]
  exact pure_bind cs _

/-- What is loaded from a file that is there. -/
theorem load_of_found {item : Files.Item} (h : files.find (Path.ofString file) = .ok item) :
    (load files file).result = document files (Path.ofString file) >>= fun v =>
      ((ofValue v).result.mapError (inFile file)).map fun loaded =>
        { loaded with source := some (Path.ofString file) } := by
  unfold load
  dsimp only
  rw [h]
  dsimp only
  rw [result_bind fun v => ((ofValue_adds v).adapt _).bind fun _ =>
    (Adds.note _).bind fun _ => Adds.pure _, result_lift]
  congr 1
  funext v
  rw [result_bind fun _ => (Adds.note _).bind fun _ => Adds.pure _, result_adapt]
  rfl

/-- A file that is not there, or whose path is too long to look at. -/
theorem load_of_not_found {cause : Files.Cause}
    (h : files.find (Path.ofString file) = .error cause) : (load files file).result =
      .error (if cause = .nameTooLong then .system ⟨.nameTooLong, Path.ofString file⟩
        else .noScenarioFile file) := by
  unfold load
  dsimp only
  rw [h]
  cases cause <;> rfl

/-- Why a scenario file is not loaded. -/
inductive LoadFault (files : Files.Tree) (file : String) : Fault → Prop where
  | nameTooLong (h : files.find (Path.ofString file) = .error .nameTooLong) :
    LoadFault files file (.system ⟨.nameTooLong, Path.ofString file⟩)
  | missing {cause : Files.Cause} (h : files.find (Path.ofString file) = .error cause) :
    LoadFault files file (.noScenarioFile file)
  | document {fault : Fault} (h : document files (Path.ofString file) = .error fault) :
    LoadFault files file fault
  | kind {v : Value} (h : Loaded.document files (Path.ofString file) = .ok v)
    (hv : ∀ entries, v ≠ .mapping entries) :
    LoadFault files file (.shape (.document v.kind) (some file))
  | settings {entries : Entries} {fault : Fault}
    (h : Loaded.document files (Path.ofString file) = .ok (.mapping entries))
    (hsettings : Settings.ofValue (entries.get settingsKey) = .error fault) :
    LoadFault files file (inFile file fault)
  | test {entries : Entries} {fault : Fault}
    (h : Loaded.document files (Path.ofString file) = .ok (.mapping entries))
    (htest : ((Test.ofOptions (.mapping (entries.erase settingsKey))).outcome 1).1 =
      .error fault) :
    LoadFault files file (inFile file fault)

theorem loadFault_of_load {fault : Fault} (h : (load files file).result = .error fault) :
    LoadFault files file fault := by
  cases hfind : files.find (Path.ofString file) with
  | error cause =>
    rw [load_of_not_found hfind] at h
    obtain rfl := Except.error.inj h
    split
    · subst cause
      exact .nameTooLong hfind
    · exact .missing hfind
  | ok item =>
    rw [load_of_found hfind] at h
    obtain h | ⟨v, hv, h⟩ := Except.bind_eq_error.mp h
    · exact .document h
    rw [Except.map_eq_error, Except.mapError_eq_error] at h
    obtain ⟨cause, hcause, rfl⟩ := h
    by_cases hmapping : ∃ entries, v = .mapping entries
    · obtain ⟨entries, rfl⟩ := hmapping
      rw [ofValue_mapping_result] at hcause
      obtain hcause | ⟨settings, -, hcause⟩ := Except.bind_eq_error.mp hcause
      · exact .settings hv hcause
      · exact .test hv (Except.map_eq_error.mp hcause)
    · have hkind : (ofValue v).result = .error (.shape (.document v.kind) none) := by
        cases v <;> first | rfl | exact absurd ⟨_, rfl⟩ hmapping
      rw [hkind] at hcause
      obtain rfl := Except.error.inj hcause
      exact .kind hv fun entries hentries => hmapping ⟨entries, hentries⟩

/-- What is loaded from the document of a file. -/
structure IsLoaded (files : Files.Tree) (file : String) (entries : Entries) (loaded : Loaded) :
    Prop where
  document : document files (Path.ofString file) = .ok (.mapping entries)
  settings : Settings.ofValue (entries.get settingsKey) = .ok loaded.settings
  test : ((Test.ofOptions (.mapping (entries.erase settingsKey))).outcome 1).1 = .ok loaded.test

theorem isLoaded_of_load {loaded : Loaded} (h : (load files file).result = .ok loaded) :
    ∃ entries, IsLoaded files file entries loaded := by
  cases hfind : files.find (Path.ofString file) with
  | error cause =>
    rw [load_of_not_found hfind] at h
    cases h
  | ok item =>
    rw [load_of_found hfind] at h
    obtain ⟨v, hv, h⟩ := Except.bind_eq_ok.mp h
    obtain ⟨l, hl, rfl⟩ := Except.map_eq_ok.mp h
    rw [Except.mapError_eq_ok] at hl
    cases v with
    | mapping entries =>
      rw [ofValue_mapping_result] at hl
      obtain ⟨settings, hsettings, hl⟩ := Except.bind_eq_ok.mp hl
      obtain ⟨t, ht, rfl⟩ := Except.map_eq_ok.mp hl
      exact ⟨entries, hv, hsettings, ht⟩
    | _ => cases hl

end Load

end Loaded

end LoadPlan
