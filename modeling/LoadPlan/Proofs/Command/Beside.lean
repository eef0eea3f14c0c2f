import LoadPlan.Proofs.Command.Generate
import LoadPlan.Proofs.Files.Spelling

/-!
# Plans beside their scenario files

If a command line names no file for its plan, the plan is named for the test, or else for the
scenario file, and meant to stay in the directory of the scenario file. It does so exactly if its
name holds no slash, and it replaces the scenario file if that has the same name already
(`run_generate_beside`).
-/

namespace LoadPlan.Command

open Logged

/-! ## Names of plans -/

/-- The name of a plan without its suffix, if no path is given: that of the test, or else that of
the scenario file. -/
def planStem (file : String) (name : Value) : String :=
  if name.isTruthy then name.display else (Path.ofString file).stem

/-- The name of a plan, if no path is given. -/
def planName (file : String) (name : Value) : String :=
  planStem file name ++ ".jmx"

theorem defaultOutput_eq (file : String) (name : Value) : defaultOutput file name =
    (Path.ofString file).parent.join (.ofString (planName file name)) :=
  rfl

theorem tidy_defaultOutput (file : String) (name : Value) : (defaultOutput file name).Tidy :=
  (Path.tidy_ofString file).parent.join (Path.tidy_ofString _)

theorem outputPath_of_not_given {w : Words} (h : w.value? .output = none) (file : String)
    (name : Value) : Path.ofString (outputPath w file name) = defaultOutput file name := by
  rw [outputPath, h]
  exact Path.ofString_toString (tidy_defaultOutput file name)

theorem toList_planName (file : String) (name : Value) : (planName file name).toList =
    (planStem file name).toList ++ ['.', 'j', 'm', 'x'] :=
  String.toList_append

theorem slash_mem_planName {file : String} {name : Value} :
    '/' ∈ (planName file name).toList ↔ '/' ∈ (planStem file name).toList := by
  simp [toList_planName]

theorem isPiece_planName {file : String} {name : Value}
    (h : '/' ∉ (planStem file name).toList) : Path.IsPiece (planName file name) := by
  refine ⟨?_, mt slash_mem_planName.mp h⟩
  rw [toList_planName]
  cases (planStem file name).toList <;> simp [Path.isName]

theorem planName_ne_back (file : String) (name : Value) : planName file name ≠ ".." := by
  intro hback
  have hlength := congrArg (fun s : String => s.toList.length) hback
  rw [toList_planName] at hlength
  simp at hlength

section Place

variable {file : String} {name : Value}

/-- The plan goes into the directory of the scenario file if its name holds no slash. -/
theorem goal_defaultOutput (h : '/' ∉ (planStem file name).toList) :
    (defaultOutput file name).goal =
      ⟨(Path.ofString file).parent.goal.root,
        (Path.ofString file).parent.goal.names ++ [planName file name]⟩ := by
  have hpath : defaultOutput file name = ⟨(Path.ofString file).root,
      (Path.ofString file).parent.names ++ [planName file name]⟩ := by
    rw [defaultOutput_eq, Path.ofString_of_isPiece (isPiece_planName h)]
    rfl
  have hlast : (defaultOutput file name).names =
      (defaultOutput file name).parent.names ++ [planName file name] := by
    simp [hpath, Path.parent]
  have hparent : (defaultOutput file name).parent = (Path.ofString file).parent := by
    simp [hpath, Path.parent]
  rw [Path.goal_of_last hlast, hparent, Path.enter, if_neg (planName_ne_back file name)]

/-- A name with a slash is no name of a place. -/
theorem name_goal_ne_planName (h : '/' ∈ (planStem file name).toList) :
    (defaultOutput file name).goal.name ≠ planName file name := by
  intro hname
  have hslash := slash_mem_planName.mpr h
  have hnames : (defaultOutput file name).goal.names ≠ [] := by
    intro hnil
    rw [← hname, Path.name, hnil] at hslash
    cases hslash
  have hmem : planName file name ∈ (defaultOutput file name).goal.names :=
    hname ▸ Path.name_mem hnames
  exact ((tidy_defaultOutput file name).names _ (Path.names_goal _ hmem)).noSlash hslash

end Place

/-- A plan that is named for its scenario file has no slash in its name, and it has the name of the
scenario file if that has the suffix of plans. -/
theorem planName_of_unnamed {file : String} {name : Value} (hname : name.isTruthy = false)
    (hnames : (Path.ofString file).names ≠ []) : '/' ∉ (planStem file name).toList ∧
      ((Path.ofString file).name = planName file name ↔ (Path.ofString file).suffix = ".jmx") := by
  have hstem : planStem file name = (Path.ofString file).stem := by simp [planStem, hname]
  have hwhole := (Path.ofString file).stem_append_suffix
  constructor
  · intro hslash
    apply ((Path.tidy_ofString file).names _ (Path.name_mem hnames)).noSlash
    rw [← hwhole, String.toList_append]
    exact List.mem_append_left _ (hstem ▸ hslash)
  · rw [← hwhole, planName, hstem, String.append_right_inj]

/-! ## Plans in their default places -/

/-- What a plan that was written in its default place has done to files. -/
structure WrittenBeside (files : Files.Tree) (file : String) (name : Value) (xml : String)
    (after : Files.Tree) : Prop where
  scenario : ∃ bytes, files.file? (Path.ofString file).goal = some bytes
  /-- The plan is in its place, and no other file has changed. -/
  written : after.file? (defaultOutput file name).goal = some xml.toUTF8.data.toList
  others : ∀ place, place ≠ (defaultOutput file name).goal →
    after.file? place = files.file? place
  /-- The plan stays in the directory of the scenario file, under its own name, unless there is a
  slash in it. -/
  beside : ((defaultOutput file name).goal.parent = (Path.ofString file).goal.parent ∧
    (defaultOutput file name).goal.name = planName file name) ↔
      '/' ∉ (planStem file name).toList
  /-- There it replaces no scenario file but one of the same name. -/
  kept : '/' ∉ (planStem file name).toList → (Path.ofString file).name ≠ planName file name →
    after.file? (Path.ofString file).goal = files.file? (Path.ofString file).goal
  replaced : '/' ∉ (planStem file name).toList → (Path.ofString file).name = planName file name →
    after.file? (Path.ofString file).goal = some xml.toUTF8.data.toList
  /-- So a plan without a name of its own stays there, and replaces the scenario file exactly if
  that has the suffix of plans. -/
  unnamed : name.isTruthy = false → '/' ∉ (planStem file name).toList ∧
    ((Path.ofString file).name = planName file name ↔ (Path.ofString file).suffix = ".jmx")

theorem writtenBeside_of_read {files after : Files.Tree} {file : String} {name : Value}
    {xml : String} {bytes : List UInt8} (hscenario : files.read (Path.ofString file) = .ok bytes)
    (hwritten : after.read (defaultOutput file name) = .ok xml.toUTF8.data.toList)
    (hothers : ∀ place, place ≠ (defaultOutput file name).goal →
      after.file? place = files.file? place) : WrittenBeside files file name xml after := by
  obtain ⟨hbytes, hnames, hapart⟩ := Files.Tree.file_of_read hscenario
  have hplan := (Files.Tree.file_of_read hwritten).1
  have hgoal := Path.goal_of_apart hnames hapart
  refine ⟨⟨bytes, hbytes⟩, hplan, hothers, ⟨?_, ?_⟩, ?_, ?_, ?_⟩
  · rintro ⟨-, hname⟩ hslash
    exact name_goal_ne_planName hslash hname
  · intro hslash
    rw [goal_defaultOutput hslash, hgoal]
    simp [Path.parent, Path.name]
  · intro hslash hname
    refine hothers _ fun hsame => hname ?_
    rw [goal_defaultOutput hslash, hgoal] at hsame
    simpa using hsame
  · intro hslash hname
    rw [hgoal, hname, ← goal_defaultOutput hslash, hplan]
  · exact fun hname => planName_of_unnamed hname hnames

section Run

variable {files : Files.Tree} {args : List String} {w : Words} {file : String}

/-- Whatever the scenario file and the name of its test are: a plan for which no path is given is
written beside the scenario file unless its name holds a slash, and the scenario file stays as it
is unless its name is that of the plan. -/
theorem run_generate_beside (h : Runs files args w file) (hdefault : w.value? .output = none)
    (hstatus : (run files args).status = 0) : ∃ loaded settings xml,
      (Loaded.load files file).result = .ok loaded ∧
      (Plan.toXml settings loaded.test).result = .ok xml ∧
      WrittenBeside files file loaded.test.name xml (run files args).files := by
  obtain ⟨loaded, settings, xml, hwritten⟩ := written_of_runs h hstatus
  obtain ⟨entries, hentries⟩ := Loaded.isLoaded_of_load hwritten.load
  obtain ⟨bytes, hbytes⟩ := Loaded.read_of_document hentries.document
  have hplan := hwritten.written
  have hothers := hwritten.others
  rw [outputPath_of_not_given hdefault] at hplan hothers
  exact ⟨loaded, settings, xml, hwritten.load, hwritten.compiled,
    writtenBeside_of_read hbytes hplan hothers⟩

end Run

/-! ## Plans elsewhere, and in place of scenario files -/

/-- A scenario file in a directory, with a name for its test that leads out of it. -/
def outsideFiles : Files.Tree :=
  ⟨[(⟨"", ["d"]⟩, .directory),
    (⟨"", ["d", "s.json"]⟩, .file "\x7b\"name\": \"../x\"\x7d".toUTF8.data.toList)]⟩

/-- A command line without a path for its plan. -/
def outsideArguments : List String :=
  ["generate", "d/s.json"]

/-- The words of the command line. -/
def outsideWords : Words where
  arguments := ["d/s.json"]

theorem outsideArguments_runs : Runs outsideFiles outsideArguments outsideWords "d/s.json" :=
  ⟨⟨{ arguments := outsideArguments }, _, rfl, rfl, rfl, rfl⟩, rfl, rfl⟩

theorem outsideArguments_ends : (run outsideFiles outsideArguments).status = 0 ∧
    (run outsideFiles outsideArguments).files.file? ⟨"", ["x.jmx"]⟩ ≠ none := by
  decide +kernel

theorem run_generate_beside_outsideArguments :
    Runs outsideFiles outsideArguments outsideWords "d/s.json" ∧
      outsideWords.value? .output = none ∧
      (run outsideFiles outsideArguments).status = 0 ∧
      ∃ loaded settings xml, (Loaded.load outsideFiles "d/s.json").result = .ok loaded ∧
        (Plan.toXml settings loaded.test).result = .ok xml ∧
        WrittenBeside outsideFiles "d/s.json" loaded.test.name xml
          (run outsideFiles outsideArguments).files :=
  ⟨outsideArguments_runs, rfl, outsideArguments_ends.1,
    run_generate_beside outsideArguments_runs rfl outsideArguments_ends.1⟩

/-- An empty scenario file with the suffix of plans. -/
def ownFiles : Files.Tree :=
  ⟨[(⟨"", ["T.jmx"]⟩, .file "\x7b\x7d".toUTF8.data.toList)]⟩

/-- A command line without a path for its plan. -/
def ownArguments : List String :=
  ["generate", "T.jmx"]

/-- The words of the command line. -/
def ownWords : Words where
  arguments := ["T.jmx"]

theorem ownArguments_runs : Runs ownFiles ownArguments ownWords "T.jmx" :=
  ⟨⟨{ arguments := ownArguments }, _, rfl, rfl, rfl, rfl⟩, rfl, rfl⟩

theorem document_ownFiles :
    Loaded.document ownFiles (Path.ofString "T.jmx") = .ok (.mapping []) := by
  have hcharacters : Loaded.characters ownFiles (Path.ofString "T.jmx") =
      .ok ['\x7b', '\x7d'] := rfl
  have hread : Yaml.read ['\x7b', '\x7d'] = .ok (.mapping []) := by cbv
  have hsuffix : ¬ (Text.lower (Path.ofString "T.jmx").suffix == ".json") = true := by
    decide +kernel
  rw [Loaded.document_of_characters hcharacters, if_neg hsuffix, Loaded.ofYaml, hread]

/-- What is loaded from the empty scenario file. -/
theorem load_ownFiles : (Loaded.load ownFiles "T.jmx").result =
    ((Loaded.ofValue (.mapping [])).result.mapError (Loaded.inFile "T.jmx")).map fun loaded =>
      { loaded with source := some (Path.ofString "T.jmx") } := by
  have hfind : ownFiles.find (Path.ofString "T.jmx") = .ok (.file [123, 125]) := rfl
  rw [Loaded.load_of_found hfind, document_ownFiles]
  rfl

theorem ownArguments_ends : (run ownFiles ownArguments).status = 0 ∧
    (run ownFiles ownArguments).files.file? ⟨"", ["T.jmx"]⟩ ≠
      ownFiles.file? ⟨"", ["T.jmx"]⟩ := by
  rw [run_of_runs ownArguments_runs]
  unfold generate
  rw [prepared, ← Logged.result, load_ownFiles]
  decide +kernel

/-- A name that leads out of the directory, and a scenario file that the plan replaces. -/
theorem run_generate_not_beside :
    (Runs outsideFiles outsideArguments outsideWords "d/s.json" ∧
      outsideWords.value? .output = none ∧ (run outsideFiles outsideArguments).status = 0 ∧
      outsideFiles.file? ⟨"", ["x.jmx"]⟩ = none ∧
      (run outsideFiles outsideArguments).files.file? ⟨"", ["x.jmx"]⟩ ≠ none) ∧
    Runs ownFiles ownArguments ownWords "T.jmx" ∧ ownWords.value? .output = none ∧
      (run ownFiles ownArguments).status = 0 ∧
      (run ownFiles ownArguments).files.file? ⟨"", ["T.jmx"]⟩ ≠
        ownFiles.file? ⟨"", ["T.jmx"]⟩ :=
  ⟨⟨outsideArguments_runs, rfl, outsideArguments_ends.1, rfl, outsideArguments_ends.2⟩,
    ownArguments_runs, rfl, ownArguments_ends⟩

end LoadPlan.Command
