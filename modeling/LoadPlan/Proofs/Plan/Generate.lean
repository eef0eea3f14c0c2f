import LoadPlan.Plan.Generate
import LoadPlan.Proofs.Files.Write
import LoadPlan.Proofs.Plan.Compiled

/-!
# All or nothing

Writing the plan of a test either leaves the text of the plan in its file, or changes no file and
gives a fault of its own kind, whatever went wrong. It succeeds exactly if the test has a plan and
the path can be written: a plan is rendered as a whole before the first file is touched, and a file
is only written when all directories above it are there.
-/

namespace LoadPlan

/-- Faults of writing a plan. -/
def Fault.IsGeneration : Fault → Prop
  | .notATest _ => True
  | .generation _ => True
  | _ => False

namespace Plan

open Logged

theorem asGeneration_isGeneration (fault : Fault) : (asGeneration fault).IsGeneration := by
  unfold asGeneration
  split <;> trivial

/-! ## Plans and their texts -/

section Text

variable {settings : Settings}

theorem rendered_adds (settings : Settings) (t : Test) : Adds (rendered settings t) :=
  (compile_adds settings t).bind fun _ => (Adds.lift _).bind fun _ => Adds.pure _

theorem rendered_result (t : Test) : (rendered settings t).result =
    (compile settings t).result >>= fun plan =>
      plan.part.render.map fun xml => (xml, plan.stats) := by
  unfold rendered
  rw [result_bind fun _ => (Adds.lift _).bind fun _ => Adds.pure _]
  congr 1
  funext plan
  rw [result_bind fun _ => Adds.pure _, result_lift]
  cases plan.part.render <;> rfl

/-- A plan with its counts has the text that the plan alone has. -/
theorem bind_toXml_result (test : Logged Test) : (test >>= toXml settings).result =
    (test >>= rendered settings).result.map Prod.fst := by
  rw [result_bind (toXml_adds settings), result_bind (rendered_adds settings)]
  cases test.result with
  | error fault => rfl
  | ok t =>
    change (toXml settings t).result = (rendered settings t).result.map Prod.fst
    rw [rendered_result, toXml_result]
    cases (compile settings t).result with
    | error fault => rfl
    | ok plan =>
      change plan.part.render = (plan.part.render.map fun xml => (xml, plan.stats)).map Prod.fst
      cases plan.part.render <;> rfl

/-- What is rendered is the text of the plan of a test, with the counts of the plan. -/
theorem exists_plan_of_rendered {test : Logged Test} {xml : String} {stats : Stats}
    (h : (test >>= rendered settings).result = .ok (xml, stats)) :
    ∃ t plan, test.result = .ok t ∧ (compile settings t).result = .ok plan ∧
      plan.part.render = .ok xml ∧ plan.stats = stats := by
  rw [result_bind (rendered_adds settings)] at h
  obtain ⟨t, ht, h⟩ := Except.bind_eq_ok.mp h
  rw [rendered_result] at h
  obtain ⟨plan, hplan, h⟩ := Except.bind_eq_ok.mp h
  cases hrender : plan.part.render with
  | error fault =>
    rw [hrender] at h
    cases h
  | ok text =>
    rw [hrender] at h
    obtain ⟨rfl, rfl⟩ := Prod.mk.inj (Except.ok.inj h)
    exact ⟨t, plan, ht, hplan, hrender, rfl⟩

end Text

/-! ## Written plans -/

section Attempts

variable {settings : Settings} {test : Logged Test} (files : Files.Tree) (output : String)

/-- A plan that cannot be rendered is not written. -/
theorem generate_of_fault {fault : Fault} (h : (test >>= rendered settings).result = .error fault) :
    (generate settings test files output).files = files ∧
      (generate settings test files output).result = .error (asGeneration fault) := by
  have houtcome : (test >>= rendered settings).outcome =
      (.error fault, (test >>= rendered settings).outcome.2) := Prod.ext h rfl
  unfold generate
  rw [houtcome]
  exact ⟨rfl, rfl⟩

/-- A plan that is rendered is written if its path can be. -/
theorem generate_of_rendered {xml : String} {stats : Stats} {files' : Files.Tree}
    {problem? : Option Files.Problem}
    (h : (test >>= rendered settings).result = .ok (xml, stats))
    (hwrite : files.write (Path.ofString output) xml.toUTF8.data.toList = (files', problem?)) :
    (generate settings test files output).files = files' ∧
      (generate settings test files output).result =
        problem?.elim (.ok ⟨Path.ofString output, stats⟩) fun problem =>
          .error (asGeneration (.system problem)) := by
  unfold generate
  rw [outcome_eq_ok h]
  dsimp only
  rw [hwrite]
  cases problem? <;> exact ⟨rfl, rfl⟩

variable {files : Files.Tree} {output : String}

/-- What is written was rendered, and its path could be written. -/
theorem generate_ok {g : Generated} (h : (generate settings test files output).result = .ok g) :
    ∃ xml, (test >>= rendered settings).result = .ok (xml, g.stats) ∧
      files.write (Path.ofString output) xml.toUTF8.data.toList =
        ((generate settings test files output).files, none) := by
  cases hrendered : (test >>= rendered settings).result with
  | error fault =>
    rw [(generate_of_fault files output hrendered).2] at h
    cases h
  | ok pair =>
    obtain ⟨xml, stats⟩ := pair
    rcases hwrite : files.write (Path.ofString output) xml.toUTF8.data.toList with
      ⟨files', _ | problem⟩
    · obtain ⟨hfiles, hresult⟩ := generate_of_rendered files output hrendered hwrite
      rw [hresult] at h
      obtain rfl := Except.ok.inj h
      exact ⟨xml, rfl, by rw [hwrite, hfiles]⟩
    · rw [(generate_of_rendered files output hrendered hwrite).2] at h
      cases h

/-- What is not written leaves the files alone. -/
theorem generate_error {fault : Fault}
    (h : (generate settings test files output).result = .error fault) :
    fault.IsGeneration ∧
      ∀ place, (generate settings test files output).files.file? place = files.file? place := by
  cases hrendered : (test >>= rendered settings).result with
  | error cause =>
    obtain ⟨hfiles, hresult⟩ := generate_of_fault files output hrendered
    rw [hresult] at h
    obtain rfl := Except.error.inj h
    rw [hfiles]
    exact ⟨asGeneration_isGeneration cause, fun _ => rfl⟩
  | ok pair =>
    obtain ⟨xml, stats⟩ := pair
    rcases hwrite : files.write (Path.ofString output) xml.toUTF8.data.toList with
      ⟨files', _ | problem⟩
    · rw [(generate_of_rendered files output hrendered hwrite).2] at h
      cases h
    · obtain ⟨hfiles, hresult⟩ := generate_of_rendered files output hrendered hwrite
      rw [hresult] at h
      obtain rfl := Except.error.inj h
      rw [hfiles]
      exact ⟨asGeneration_isGeneration _, Files.Tree.write_of_problem hwrite⟩

/-- A plan is written exactly if it can be rendered and its path can be written. -/
theorem exists_generated_iff : (∃ g, (generate settings test files output).result = .ok g) ↔
    (∃ xml, (test >>= toXml settings).result = .ok xml) ∧
      files.Writable (Path.ofString output) := by
  constructor
  · rintro ⟨g, h⟩
    obtain ⟨xml, hrendered, hwrite⟩ := generate_ok h
    refine ⟨⟨xml, ?_⟩, Files.Tree.exists_write_iff.mp ⟨_, hwrite⟩⟩
    rw [bind_toXml_result, hrendered]
    rfl
  · rintro ⟨⟨xml, hxml⟩, hwritable⟩
    rw [bind_toXml_result] at hxml
    cases hrendered : (test >>= rendered settings).result with
    | error fault =>
      rw [hrendered] at hxml
      cases hxml
    | ok pair =>
      obtain ⟨text, stats⟩ := pair
      obtain ⟨files', hwrite⟩ := hwritable.exists_write text.toUTF8.data.toList
      refine ⟨⟨Path.ofString output, stats⟩, ?_⟩
      exact (generate_of_rendered files output hrendered hwrite).2

end Attempts

/-- What an attempt to write the plan of a test comes to: the text of the plan in its file, or a
fault, and no other file is touched. -/
structure AllOrNothing (settings : Settings) (test : Logged Test) (files : Files.Tree)
    (output : String) (attempt : Attempt) : Prop where
  written : ∀ g, attempt.result = .ok g →
    ∃ xml, (test >>= toXml settings).result = .ok xml ∧
      attempt.files.read (Path.ofString output) = .ok xml.toUTF8.data.toList
  others : ∀ g, attempt.result = .ok g →
    ∀ place, place ≠ (Path.ofString output).goal →
      attempt.files.file? place = files.file? place
  fault : ∀ fault, attempt.result = .error fault → fault.IsGeneration
  untouched : ∀ fault, attempt.result = .error fault →
    ∀ place, attempt.files.file? place = files.file? place
  complete : (∃ g, attempt.result = .ok g) ↔
    (∃ xml, (test >>= toXml settings).result = .ok xml) ∧ files.Writable (Path.ofString output)

/-- Whatever the settings, the files and the path are, and whether a test is given as it is, by `pure`,
or as options or another value, by `testOf`: its plan is written, or no file is. -/
theorem generate_allOrNothing (settings : Settings) (test : Logged Test) (files : Files.Tree)
    (output : String) :
    AllOrNothing settings test files output (generate settings test files output) where
  written g h := by
    obtain ⟨xml, hrendered, hwrite⟩ := generate_ok h
    refine ⟨xml, ?_, (Files.Tree.write_of_ok hwrite).1⟩
    rw [bind_toXml_result, hrendered]
    rfl
  others g h := by
    obtain ⟨xml, -, hwrite⟩ := generate_ok h
    exact (Files.Tree.write_of_ok hwrite).2
  fault fault h := (generate_error h).1
  untouched fault h := (generate_error h).2
  complete := exists_generated_iff

end Plan

end LoadPlan
