import LoadPlan.Proofs.Plan.Generate
import LoadPlan.Proofs.Plan.Properties

/-!
# The counts of a plan are true

The counts of a plan add up those of its requests (`stats_compiledTest`). A request counts what is
made for it, and nothing else is made; so each count is the number of elements of its kind in the
plan, and in the file that a reader finds (`generate_counts`).
-/

namespace LoadPlan

/-- A number in the counts of a plan that adds up when parts are put together. -/
structure Stats.IsAdditive (f : Stats → Nat) : Prop where
  zero : f {} = 0
  add : ∀ a b, f (a + b) = f a + f b

theorem Stats.add_eq (a b : Stats) : a + b =
    { threadGroups := a.threadGroups + b.threadGroups
      samplers := a.samplers + b.samplers
      headerManagers := a.headerManagers + b.headerManagers
      arguments := a.arguments + b.arguments
      bodies := a.bodies + b.bodies
      assertions := a.assertions + b.assertions
      durationAssertions := a.durationAssertions + b.durationAssertions } :=
  rfl

namespace Plan

open Logged
open Xml (Node ReadFrom isSpace)

/-! ## Sums -/

section Sums

variable {f : Stats → Nat} (h : Stats.IsAdditive f)

include h

theorem foldl_stats (l : List Stats) (first : Stats) :
    f (l.foldl (· + ·) first) = f first + (l.map f).sum := by
  induction l generalizing first with
  | nil => rfl
  | cons s l ih =>
    rw [List.foldl_cons, ih, h.add, List.map_cons, List.sum_cons]
    omega

theorem stats_collect {α : Type} (parts : List (Counted α)) :
    f (collect parts).stats = (parts.map fun c => f c.stats).sum := by
  rw [collect, foldl_stats h, h.zero, Nat.zero_add, List.map_map]
  rfl

/-- A plan counts its requests, and one thread group for each scenario. -/
theorem stats_compiledTest (settings : Settings) (t : Test) :
    f (compiledTest settings t).stats =
      (t.requests.map fun r => f (requestPart r).stats).sum +
        t.scenarios.length * f { threadGroups := 1 } := by
  have hgroup (s : Scenario) : f (scenarioPart settings s).stats =
      (s.requests.map fun r => f (requestPart r).stats).sum + f { threadGroups := 1 } := by
    rw [scenarioPart, groupOf, h.add, stats_collect h, List.map_map]
    rfl
  rw [compiledTest, stats_collect h, List.map_map]
  simp [Function.comp_def, hgroup, Test.requests, List.map_flatMap, sum_flatMap, List.sum_map_add]

end Sums

/-! ## Requests -/

/-- The headers of a request are counted where they are made, if they are. -/
theorem headersOf_stats (r : Request) :
    (headersOf r).stats = { headerManagers := (headersOf r).part.length } := by
  unfold headersOf
  dsimp only
  split <;> rfl

/-- An assertion on the duration is counted where it is made, if it is. -/
theorem durationOf_stats (a : Assertions) :
    (durationOf a).stats = { durationAssertions := (durationOf a).part.length } := by
  unfold durationOf
  split
  · split <;> rfl
  · rfl

theorem assertionParts_stats (r : Request) : (assertionParts r).stats =
    { assertions := (checkedRegexes r).length,
      durationAssertions := (durationParts r).length } := by
  unfold assertionParts checkedRegexes durationParts
  cases r.assertions with
  | none => rfl
  | some a =>
    dsimp only
    rw [regexParts, filterMap_regexPart?, List.length_map, durationOf_stats]
    simp [Stats.add_eq]

/-- What a request sends counts as arguments or bodies only. -/
theorem payload_stats (r : Request) (get : Bool) : (payload r get).stats =
    { arguments := (payload r get).stats.arguments, bodies := (payload r get).stats.bodies } := by
  rcases payload_cases r get with h | ⟨kvs, alwaysEncode, h⟩ | ⟨raw, kvs, alwaysEncode, h⟩ <;>
    rw [h]

/-- A request counts its sampler and what is made for it. -/
theorem requestPart_stats (r : Request) : (requestPart r).stats =
    { samplers := 1
      headerManagers := (managersOf r).length
      arguments := (payload r (usesGet r)).stats.arguments
      bodies := (payload r (usesGet r)).stats.bodies
      assertions := (checkedRegexes r).length
      durationAssertions := (durationParts r).length } := by
  rw [requestPart, compiledRequest, requestOf, assertionParts_stats, payload_stats, headersOf_stats,
    headersOf_eq_map, List.length_map]
  simp [Stats.add_eq]

/-! ## Counts of a test -/

/-- The counts of a plan, found from the test. -/
theorem compiledTest_stats (settings : Settings) (t : Test) : (compiledTest settings t).stats =
    { threadGroups := t.scenarios.length
      samplers := t.requests.length
      headerManagers := (t.requests.flatMap managersOf).length
      arguments := (t.requests.map fun r => (payload r (usesGet r)).stats.arguments).sum
      bodies := (t.requests.map fun r => (payload r (usesGet r)).stats.bodies).sum
      assertions := (t.requests.flatMap checkedRegexes).length
      durationAssertions := (t.requests.flatMap durationParts).length } := by
  have hsum {f : Stats → Nat} (h : Stats.IsAdditive f) := stats_compiledTest h settings t
  have hgroups := hsum (f := Stats.threadGroups) ⟨rfl, fun _ _ => rfl⟩
  have hsamplers := hsum (f := Stats.samplers) ⟨rfl, fun _ _ => rfl⟩
  have hmanagers := hsum (f := Stats.headerManagers) ⟨rfl, fun _ _ => rfl⟩
  have harguments := hsum (f := Stats.arguments) ⟨rfl, fun _ _ => rfl⟩
  have hbodies := hsum (f := Stats.bodies) ⟨rfl, fun _ _ => rfl⟩
  have hassertions := hsum (f := Stats.assertions) ⟨rfl, fun _ _ => rfl⟩
  have hdurations := hsum (f := Stats.durationAssertions) ⟨rfl, fun _ _ => rfl⟩
  simp only [requestPart_stats, Nat.mul_zero, Nat.mul_one, Nat.add_zero, List.map_const',
    List.sum_replicate, smul_eq_mul, ← List.length_flatMap, Nat.zero_add]
    at hgroups hsamplers hmanagers harguments hbodies hassertions hdurations
  rw [← hgroups, ← hsamplers, ← hmanagers, ← harguments, ← hbodies, ← hassertions, ← hdurations]

/-! ## Counts in a tree -/

/-- A tree has as many elements of each kind as counts say. -/
structure HasCounts (tree : Node) (s : Stats) : Prop where
  threadGroups : (tree.withTag "ThreadGroup").length = s.threadGroups
  samplers : (tree.withTag "HTTPSamplerProxy").length = s.samplers
  headerManagers : (tree.withTag "HeaderManager").length = s.headerManagers
  assertions : (tree.withTag "ResponseAssertion").length = s.assertions
  durationAssertions : (tree.withTag "DurationAssertion").length = s.durationAssertions
  allAssertions : (tree.withTag "ResponseAssertion").length +
    (tree.withTag "DurationAssertion").length = s.allAssertions
  /-- Marks of raw bodies, in the whole tree and in the samplers themselves. -/
  bodies : count "boolProp" rawBodyName tree = s.bodies
  ownBodies : ((tree.withTag "HTTPSamplerProxy").map (ownCount rawBodyName)).sum = s.bodies
  /-- Properties with arguments, in the whole tree and in the samplers themselves. -/
  arguments : count "elementProp" argumentsKind tree = s.arguments + s.bodies
  ownArguments : ((tree.withTag "HTTPSamplerProxy").map (ownCount argumentsName)).sum =
    s.arguments + s.bodies

theorem sum_of_forall₂ {α β : Type} {R : α → β → Prop} {f : α → Nat} {g : β → Nat} {as : List α}
    {bs : List β} (h : List.Forall₂ R as bs) (hsame : ∀ a b, R a b → f a = g b) :
    (as.map f).sum = (bs.map g).sum := by
  induction h with
  | nil => rfl
  | cons hab _ ih =>
    rw [List.map_cons, List.map_cons, List.sum_cons, List.sum_cons, ih, hsame _ _ hab]

/-- A reader counts what was written. -/
theorem HasCounts.of_readFrom {read written : Node} {s : Stats} (h : HasCounts written s)
    (hread : ReadFrom read written) : HasCounts read s := by
  have hlength (tag : String) : (read.withTag tag).length = (written.withTag tag).length :=
    (hread.withTag tag).length_eq
  have hraw : HaveNoBlanks rawBodyName := by simp [HaveNoBlanks, rawBodyName, isSpace]
  have hname : HaveNoBlanks argumentsName := by simp [HaveNoBlanks, argumentsName, isSpace]
  have hkind : HaveNoBlanks argumentsKind := by simp [HaveNoBlanks, argumentsKind, isSpace]
  exact {
    threadGroups := (hlength _).trans h.threadGroups
    samplers := (hlength _).trans h.samplers
    headerManagers := (hlength _).trans h.headerManagers
    assertions := (hlength _).trans h.assertions
    durationAssertions := (hlength _).trans h.durationAssertions
    allAssertions := by rw [hlength, hlength, h.allAssertions]
    bodies := (count_readFrom hread hraw _).trans h.bodies
    ownBodies := (sum_of_forall₂ (hread.withTag _) fun _ _ hsampler =>
      ownCount_readFrom hsampler hraw).trans h.ownBodies
    arguments := (count_readFrom hread hkind _).trans h.arguments
    ownArguments := (sum_of_forall₂ (hread.withTag _) fun _ _ hsampler =>
      ownCount_readFrom hsampler hname).trans h.ownArguments }

/-- The tree of a plan has what the plan counts. -/
theorem compiledTest_hasCounts (settings : Settings) (t : Test) :
    HasCounts (compiledTest settings t).part.toNode (compiledTest settings t).stats := by
  have hassertions : ((compiledTest settings t).part.toNode.withTag "ResponseAssertion").length =
      (t.requests.flatMap checkedRegexes).length := by
    rw [withTag_responseAssertion, List.length_map]
  have hdurations : ((compiledTest settings t).part.toNode.withTag "DurationAssertion").length =
      (t.requests.flatMap durationParts).length := by
    rw [withTag_durationAssertion, List.length_map]
  rw [compiledTest_stats]
  exact {
    threadGroups := by rw [withTag_threadGroup, List.length_map]
    samplers := by rw [withTag_sampler, List.length_map]
    headerManagers := by rw [withTag_headerManager, List.length_map]
    assertions := hassertions
    durationAssertions := hdurations
    allAssertions := by rw [hassertions, hdurations, Stats.allAssertions]
    bodies := count_rawBody settings t
    ownBodies := by
      rw [withTag_sampler, List.map_map]
      simp [Function.comp_def, ownCount_rawBody]
    arguments := by rw [count_arguments, List.sum_map_add]
    ownArguments := by
      rw [withTag_sampler, List.map_map]
      simp [Function.comp_def, ownCount_arguments, List.sum_map_add] }

/-! ## Written files -/

/-- The counts that are given with a plan are those of the file that was written. -/
theorem generate_counts {settings : Settings} {test : Logged Test} {files : Files.Tree}
    {output : String} {g : Generated}
    (h : (generate settings test files output).result = .ok g) :
    ∃ bytes tree,
      (generate settings test files output).files.read (Path.ofString output) = .ok bytes ∧
        Xml.read bytes = .ok tree ∧ HasCounts tree g.stats := by
  obtain ⟨xml, hrendered, hwrite⟩ := generate_ok h
  obtain ⟨t, plan, -, hplan, hrender, hstats⟩ := exists_plan_of_rendered hrendered
  have hxml : (toXml settings t).outcome = (.ok xml, (compile settings t).outcome.2) := by
    rw [toXml_outcome settings (outcome_eq_ok hplan), hrender]
  obtain ⟨tree, hread, hfrom⟩ := readFrom_of_toXml settings hxml
  obtain rfl := eq_compiledTest settings hplan
  refine ⟨xml.toUTF8.data.toList, tree, (Files.Tree.write_of_ok hwrite).1, hread, ?_⟩
  rw [← hstats]
  exact (compiledTest_hasCounts settings t).of_readFrom hfrom

/-- The counts of the sample. Its GET request sends a parameter; its POST request has a header, a
raw body, an assertion on a known part of the response and one on the duration. -/
def sampleStats : Stats where
  threadGroups := 1
  samplers := 2
  headerManagers := 1
  arguments := 1
  bodies := 1
  assertions := 1
  durationAssertions := 1

theorem compiledTest_sampleTest : (compiledTest {} sampleTest).stats = sampleStats := by
  decide +kernel

/-- The sample is written into an empty directory. -/
theorem exists_generated_sampleTest :
    ∃ g, (generate {} (pure sampleTest) ⟨[]⟩ "plan.jmx").result = .ok g := by
  obtain ⟨xml, hxml⟩ := toXml_of_hasMethod {} hasMethod_sampleTest
  have hwritable : (⟨[]⟩ : Files.Tree).Writable (Path.ofString "plan.jmx") := by decide
  exact exists_generated_iff.mpr ⟨⟨xml, result_of_outcome hxml⟩, hwritable⟩

theorem generate_counts_sample :
    ∃ g, (generate {} (pure sampleTest) ⟨[]⟩ "plan.jmx").result = .ok g ∧ g.stats = sampleStats ∧
      ∃ bytes tree,
        (generate {} (pure sampleTest) ⟨[]⟩ "plan.jmx").files.read (Path.ofString "plan.jmx") =
            .ok bytes ∧
          Xml.read bytes = .ok tree ∧ HasCounts tree g.stats := by
  obtain ⟨g, hg⟩ := exists_generated_sampleTest
  obtain ⟨xml, hrendered, -⟩ := generate_ok hg
  obtain ⟨t, plan, htest, hplan, -, hstats⟩ := exists_plan_of_rendered hrendered
  obtain rfl : sampleTest = t := Except.ok.inj htest
  obtain rfl := eq_compiledTest {} hplan
  exact ⟨g, hg, hstats ▸ compiledTest_sampleTest, generate_counts hg⟩

end Plan

end LoadPlan
