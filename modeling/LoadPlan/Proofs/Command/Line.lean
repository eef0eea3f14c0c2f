import LoadPlan.Command.Run
import LoadPlan.Proofs.Notice
import LoadPlan.Proofs.Settings

/-!
# Command lines and the settings they choose

A command line for a plan that is read without misuse runs the body of its command (`run_of_runs`),
and then its options have been checked. Each setting that it gives an option for is that of the
option, the others are those of the document, and where that has none, defaults
(`chosen_of_override`).
-/

namespace LoadPlan.Command

/-! ## Command lines -/

/-- A command line that runs the body of `generate` on a file. -/
structure Runs (files : Files.Tree) (args : List String) (w : Words) (file : String) : Prop where
  /-- The first argument of the program is the name of the command. -/
  named : ∃ first rest, words .program args = .ok first ∧ first.eager? = none ∧
    first.arguments = "generate" :: rest ∧ words .generate rest = .ok w
  noHelp : w.eager? = none
  argument : argumentOf files .generate w = .ok file

/-- A command line whose first argument is the name of a command runs it with the rest. -/
theorem run_of_named {files : Files.Tree} {args rest : List String} {first : Words} {name : String}
    {t : Topic} (hfirst : words .program args = .ok first) (heager : first.eager? = none)
    (hname : first.arguments = name :: rest) (ht : commandNamed? name = some t) :
    run files args = runCommand files t rest := by
  have hargs : args.isEmpty = false := by
    cases args with
    | nil =>
      obtain rfl := Except.ok.inj hfirst
      cases hname
    | cons => rfl
  rw [run, hargs, hfirst]
  simp only [Bool.false_eq_true, if_false, heager, hname, ht]

theorem run_of_runs {files : Files.Tree} {args : List String} {w : Words} {file : String}
    (h : Runs files args w file) : run files args = ended (generate files w file) := by
  obtain ⟨first, rest, hfirst, heager, hname, hwords⟩ := h.named
  rw [run_of_named hfirst heager hname rfl, runCommand, hwords]
  dsimp only
  rw [h.noHelp]
  dsimp only
  rw [h.argument]

theorem checkOption_of_forM {files : Files.Tree} {w : Words} {flags : List Flag}
    (h : flags.forM (checkOption files w) = .ok ()) : ∀ f ∈ flags, checkOption files w f = .ok () := by
  induction flags with
  | nil => simp
  | cons f flags ih =>
    change checkOption files w f >>= (fun _ => flags.forM (checkOption files w)) = .ok () at h
    obtain ⟨⟨⟩, hf, h⟩ := Except.bind_eq_ok.mp h
    exact List.forall_mem_cons.mpr ⟨hf, ih h⟩

/-- An option that was given has been checked. -/
theorem checkOption_of_argumentOf {files : Files.Tree} {t : Topic} {w : Words} {file : String}
    (h : argumentOf files t w = .ok file) {f : Flag} {s : String} (hgiven : w.value? f = some s) :
    checkOption files w f = .ok () := by
  obtain ⟨⟨⟩, hchecked, -⟩ := Except.bind_eq_ok.mp h
  refine checkOption_of_forM hchecked f ?_
  unfold Words.value? at hgiven
  obtain ⟨e, he, -⟩ := Option.map_eq_some_iff.mp hgiven
  have hflag : e.1 = f := by simpa using List.find?_some he
  exact List.mem_map.mpr ⟨e, List.mem_reverse.mp (List.mem_of_find?_eq_some he), hflag⟩

/-- The options that are integers. -/
def integerFlags : List Flag :=
  [.threads, .rampUp, .loops]

theorem exists_integer {files : Files.Tree} {t : Topic} {w : Words} {file : String}
    (h : argumentOf files t w = .ok file) {f : Flag} (hf : f ∈ integerFlags) {s : String}
    (hgiven : w.value? f = some s) : ∃ n, Number.integer? s = some n := by
  have hchecked := checkOption_of_argumentOf h hgiven
  have hinteger : checkOption files w f = if (Number.integer? s).isSome then .ok ()
      else .error (.notAnInteger f s) := by
    simp only [integerFlags, List.mem_cons, List.not_mem_nil, or_false] at hf
    obtain rfl | rfl | rfl := hf <;> simp only [checkOption, hgiven]
  rw [hinteger] at hchecked
  cases hn : Number.integer? s with
  | some n => exact ⟨n, rfl⟩
  | none =>
    rw [hn] at hchecked
    cases hchecked

/-! ## The settings that are chosen -/

/-- The integer that is chosen for a setting: that of the command line, else that of a section of a
document, else a default. -/
def chosenInteger (w : Words) (f : Flag) (v : Value) (name : String) (default : Int) : Option Int :=
  match w.value? f with
  | some s => Number.integer? s
  | none => Settings.sectionInteger v name default

/-- The class of listeners that is chosen, likewise. -/
def chosenListener (w : Words) (v : Value) : String :=
  (w.value? .listener).getD
    (Settings.sectionText v "listener_classname" Settings.usualListener)

/-- Settings that a command line and a section of a document choose; a command line has no options
for the last two. -/
structure Chosen (w : Words) (v : Value) (s : Settings) : Prop where
  threads : ∃ n, s.threads = .int n ∧ chosenInteger w .threads v "threads" 1 = some n
  rampTime : ∃ n, s.rampTime = .int n ∧ chosenInteger w .rampUp v "ramp_time" 1 = some n
  loops : ∃ n, s.loops = .int n ∧ chosenInteger w .loops v "loops" 1 = some n
  listener : s.listener = .text (chosenListener w v)
  onSampleError : s.onSampleError = .text (Settings.sectionText v "on_sample_error" "continue")
  version : s.version = .text (Settings.sectionText v "jmeter_version" "5.2.1")

/-- The value that an option which is an integer puts in place of a setting, null if none. -/
def givenInteger (w : Words) (f : Flag) : Value :=
  match (w.value? f).bind Number.integer? with
  | some n => .int n
  | none => .null

/-- The text that an option puts in place of a setting, null if none. -/
def givenText (w : Words) (f : Flag) : Value :=
  ((w.value? f).map Value.text).getD .null

theorem overrides_eq (w : Words) : overrides w =
    [("threads", givenInteger w .threads), ("ramp_time", givenInteger w .rampUp),
     ("loops", givenInteger w .loops), ("listener_classname", givenText w .listener)] :=
  rfl

/-- A value in place of an old one, unless it is null. -/
def insteadOf (v old : Value) : Value :=
  if v.isNull then old else v

/-- The first of some settings is replaced before the others. -/
theorem replace_cons {s : Settings} {name : String} (set : Value → Settings) (old v : Value)
    (rest : List (String × Value)) (hset : ∀ v, s.set? name v = some (set v)) (hold : set old = s) :
    s.replace ((name, v) :: rest) = (set (insteadOf v old)).replace rest := by
  rw [Settings.replace, insteadOf]
  split
  · rw [hold]
  · rw [hset]

theorem replace_overrides (s : Settings) (w : Words) : s.replace (overrides w) = .ok
    { s with
      threads := insteadOf (givenInteger w .threads) s.threads
      rampTime := insteadOf (givenInteger w .rampUp) s.rampTime
      loops := insteadOf (givenInteger w .loops) s.loops
      listener := insteadOf (givenText w .listener) s.listener } := by
  rw [overrides_eq,
    replace_cons (fun v => { s with threads := v }) s.threads _ _ (fun _ => rfl) rfl,
    replace_cons (fun v => { s with
      threads := insteadOf (givenInteger w .threads) s.threads, rampTime := v }) s.rampTime _ _
      (fun _ => rfl) rfl,
    replace_cons (fun v => { s with
      threads := insteadOf (givenInteger w .threads) s.threads
      rampTime := insteadOf (givenInteger w .rampUp) s.rampTime, loops := v }) s.loops _ _
      (fun _ => rfl) rfl,
    replace_cons (fun v => { s with
      threads := insteadOf (givenInteger w .threads) s.threads
      rampTime := insteadOf (givenInteger w .rampUp) s.rampTime
      loops := insteadOf (givenInteger w .loops) s.loops, listener := v }) s.listener _ _
      (fun _ => rfl) rfl]
  rfl

/-- The integer of the command line that is valid, or the one there was. -/
theorem insteadOf_givenInteger {w : Words} {f : Flag} {v : Value} {name : String} {default old : Int}
    (hold : Settings.sectionInteger v name default = some old)
    (hvalid : ∀ s, w.value? f = some s → ∃ n, Number.integer? s = some n) :
    ∃ n, insteadOf (givenInteger w f) (.int old) = .int n ∧
      chosenInteger w f v name default = some n := by
  unfold givenInteger chosenInteger
  cases hgiven : w.value? f with
  | none => exact ⟨old, rfl, hold⟩
  | some s =>
    obtain ⟨n, hn⟩ := hvalid s hgiven
    refine ⟨n, ?_, hn⟩
    rw [Option.bind_some, hn]
    rfl

/-- The settings of a section with the options of a command line in their place. -/
theorem chosen_of_override {w : Words} {v : Value} {loaded settings : Settings}
    (hsection : Settings.OfSection v loaded)
    (hvalid : ∀ f ∈ integerFlags, ∀ s, w.value? f = some s → ∃ n, Number.integer? s = some n)
    (h : loaded.override (overrides w) = .ok settings) : Chosen w v settings := by
  obtain ⟨replaced, hreplaced, h⟩ := Except.bind_eq_ok.mp h
  obtain rfl := Settings.eq_of_validated h
  rw [replace_overrides] at hreplaced
  obtain rfl := Except.ok.inj hreplaced
  obtain ⟨threads, hthreads, hthreads'⟩ := hsection.threads
  obtain ⟨rampTime, hrampTime, hrampTime'⟩ := hsection.rampTime
  obtain ⟨loops, hloops, hloops'⟩ := hsection.loops
  refine ⟨?_, ?_, ?_, ?_, hsection.onSampleError, hsection.version⟩
  · rw [hthreads]
    exact insteadOf_givenInteger hthreads' (hvalid _ (by simp [integerFlags]))
  · rw [hrampTime]
    exact insteadOf_givenInteger hrampTime' (hvalid _ (by simp [integerFlags]))
  · rw [hloops]
    exact insteadOf_givenInteger hloops' (hvalid _ (by simp [integerFlags]))
  · rw [hsection.listener, givenText, chosenListener]
    cases w.value? .listener <;> rfl

end LoadPlan.Command
