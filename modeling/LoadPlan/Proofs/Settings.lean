import LoadPlan.Proofs.Notice
import LoadPlan.Settings

/-!
# What settings hold

Settings that are in range are those that were checked, and a section of a document gives an
integer or a text for each of them. A section is refused for the first value in it that stands for
no integer, cannot be written or is out of range (`ofValue_refuses`). Then its shape is wrong,
unless that value is an infinite number or has too many digits (`fault_of_ofValue`).
-/

namespace LoadPlan.Number

@[simp]
theorem order_int (m n : Int) : (int m).order (int n) = some (compare m n) := by
  simp [order, place, compareDyadic]

@[simp]
theorem lt_int (m n : Int) : (int m).lt (int n) = decide (m < n) := by
  rw [lt, order_int, Bool.eq_iff_iff]
  simp [Int.compare_eq_lt]

@[simp]
theorem eq_int (m n : Int) : (int m).eq (int n) = decide (m = n) := by
  rw [eq, order_int, Bool.eq_iff_iff]
  simp

end LoadPlan.Number

namespace LoadPlan.Settings

/-- Checking settings does not change them. -/
theorem eq_of_validated {s settings : Settings} (h : s.validated = .ok settings) :
    settings = s := by
  unfold validated at h
  obtain ⟨threads, -, h⟩ := Except.bind_eq_ok.mp h
  dsimp only at h
  split at h
  · exact nomatch h
  obtain ⟨rampTime, -, h⟩ := Except.bind_eq_ok.mp h
  split at h
  · exact nomatch h
  obtain ⟨loops, -, h⟩ := Except.bind_eq_ok.mp h
  split at h
  · exact nomatch h
  exact (Except.ok.inj h).symm

/-! ## Sections that are accepted -/

/-- What a section gives for a setting: null if it gives nothing. -/
def sectionValue (v : Value) (name : String) : Value :=
  match v with
  | .mapping entries => (unifyNames entries).get name
  | _ => .null

/-- The integer that a section gives for a setting, or a default. -/
def sectionInteger (v : Value) (name : String) (default : Int) : Option Int :=
  if (sectionValue v name).isNull then some default else (sectionValue v name).toInteger.toOption

/-- The text that a section gives for a setting, or a default. -/
def sectionText (v : Value) (name default : String) : String :=
  if (sectionValue v name).isNull then default else (sectionValue v name).display

/-- The class of listeners unless another one is given. -/
def usualListener : String := "io.metersphere.api.jmeter.APIBackendListenerClient"

/-- Settings that a section gives. -/
structure OfSection (v : Value) (s : Settings) : Prop where
  threads : ∃ n, s.threads = .int n ∧ sectionInteger v "threads" 1 = some n
  rampTime : ∃ n, s.rampTime = .int n ∧ sectionInteger v "ramp_time" 1 = some n
  loops : ∃ n, s.loops = .int n ∧ sectionInteger v "loops" 1 = some n
  onSampleError : s.onSampleError = .text (sectionText v "on_sample_error" "continue")
  version : s.version = .text (sectionText v "jmeter_version" "5.2.1")
  listener : s.listener = .text (sectionText v "listener_classname" usualListener)

theorem sectionInteger_of_integer {entries : Entries} {name : String} {n : Int} {v : Value}
    (h : integer (unifyNames entries) name (.int n) = .ok v) :
    ∃ m, v = .int m ∧ sectionInteger (.mapping entries) name n = some m := by
  unfold integer at h
  unfold sectionInteger sectionValue
  dsimp only at h ⊢
  split at h
  · rename_i hnull
    rw [if_pos hnull]
    exact ⟨n, (Except.ok.inj h).symm, rfl⟩
  · rename_i hgiven
    rw [if_neg hgiven]
    cases hinteger : ((unifyNames entries).get name).toInteger with
    | ok m =>
      rw [hinteger] at h
      exact ⟨m, (Except.ok.inj h).symm, rfl⟩
    | error cause =>
      rw [hinteger] at h
      cases cause <;> cases h

theorem eq_sectionText_of_text {entries : Entries} {name default : String} {v : Value}
    (h : text (unifyNames entries) name (.text default) = .ok v) :
    v = .text (sectionText (.mapping entries) name default) := by
  unfold text at h
  unfold sectionText sectionValue
  dsimp only at h ⊢
  split at h
  · rename_i hnull
    rw [if_pos hnull]
    exact (Except.ok.inj h).symm
  · rename_i hgiven
    rw [if_neg hgiven]
    split at h
    · exact (Except.ok.inj h).symm
    · cases h

/-- Settings that are read from the entries of a section, one after another, and pass the check. -/
structure Accepts (entries : Entries) (s : Settings) : Prop where
  threads : integer (unifyNames entries) "threads" (.int 1) = .ok s.threads
  rampTime : integer (unifyNames entries) "ramp_time" (.int 1) = .ok s.rampTime
  loops : integer (unifyNames entries) "loops" (.int 1) = .ok s.loops
  onSampleError :
    text (unifyNames entries) "on_sample_error" (.text "continue") = .ok s.onSampleError
  listener : text (unifyNames entries) "listener_classname" (.text usualListener) = .ok s.listener
  version : text (unifyNames entries) "jmeter_version" (.text "5.2.1") = .ok s.version
  checked : s.validated = .ok s

/-- A section that is accepted is null, or a mapping from which settings are read. -/
theorem cases_of_ofValue {v : Value} {s : Settings} (h : ofValue v = .ok s) :
    v = .null ∧ s = {} ∨ ∃ entries, v = .mapping entries ∧ Accepts entries s := by
  unfold ofValue at h
  split at h
  · exact .inl ⟨rfl, (Except.ok.inj h).symm⟩
  · obtain ⟨threads, hthreads, h⟩ := Except.bind_eq_ok.mp h
    obtain ⟨rampTime, hrampTime, h⟩ := Except.bind_eq_ok.mp h
    obtain ⟨loops, hloops, h⟩ := Except.bind_eq_ok.mp h
    obtain ⟨onSampleError, honSampleError, h⟩ := Except.bind_eq_ok.mp h
    obtain ⟨listener, hlistener, h⟩ := Except.bind_eq_ok.mp h
    obtain ⟨version, hversion, h⟩ := Except.bind_eq_ok.mp h
    obtain rfl := eq_of_validated h
    exact .inr ⟨_, rfl, hthreads, hrampTime, hloops, honSampleError, hlistener, hversion, h⟩
  · cases h

/-- The settings of a section are what it gives, or the defaults. -/
theorem ofSection_of_ofValue {v : Value} {s : Settings} (h : ofValue v = .ok s) :
    OfSection v s := by
  obtain ⟨rfl, rfl⟩ | ⟨entries, rfl, haccepts⟩ := cases_of_ofValue h
  · exact ⟨⟨1, rfl, rfl⟩, ⟨1, rfl, rfl⟩, ⟨1, rfl, rfl⟩, rfl, rfl, rfl⟩
  · exact
      { threads := sectionInteger_of_integer haccepts.threads
        rampTime := sectionInteger_of_integer haccepts.rampTime
        loops := sectionInteger_of_integer haccepts.loops
        onSampleError := eq_sectionText_of_text haccepts.onSampleError
        version := eq_sectionText_of_text haccepts.version
        listener := eq_sectionText_of_text haccepts.listener }

/-- The settings of a section have passed the check. -/
theorem validated_of_ofValue {v : Value} {s : Settings} (h : ofValue v = .ok s) :
    s.validated = .ok s := by
  obtain ⟨-, rfl⟩ | ⟨entries, -, haccepts⟩ := cases_of_ofValue h
  · rfl
  · exact haccepts.checked

/-- Settings that a document gives have a text for the version. -/
theorem version_of_ofValue {v : Value} {settings : Settings} (h : ofValue v = .ok settings) :
    ∃ s, settings.version = .text s :=
  ⟨_, (ofSection_of_ofValue h).version⟩

/-! ## Sections that are refused -/

/-- A value that is refused, and a fault of it: its shape is wrong, unless it is an infinite number
or has an integer that is too long for a message. -/
inductive Blames : Value → Fault → Prop where
  | infinite (negative : Bool) : Blames (.float (.infinite negative)) .infinite
  | tooManyDigits {w : Value} (h : w.isWritable = false) : Blames w .tooManyDigits
  | shape {w : Value} {fault : ShapeFault} (h : w.isWritable = true)
    (hfinite : ∀ negative, w ≠ .float (.infinite negative)) : Blames w (.shape fault none)

/-- A computation that refuses a value, or has a result if there is none to refuse. -/
def Refuses {α : Type} (x : Except Fault α) : Option Value → Prop
  | none => ∃ a, x = .ok a
  | some w => ∃ fault, x = .error fault ∧ Blames w fault

section Refuses

variable {α β : Type} {x : Except Fault α}

theorem Refuses.bind {f : α → Except Fault β} {r r' : Option Value} (hx : Refuses x r)
    (hf : ∀ a, x = .ok a → Refuses (f a) r') : Refuses (x >>= f) (r.or r') := by
  cases r with
  | none =>
    obtain ⟨a, ha⟩ := hx
    have hfa := hf a ha
    rw [ha]
    exact hfa
  | some w =>
    obtain ⟨fault, hfault, hblames⟩ := hx
    exact ⟨fault, Except.bind_eq_error.mpr (.inl hfault), hblames⟩

/-- A value in a message is blamed for a wrong shape, or for its digits. -/
theorem blames_refusal (w : Value) (hfinite : ∀ negative, w ≠ .float (.infinite negative))
    (fault : ShapeFault) : Blames w (refusal w fault) := by
  unfold refusal
  cases hwritable : w.isWritable with
  | true => exact .shape hwritable hfinite
  | false => exact .tooManyDigits hwritable

end Refuses

/-- A value that stands for no integer. -/
def noInteger? (w : Value) : Option Value :=
  if w.isNull || w.toInteger.toOption.isSome then none else some w

/-- A value that is too long to be written. -/
def tooLong? (w : Value) : Option Value :=
  if w.isWritable then none else some w

/-- The first of the numbers of some settings that is out of range. -/
def outOfRange? (threads rampTime loops : Int) : Option Int :=
  if threads < 1 then some threads
  else if rampTime < 0 then some rampTime
  else if loops < -1 ∨ loops = 0 then some loops
  else none

/-- The settings that are integers. -/
def integerNames : List String :=
  ["threads", "ramp_time", "loops"]

/-- The settings that are texts. -/
def textNames : List String :=
  ["on_sample_error", "listener_classname", "jmeter_version"]

/-- The first integer of a section that is out of range. -/
def beyond? (v : Value) : Option Int := do
  outOfRange? (← sectionInteger v "threads" 1) (← sectionInteger v "ramp_time" 1)
    (← sectionInteger v "loops" 1)

/-- The first value of a section that is refused: one for an integer that stands for none, then one
for a text that is too long, then an integer that is out of range. -/
def refused? (v : Value) : Option Value :=
  (integerNames.findSome? fun name => noInteger? (sectionValue v name)).or <|
    (textNames.findSome? fun name => tooLong? (sectionValue v name)).or <|
      (beyond? v).map .int

theorem toInteger_eq_infinite {v : Value} (h : v.toInteger = .error .infinite) :
    ∃ negative, v = .float (.infinite negative) := by
  cases v with
  | float x =>
    cases x with
    | infinite negative => exact ⟨negative, rfl⟩
    | _ => cases h
  | text s =>
    unfold Value.toInteger at h
    dsimp only at h
    split at h <;> cases h
  | _ => cases h

theorem integer_refuses (entries : Entries) (name : String) (n : Int) :
    Refuses (integer (unifyNames entries) name (.int n))
      (noInteger? (sectionValue (.mapping entries) name)) := by
  unfold integer noInteger? sectionValue
  dsimp only
  cases hnull : ((unifyNames entries).get name).isNull with
  | true => exact ⟨_, rfl⟩
  | false =>
    rw [if_neg Bool.false_ne_true]
    cases hinteger : ((unifyNames entries).get name).toInteger with
    | ok m => exact ⟨_, rfl⟩
    | error cause =>
      have hfinite (hcause : cause ≠ .infinite) (negative : Bool) :
          (unifyNames entries).get name ≠ .float (.infinite negative) := by
        intro hvalue
        rw [hvalue] at hinteger
        exact hcause (Except.error.inj hinteger).symm
      cases cause with
      | infinite =>
        obtain ⟨negative, hvalue⟩ := toInteger_eq_infinite hinteger
        rw [hvalue]
        exact ⟨_, rfl, .infinite negative⟩
      | wrongKind => exact ⟨_, rfl, blames_refusal _ (hfinite nofun) _⟩
      | malformed => exact ⟨_, rfl, blames_refusal _ (hfinite nofun) _⟩

theorem text_refuses (entries : Entries) (name : String) (default : Value) :
    Refuses (text (unifyNames entries) name default)
      (tooLong? (sectionValue (.mapping entries) name)) := by
  unfold text tooLong? sectionValue
  dsimp only
  cases hwritable : ((unifyNames entries).get name).isWritable with
  | true =>
    rw [if_pos rfl]
    split <;> exact ⟨_, rfl⟩
  | false =>
    -- null can be written, so the value is not null
    rw [if_neg Bool.false_ne_true, if_neg]
    · exact ⟨_, rfl, .tooManyDigits hwritable⟩
    · intro hnull
      cases hvalue : (unifyNames entries).get name with
      | null =>
        rw [hvalue] at hwritable
        cases hwritable
      | _ =>
        rw [hvalue] at hnull
        cases hnull

/-- Settings that are integers are checked one after another. -/
theorem validated_eq {s : Settings} {threads rampTime loops : Int}
    (hthreads : s.threads = .int threads) (hrampTime : s.rampTime = .int rampTime)
    (hloops : s.loops = .int loops) : s.validated =
      if threads < 1 then .error (refusal (.int threads) (.threads (Value.int threads).display))
      else if rampTime < 0 then
        .error (refusal (.int rampTime) (.rampTime (Value.int rampTime).display))
      else if loops < -1 ∨ loops = 0 then
        .error (refusal (.int loops) (.loops (Value.int loops).display))
      else .ok s := by
  have hnumber (n : Int) : number (.int n) = .ok (.int n) := rfl
  have hbind {α β : Type} (a : α) (f : α → Except Fault β) : (.ok a >>= f) = f a := rfl
  have hthrow {α β : Type} (fault : Fault) (f : α → Except Fault β) :
      (throw fault >>= f) = .error fault := rfl
  unfold validated
  rw [hthreads, hrampTime, hloops]
  simp only [hnumber, hbind, hthrow, Number.lt_int, Number.eq_int, decide_eq_true_eq,
    Bool.or_eq_true]
  rfl

/-- Settings that are integers are refused for the first that is out of range. -/
theorem validated_refuses {s : Settings} {threads rampTime loops : Int}
    (hthreads : s.threads = .int threads) (hrampTime : s.rampTime = .int rampTime)
    (hloops : s.loops = .int loops) :
    Refuses s.validated ((outOfRange? threads rampTime loops).map .int) := by
  have hblames (n : Int) (fault : ShapeFault) : Blames (.int n) (refusal (.int n) fault) :=
    blames_refusal (.int n) nofun fault
  rw [validated_eq hthreads hrampTime hloops, outOfRange?]
  split
  · exact ⟨_, rfl, hblames _ _⟩
  · split
    · exact ⟨_, rfl, hblames _ _⟩
    · split
      · exact ⟨_, rfl, hblames _ _⟩
      · exact ⟨_, rfl⟩

/-- A section that is a mapping is refused for the first value that is to be refused. -/
theorem ofValue_refuses (entries : Entries) :
    Refuses (ofValue (.mapping entries)) (refused? (.mapping entries)) := by
  have hinOrder : refused? (.mapping entries) =
      (noInteger? (sectionValue (.mapping entries) "threads")).or
        ((noInteger? (sectionValue (.mapping entries) "ramp_time")).or
          ((noInteger? (sectionValue (.mapping entries) "loops")).or
            ((tooLong? (sectionValue (.mapping entries) "on_sample_error")).or
              ((tooLong? (sectionValue (.mapping entries) "listener_classname")).or
                ((tooLong? (sectionValue (.mapping entries) "jmeter_version")).or
                  ((beyond? (.mapping entries)).map .int)))))) := by
    have hcons (f : String → Option Value) (name : String) (rest : List String) :
        (name :: rest).findSome? f = (f name).or (rest.findSome? f) := by
      rw [List.findSome?_cons]
      cases f name <;> rfl
    simp only [refused?, integerNames, textNames, hcons, List.findSome?_nil, Option.or_none,
      Option.or_assoc]
  rw [hinOrder]
  refine (integer_refuses entries "threads" 1).bind fun threads hthreads => ?_
  refine (integer_refuses entries "ramp_time" 1).bind fun rampTime hrampTime => ?_
  refine (integer_refuses entries "loops" 1).bind fun loops hloops => ?_
  refine (text_refuses entries "on_sample_error" _).bind fun onSampleError _ => ?_
  refine (text_refuses entries "listener_classname" _).bind fun listener _ => ?_
  refine (text_refuses entries "jmeter_version" _).bind fun version _ => ?_
  obtain ⟨t, rfl, ht⟩ := sectionInteger_of_integer hthreads
  obtain ⟨r, rfl, hr⟩ := sectionInteger_of_integer hrampTime
  obtain ⟨l, rfl, hl⟩ := sectionInteger_of_integer hloops
  have hbeyond : beyond? (.mapping entries) = outOfRange? t r l := by
    unfold beyond?
    rw [ht, hr, hl]
    rfl
  rw [hbeyond]
  exact validated_refuses rfl rfl rfl

/-! ## Faults of sections -/

/-- A section with an infinite number for a setting that is an integer. -/
def HasInfinite (v : Value) : Prop :=
  ∃ entries, v = .mapping entries ∧ ∃ name ∈ integerNames, ∃ negative,
    (unifyNames entries).get name = .float (.infinite negative)

/-- A section that is refused for a value with more digits than are written. -/
def HasTooManyDigits (v : Value) : Prop :=
  ∃ w, refused? v = some w ∧ w.isWritable = false

/-- An infinite number is only refused where an integer is needed. -/
theorem exists_name_of_refused {v : Value} {negative : Bool}
    (h : refused? v = some (.float (.infinite negative))) :
    ∃ name ∈ integerNames, sectionValue v name = .float (.infinite negative) := by
  unfold refused? at h
  obtain h | ⟨-, h⟩ := Option.or_eq_some_iff.mp h
  · obtain ⟨name, hname, hvalue⟩ := List.exists_of_findSome?_eq_some h
    unfold noInteger? at hvalue
    split at hvalue
    · cases hvalue
    · exact ⟨name, hname, Option.some.inj hvalue⟩
  obtain h | ⟨-, h⟩ := Option.or_eq_some_iff.mp h
  · obtain ⟨name, -, hvalue⟩ := List.exists_of_findSome?_eq_some h
    unfold tooLong? at hvalue
    split at hvalue
    · cases hvalue
    · rename_i hlong
      rw [Option.some.inj hvalue] at hlong
      exact absurd rfl hlong
  · obtain ⟨n, -, hn⟩ := Option.map_eq_some_iff.mp h
    cases hn

/-- A section that is not accepted has a wrong shape, an infinite number or too many digits. -/
theorem fault_of_ofValue {v : Value} {fault : Fault} (h : ofValue v = .error fault) :
    (∃ shape, fault = .shape shape none) ∨ fault = .infinite ∧ HasInfinite v ∨
      fault = .tooManyDigits ∧ HasTooManyDigits v := by
  cases v with
  | null => cases h
  | mapping entries =>
    have hrefuses := ofValue_refuses entries
    rw [h] at hrefuses
    cases hrefused : refused? (.mapping entries) with
    | none =>
      rw [hrefused] at hrefuses
      obtain ⟨s, hs⟩ := hrefuses
      cases hs
    | some w =>
      rw [hrefused] at hrefuses
      obtain ⟨cause, hcause, hblames⟩ := hrefuses
      obtain rfl := Except.error.inj hcause
      cases hblames with
      | infinite negative =>
        obtain ⟨name, hname, hvalue⟩ := exists_name_of_refused hrefused
        exact .inr (.inl ⟨rfl, entries, rfl, name, hname, negative, hvalue⟩)
      | tooManyDigits hlong => exact .inr (.inr ⟨rfl, w, hrefused, hlong⟩)
      | shape => exact .inl ⟨_, rfl⟩
  | _ => exact .inl ⟨_, (Except.error.inj h).symm⟩

end LoadPlan.Settings
