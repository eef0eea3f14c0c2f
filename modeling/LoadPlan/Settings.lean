import LoadPlan.Fault
import LoadPlan.Value.Order
import LoadPlan.Value.Printer

/-!
# Settings

The load that a plan puts on a server and the identity it carries. Settings are read from a section
of a scenario document, where numbers may be written as texts, and can then be overridden one by
one. Either way the result is checked: at least one thread, no negative ramp-up, and a positive
number of loops or -1 for no end.
-/

namespace LoadPlan

/-- The settings of a compilation. Those read from a document hold integers and texts; overrides put
values in place as they are. -/
structure Settings where
  /-- The number of threads of each thread group. -/
  threads : Value := .int 1
  /-- The seconds in which all threads are started. -/
  rampTime : Value := .int 1
  /-- How often each thread repeats its requests. -/
  loops : Value := .int 1
  /-- What a thread does after a failed request. -/
  onSampleError : Value := .text "continue"
  /-- The class of the listener at the end of each thread group. -/
  listener : Value := .text "io.metersphere.api.jmeter.APIBackendListenerClient"
  /-- The version of the program that the plan is for. -/
  version : Value := .text "5.2.1"
  deriving Inhabited, Repr

namespace Settings

/-- The settings under their names. -/
def toEntries (s : Settings) : List (String × Value) :=
  [("threads", s.threads), ("ramp_time", s.rampTime), ("loops", s.loops),
   ("on_sample_error", s.onSampleError), ("listener_classname", s.listener),
   ("jmeter_version", s.version)]

/-- The settings with one of them replaced. -/
def set? (s : Settings) (name : String) (v : Value) : Option Settings :=
  match name with
  | "threads" => some { s with threads := v }
  | "ramp_time" => some { s with rampTime := v }
  | "loops" => some { s with loops := v }
  | "on_sample_error" => some { s with onSampleError := v }
  | "listener_classname" => some { s with listener := v }
  | "jmeter_version" => some { s with version := v }
  | _ => none

/-- The number that a setting holds. -/
def number (v : Value) : Except Fault Number :=
  match v.number? with
  | some n => .ok n
  | none => .error .wrongKind

/-- The fault of a value that is refused, in a message that shows it. -/
def refusal (v : Value) (fault : ShapeFault) : Fault :=
  if v.isWritable then .shape fault none else .tooManyDigits

/-- The settings, if their numbers are in range. -/
def validated (s : Settings) : Except Fault Settings := do
  let threads ← number s.threads
  if threads.lt (.int 1) then throw (refusal s.threads (.threads s.threads.display))
  let rampTime ← number s.rampTime
  if rampTime.lt (.int 0) then throw (refusal s.rampTime (.rampTime s.rampTime.display))
  let loops ← number s.loops
  if loops.lt (.int (-1)) || loops.eq (.int 0) then
    throw (refusal s.loops (.loops s.loops.display))
  return s

/-- The integer that a document gives for a setting, if it gives one. -/
def integer (entries : Entries) (name : String) (default : Value) : Except Fault Value :=
  let v := entries.get name
  if v.isNull then .ok default
  else
    match v.toInteger with
    | .ok n => .ok (.int n)
    | .error .infinite => .error .infinite
    | .error _ => .error (refusal v (.setting name v.literal))

/-- The text that a document gives for a setting, if it gives one. -/
def text (entries : Entries) (name : String) (default : Value) : Except Fault Value :=
  let v := entries.get name
  if v.isNull then .ok default
  else if v.isWritable then .ok (.text v.display)
  else .error .tooManyDigits

/-- The settings of a section with its ramp-up under one name: another name for it counts unless
the usual one is there. -/
def unifyNames (entries : Entries) : Entries :=
  match entries.find? "rampup", entries.has "ramp_time" with
  | some v, false => (entries.erase "rampup").insert "ramp_time" v
  | _, _ => entries

/-- The settings that a section of a document gives; null gives the defaults. -/
def ofValue : Value → Except Fault Settings
  | .null => .ok {}
  | .mapping entries => do
    let entries := unifyNames entries
    let defaults : Settings := {}
    let threads ← integer entries "threads" defaults.threads
    let rampTime ← integer entries "ramp_time" defaults.rampTime
    let loops ← integer entries "loops" defaults.loops
    let onSampleError ← text entries "on_sample_error" defaults.onSampleError
    let listener ← text entries "listener_classname" defaults.listener
    let version ← text entries "jmeter_version" defaults.version
    validated { threads, rampTime, loops, onSampleError, listener, version }
  | v => .error (.shape (.settings v.kind) none)

/-- Replaces the settings that are not null. -/
def replace (s : Settings) : List (String × Value) → Except Fault Settings
  | [] => .ok s
  | (name, v) :: rest =>
    if v.isNull then replace s rest
    else
      match s.set? name v with
      | some s => replace s rest
      | none => .error .wrongKind

/-- The settings with those replaced that are not null, if they are then in range. -/
def override (s : Settings) (changes : List (String × Value)) : Except Fault Settings := do
  validated (← replace s changes)

end Settings

end LoadPlan
