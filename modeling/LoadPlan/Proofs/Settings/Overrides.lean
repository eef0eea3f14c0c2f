import LoadPlan.Proofs.Settings
import LoadPlan.Workspace.Session

/-!
# Settings that are overridden again and again

Settings of a section are in range, and an override puts values in place only if all settings are
in range then (`override_cases`). Any number of overrides therefore keeps them in range; each
setting is the last value that an accepted override gave, or that of the section, and what the
settings are written as reads back as the same settings (`overridden_tracks`).
-/

namespace LoadPlan.Settings

/-! ## Settings in range -/

/-- Settings of the kinds that they are declared with. -/
structure Typed (s : Settings) : Prop where
  threads : ∃ n, s.threads = .int n
  rampTime : ∃ n, s.rampTime = .int n
  loops : ∃ n, s.loops = .int n
  onSampleError : ∃ t, s.onSampleError = .text t
  listener : ∃ t, s.listener = .text t
  version : ∃ t, s.version = .text t

/-- Settings of the declared kinds with numbers that a plan can have. -/
structure InRange (s : Settings) : Prop where
  typed : Typed s
  threads : ∃ n, s.threads = .int n ∧ 1 ≤ n
  rampTime : ∃ n, s.rampTime = .int n ∧ 0 ≤ n
  loops : ∃ n, s.loops = .int n ∧ (n = -1 ∨ 1 ≤ n)

/-- Checking settings of the declared kinds is finding out whether they are in range. -/
theorem validated_eq_ok_iff {s : Settings} (h : Typed s) : s.validated = .ok s ↔ InRange s := by
  obtain ⟨t, ht⟩ := h.threads
  obtain ⟨r, hr⟩ := h.rampTime
  obtain ⟨l, hl⟩ := h.loops
  rw [validated_eq ht hr hl]
  constructor
  · intro hok
    split at hok
    · cases hok
    split at hok
    · cases hok
    split at hok
    · cases hok
    exact ⟨h, ⟨t, ht, by omega⟩, ⟨r, hr, by omega⟩, ⟨l, hl, by omega⟩⟩
  · rintro ⟨-, ⟨t', ht', hthreads⟩, ⟨r', hr', hrampTime⟩, ⟨l', hl', hloops⟩⟩
    obtain rfl := Value.int.inj (ht.symm.trans ht')
    obtain rfl := Value.int.inj (hr.symm.trans hr')
    obtain rfl := Value.int.inj (hl.symm.trans hl')
    rw [if_neg (by omega), if_neg (by omega), if_neg (by omega)]

/-- Settings that a section gives are of the declared kinds and in range. -/
theorem inRange_of_ofValue {v : Value} {s : Settings} (h : ofValue v = .ok s) : InRange s := by
  obtain ⟨⟨t, ht, -⟩, ⟨r, hr, -⟩, ⟨l, hl, -⟩, honSampleError, hversion, hlistener⟩ :=
    ofSection_of_ofValue h
  have htyped : Typed s :=
    ⟨⟨t, ht⟩, ⟨r, hr⟩, ⟨l, hl⟩, ⟨_, honSampleError⟩, ⟨_, hlistener⟩, ⟨_, hversion⟩⟩
  exact (validated_eq_ok_iff htyped).mp (validated_of_ofValue h)

/-- The section that settings are written as. -/
def written (s : Settings) : Value :=
  .mapping (s.toEntries.map fun e => (.text e.1, e.2))

/-- Settings in range read back from what they are written as. -/
theorem ofValue_written {s : Settings} (h : InRange s) : ofValue s.written = .ok s := by
  have hvalidated := (validated_eq_ok_iff h.typed).mpr h
  obtain ⟨⟨t, ht⟩, ⟨r, hr⟩, ⟨l, hl⟩, ⟨e, he⟩, ⟨c, hc⟩, ⟨v, hv⟩⟩ := h.typed
  obtain ⟨threads, rampTime, loops, onSampleError, listener, version⟩ := s
  dsimp only at ht hr hl he hc hv
  subst ht hr hl he hc hv
  exact hvalidated

/-! ## Values put in place -/

/-- Whether a value is of the kind that a setting is declared with. -/
def fits (name : String) : Value → Bool
  | .int _ => integerNames.contains name
  | .text _ => textNames.contains name
  | _ => false

/-- Changes that give a setting null or a value of its kind. -/
def Fitting (changes : List (String × Value)) : Prop :=
  ∀ c ∈ changes, c.2.isNull = true ∨ fits c.1 c.2 = true

instance (changes : List (String × Value)) : Decidable (Fitting changes) :=
  inferInstanceAs (Decidable (∀ c ∈ changes, _))

/-- The changes that are not null, the last one first. -/
def given (changes : List (String × Value)) : List (String × Value) :=
  (changes.filter (!·.2.isNull)).reverse

/-- Settings with the values of some changes in place. -/
def Changed (s : Settings) (changes : List (String × Value)) (s' : Settings) : Prop :=
  ∀ name, s'.toEntries.lookup name = ((given changes).lookup name).or (s.toEntries.lookup name)

theorem given_cons (c : String × Value) (changes : List (String × Value)) :
    given (c :: changes) = if c.2.isNull then given changes else given changes ++ [c] := by
  unfold given
  cases hnull : c.2.isNull with
  | true => simp [hnull]
  | false => simp [hnull]

theorem given_append (changes more : List (String × Value)) :
    given (changes ++ more) = given more ++ given changes := by
  simp [given]

theorem Changed.trans {s s' s'' : Settings} {changes more : List (String × Value)}
    (h : Changed s changes s') (h' : Changed s' more s'') : Changed s (changes ++ more) s'' := by
  intro name
  rw [h' name, h name, given_append, List.lookup_append, Option.or_assoc]

/-- Settings are what is found under their names. -/
theorem Changed.unique {s s' s'' : Settings} {changes : List (String × Value)}
    (h : Changed s changes s') (h' : Changed s changes s'') : s' = s'' := by
  have hsame (name : String) : s'.toEntries.lookup name = s''.toEntries.lookup name :=
    (h name).trans (h' name).symm
  obtain ⟨threads, rampTime, loops, onSampleError, listener, version⟩ := s'
  obtain ⟨threads', rampTime', loops', onSampleError', listener', version'⟩ := s''
  obtain rfl := Option.some.inj (hsame "threads")
  obtain rfl := Option.some.inj (hsame "ramp_time")
  obtain rfl := Option.some.inj (hsame "loops")
  obtain rfl := Option.some.inj (hsame "on_sample_error")
  obtain rfl := Option.some.inj (hsame "listener_classname")
  obtain rfl := Option.some.inj (hsame "jmeter_version")
  rfl

/-- A value in the place of another is what is found under its name. -/
theorem lookup_replaced {name : String} (before after : List (String × Value)) (v w : Value)
    (h : before.lookup name = none) (other : String) :
    (before ++ (name, v) :: after).lookup other =
      if other = name then some v else (before ++ (name, w) :: after).lookup other := by
  by_cases hother : other = name
  · subst hother
    rw [List.lookup_append, h, List.lookup_cons_self, if_pos rfl, Option.none_or]
  · have hne : (other == name) = false := beq_eq_false_iff_ne.mpr hother
    rw [if_neg hother, List.lookup_append, List.lookup_append, List.lookup_cons, List.lookup_cons,
      hne]

/-- A value of its kind can take the place of a setting. -/
theorem exists_set? {s : Settings} {name : String} {v : Value} (hs : Typed s)
    (h : fits name v = true) : ∃ s', s.set? name v = some s' ∧ Typed s' ∧
      ∀ other, s'.toEntries.lookup other =
        if other = name then some v else s.toEntries.lookup other := by
  unfold fits at h
  split at h
  · rename_i n
    have hv : ∃ m, Value.int n = .int m := ⟨n, rfl⟩
    simp only [integerNames, List.contains_iff_mem, List.mem_cons, List.not_mem_nil,
      or_false] at h
    obtain rfl | rfl | rfl := h
    · exact ⟨_, rfl, { hs with threads := hv }, lookup_replaced [] _ _ s.threads rfl⟩
    · exact ⟨_, rfl, { hs with rampTime := hv },
        lookup_replaced (s.toEntries.take 1) _ _ s.rampTime rfl⟩
    · exact ⟨_, rfl, { hs with loops := hv },
        lookup_replaced (s.toEntries.take 2) _ _ s.loops rfl⟩
  · rename_i t
    have hv : ∃ u, Value.text t = .text u := ⟨t, rfl⟩
    simp only [textNames, List.contains_iff_mem, List.mem_cons, List.not_mem_nil,
      or_false] at h
    obtain rfl | rfl | rfl := h
    · exact ⟨_, rfl, { hs with onSampleError := hv },
        lookup_replaced (s.toEntries.take 3) _ _ s.onSampleError rfl⟩
    · exact ⟨_, rfl, { hs with listener := hv },
        lookup_replaced (s.toEntries.take 4) _ _ s.listener rfl⟩
    · exact ⟨_, rfl, { hs with version := hv },
        lookup_replaced (s.toEntries.take 5) _ _ s.version rfl⟩
  · cases h

/-- Values of their kinds can take the places of settings, one after another. -/
theorem exists_replace {changes : List (String × Value)} (h : Fitting changes) {s : Settings}
    (hs : Typed s) : ∃ s', s.replace changes = .ok s' ∧ Typed s' ∧ Changed s changes s' := by
  induction changes generalizing s with
  | nil => exact ⟨s, rfl, hs, fun name => rfl⟩
  | cons c rest ih =>
    have hrest : Fitting rest := fun c' hc' => h c' (List.mem_cons_of_mem c hc')
    obtain ⟨name, v⟩ := c
    unfold replace Changed
    rw [given_cons]
    cases hnull : v.isNull with
    | true => exact ih hrest hs
    | false =>
      have hfits : fits name v = true :=
        (h (name, v) List.mem_cons_self).resolve_left (by rw [hnull]; exact Bool.false_ne_true)
      obtain ⟨next, hset, hnext, hfound⟩ := exists_set? hs hfits
      obtain ⟨s', hs', htyped, hchanged⟩ := ih hrest hnext
      rw [hset]
      refine ⟨s', hs', htyped, fun other => ?_⟩
      rw [hchanged other, hfound other, if_neg Bool.false_ne_true, List.lookup_append,
        Option.or_assoc, List.lookup_cons, List.lookup_nil]
      by_cases hother : other = name
      · rw [if_pos hother, beq_iff_eq.mpr hother, Option.some_or]
      · rw [if_neg hother, beq_eq_false_iff_ne.mpr hother, Option.none_or]

/-- An override puts its values in place if the settings are in range then, and is refused if they
are not. -/
theorem override_cases {changes : List (String × Value)} (h : Fitting changes) {s : Settings}
    (hs : Typed s) : ∃ s', Typed s' ∧ Changed s changes s' ∧
      (InRange s' ∧ s.override changes = .ok s' ∨
        ¬InRange s' ∧ ∃ fault, s.override changes = .error fault) := by
  obtain ⟨s', hreplace, htyped, hchanged⟩ := exists_replace h hs
  have hoverride : s.override changes = s'.validated := by
    unfold override
    rw [hreplace]
    rfl
  refine ⟨s', htyped, hchanged, ?_⟩
  rw [hoverride]
  by_cases hrange : InRange s'
  · exact .inl ⟨hrange, (validated_eq_ok_iff htyped).mpr hrange⟩
  · refine .inr ⟨hrange, ?_⟩
    cases hvalidated : s'.validated with
    | error fault => exact ⟨fault, rfl⟩
    | ok settings =>
      obtain rfl := eq_of_validated hvalidated
      exact absurd ((validated_eq_ok_iff htyped).mp hvalidated) hrange

end LoadPlan.Settings

namespace LoadPlan.Workspace

open Settings

/-! ## Runs of overrides -/

/-- Overrides the settings of a workspace by values. -/
def overrideBy (changes : List (String × Value)) : Session Settings :=
  Session.override (changes.map fun c => (c.1, .value c.2))

/-- The result of an override, and the workspace after it. -/
def overrideRun (changes : List (String × Value)) (w : Workspace) :
    Except Fault Settings × Workspace :=
  (overrideBy changes).run.run w

/-- A workspace after overrides, those that are refused among them. -/
def overridden (w : Workspace) (calls : List (List (String × Value))) : Workspace :=
  calls.foldl (fun w changes => (overrideRun changes w).2) w

/-- The overrides that are accepted, one after another. -/
def accepted (w : Workspace) : List (List (String × Value)) → List (List (String × Value))
  | [] => []
  | changes :: rest =>
    match overrideRun changes w with
    | (.ok _, after) => changes :: accepted after rest
    | (.error _, after) => accepted after rest

/-- A workspace with the settings of a result, if it has one. -/
def settled (w : Workspace) (result : Except Fault Settings) : Workspace :=
  { w with settings := result.toOption.getD w.settings }

theorem run_settled (put : Settings → Session PUnit) {w : Workspace}
    (hput : ∀ settings, (put settings).run.run w = (.ok ⟨⟩, { w with settings }))
    (result : Except Fault Settings) : (do
      let settings ← result
      put settings
      return settings : Session Settings).run.run w = (result, w.settled result) := by
  cases result with
  | ok settings =>
    show (put settings >>= fun _ => pure settings).run.run w = _
    rw [ExceptT.run_bind, StateT.run_bind, hput]
    rfl
  | error fault => rfl

/-- Settings that are read replace those of the workspace, unless they are refused. -/
theorem configure_run (d : Datum) (w : Workspace) : (Session.configure d).run.run w =
    (ofValue (w.heap.value d), w.settled (ofValue (w.heap.value d))) :=
  run_settled (fun settings => modify fun (w : Workspace) => { w with settings }) (fun _ => rfl) _

/-- Settings that are overridden replace those of the workspace, unless they are refused. -/
theorem overrideRun_eq (changes : List (String × Value)) (w : Workspace) :
    overrideRun changes w =
      (w.settings.override changes, w.settled (w.settings.override changes)) := by
  have hvalues : (changes.map fun c => (c.1, Datum.value c.2)).map
      (fun c => (c.1, w.heap.value c.2)) = changes := by
    rw [List.map_map]
    exact List.map_id' changes
  rw [← congrArg w.settings.override hvalues]
  exact run_settled (fun settings => set { w with settings }) (fun _ => rfl) _

/-- An override of settings in range keeps them in range: those with its values in place if it is
accepted, and the same if it is refused. -/
theorem overrideRun_cases {changes : List (String × Value)} (h : Fitting changes) {w : Workspace}
    (hw : InRange w.settings) :
    (∃ settings, InRange settings ∧ Changed w.settings changes settings ∧
      overrideRun changes w = (.ok settings, { w with settings })) ∨
      ∃ fault, overrideRun changes w = (.error fault, w) := by
  rw [overrideRun_eq]
  obtain ⟨s, -, hchanged, ⟨hrange, hok⟩ | ⟨-, fault, hfault⟩⟩ := override_cases h hw.typed
  · rw [hok]
    exact .inl ⟨s, hrange, hchanged, rfl⟩
  · rw [hfault]
    exact .inr ⟨fault, rfl⟩

/-- Any number of overrides keeps settings in range, with the values of those that are accepted in
place. -/
theorem overridden_inRange {calls : List (List (String × Value))}
    (h : ∀ changes ∈ calls, Fitting changes) {w : Workspace} (hw : InRange w.settings) :
    InRange (overridden w calls).settings ∧
      Changed w.settings (accepted w calls).flatten (overridden w calls).settings := by
  induction calls generalizing w with
  | nil => exact ⟨hw, fun name => rfl⟩
  | cons changes rest ih =>
    have hrest (later) (hlater : later ∈ rest) : Fitting later :=
      h later (List.mem_cons_of_mem changes hlater)
    unfold overridden accepted
    rw [List.foldl_cons]
    obtain ⟨settings, hrange, hchanged, hrun⟩ | ⟨fault, hrun⟩ :=
      overrideRun_cases (h changes List.mem_cons_self) hw
    · rw [hrun]
      obtain ⟨hend, hlater⟩ := ih hrest (w := { w with settings }) hrange
      exact ⟨hend, hchanged.trans hlater⟩
    · rw [hrun]
      exact ih hrest hw

/-- What has become of settings after overrides: they are in range, each is the last value that was
put in its place, they read back from what they are written as, and a further override is accepted
if they are in range with its values, and else changes nothing. -/
structure Tracks (s₀ : Settings) (w : Workspace) (calls : List (List (String × Value))) : Prop where
  inRange : InRange (overridden w calls).settings
  latest : Changed s₀ (accepted w calls).flatten (overridden w calls).settings
  readsBack : ofValue (overridden w calls).settings.written = .ok (overridden w calls).settings
  accepts : ∀ changes, Fitting changes → ∀ s, Changed (overridden w calls).settings changes s →
    ((overrideRun changes (overridden w calls)).1 = .ok s ↔ InRange s)
  refuses : ∀ changes fault, (overrideRun changes (overridden w calls)).1 = .error fault →
    (overrideRun changes (overridden w calls)).2 = overridden w calls

/-- Settings that are read and then overridden again and again are in range after every step. -/
theorem overridden_tracks {w₀ w : Workspace} {d : Datum} {s₀ : Settings}
    (hread : (Session.configure d).run.run w₀ = (.ok s₀, w))
    (calls : List (List (String × Value))) (hcalls : ∀ changes ∈ calls, Fitting changes) :
    Tracks s₀ w calls := by
  rw [configure_run] at hread
  obtain ⟨hvalue, hw⟩ := Prod.mk.inj hread
  have hsettings : w.settings = s₀ := by
    rw [← hw, hvalue]
    rfl
  obtain ⟨hrange, hchanged⟩ := overridden_inRange hcalls (hsettings ▸ inRange_of_ofValue hvalue)
  refine ⟨hrange, hsettings ▸ hchanged, ofValue_written hrange, ?_, ?_⟩
  · intro changes hfitting s hs
    rw [overrideRun_eq]
    obtain ⟨s', -, hs', ⟨hrange', hok⟩ | ⟨hrange', fault, hfault⟩⟩ :=
      override_cases hfitting hrange.typed
    · obtain rfl := hs.unique hs'
      exact iff_of_true hok hrange'
    · obtain rfl := hs.unique hs'
      rw [hfault]
      exact iff_of_false nofun hrange'
  · intro changes fault hfault
    rw [overrideRun_eq] at hfault ⊢
    dsimp only at hfault ⊢
    rw [hfault]
    rfl

/-- A section with a number as text, and its ramp-up under another name. -/
def sampleSection : Value :=
  .mapping [(.text "threads", .text "4"), (.text "rampup", .int 9), (.text "loops", .null)]

/-- An override that is refused between two that are accepted. -/
def sampleCalls : List (List (String × Value)) :=
  [[("loops", .int (-1)), ("threads", .null)], [("threads", .int 8), ("ramp_time", .int (-2))],
   [("on_sample_error", .text "stoptest"), ("loops", .int 3)]]

theorem overridden_tracks_sample :
    (∀ changes ∈ sampleCalls, Fitting changes) ∧
      Tracks { threads := .int 4, rampTime := .int 9 }
        { settings := { threads := .int 4, rampTime := .int 9 } } sampleCalls := by
  have hread : (Session.configure (.value sampleSection)).run.run {} =
      (.ok { threads := .int 4, rampTime := .int 9 },
        { settings := { threads := .int 4, rampTime := .int 9 } }) := rfl
  have hfitting : ∀ changes ∈ sampleCalls, Fitting changes := by decide
  exact ⟨hfitting, overridden_tracks hread sampleCalls hfitting⟩

end LoadPlan.Workspace
