import LoadPlan.Proofs.Plan.Display
import Mathlib.Algebra.GroupWithZero.Nat
import Mathlib.Data.List.Nodup

/-!
# The ids that are drawn

A run of a build draws ids, one after another, also if it fails. They follow each other from the
first one on, whatever is built and however often, so none is drawn twice. Of the entities of a test
each scenario draws one, then each of its requests; it is the id of the entity unless the options of
the entity have one.
-/

namespace LoadPlan

/-! ## Runs and the ids that are drawn in them -/

namespace Build

/-- A run of a computation from a state to another, with the ids that are drawn, in order. -/
inductive Draws : {α : Type} → Build α → BuildState → List Int → Except Fault α → BuildState → Prop
  | pure {α : Type} (a : α) (s : BuildState) : Draws (Pure.pure a) s [] (.ok a) s
  | throw {α : Type} (fault : Fault) (s : BuildState) :
      Draws (MonadExcept.throw fault : Build α) s [] (.error fault) s
  | note (n : Notice) (s : BuildState) :
      Draws (Build.note n) s [] (.ok ()) { s with notices := s.notices ++ [n] }
  /-- An id is drawn; it is the one that the step gives. -/
  | drawId {s t : BuildState} {id : Int} :
      Build.drawId.run s = (.ok id, t) → Draws Build.drawId s [id] (.ok id) t
  | bind {α β : Type} {x : Build α} {f : α → Build β} {s t u : BuildState} {ids ids' : List Int}
      {a : α} {result : Except Fault β} : Draws x s ids (.ok a) t → Draws (f a) t ids' result u →
      Draws (x >>= f) s (ids ++ ids') result u
  /-- Nothing follows a step that fails, but the ids it has drawn are used up. -/
  | fail {α β : Type} {x : Build α} {f : α → Build β} {s t : BuildState} {ids : List Int}
      {fault : Fault} : Draws x s ids (.error fault) t → Draws (x >>= f) s ids (.error fault) t

/-- As many ids as are wanted, from a first one on. -/
def idsFrom (first : Int) (count : Nat) : List Int :=
  (List.range count).map fun k : Nat => first + k

theorem idsFrom_add (first : Int) (m n : Nat) :
    idsFrom first (m + n) = idsFrom first m ++ idsFrom (first + m) n := by
  unfold idsFrom
  rw [List.range_add, List.map_append, List.map_map]
  congr 1
  apply List.map_congr_left
  intro k _
  simp [Int.add_assoc]

theorem nodup_idsFrom (first : Int) (count : Nat) : (idsFrom first count).Nodup := by
  refine List.Nodup.map (fun j k h => ?_) List.nodup_range
  exact Int.ofNat_inj.mp (Int.add_left_cancel h)

/-- Ids that follow each other from the one that comes next, up to the one that comes then. -/
def InOrder (s : BuildState) (ids : List Int) (t : BuildState) : Prop :=
  ids = idsFrom s.nextId ids.length ∧ t.nextId = s.nextId + ids.length

theorem InOrder.nil (s : BuildState) : InOrder s [] s :=
  ⟨rfl, (Int.add_zero _).symm⟩

theorem InOrder.append {s t u : BuildState} {ids ids' : List Int} (h : InOrder s ids t)
    (h' : InOrder t ids' u) : InOrder s (ids ++ ids') u := by
  obtain ⟨hids, hnext⟩ := h
  obtain ⟨hids', hnext'⟩ := h'
  constructor
  · rw [List.length_append, idsFrom_add, ← hids, ← hnext, ← hids']
  · rw [hnext', hnext, List.length_append, Int.natCast_add, Int.add_assoc]

/-- Ids in order are known from where they start and end. -/
theorem InOrder.eq {s t : BuildState} {ids ids' : List Int} (h : InOrder s ids t)
    (h' : InOrder s ids' t) : ids = ids' := by
  have hlength : ids.length = ids'.length := by
    have hnext := h.2.symm.trans h'.2
    omega
  rw [h.1, h'.1, hlength]

section Draws

variable {α : Type} {x : Build α} {s t : BuildState} {ids : List Int} {result : Except Fault α}

theorem Draws.run_eq (h : Draws x s ids result t) : x.run s = (result, t) := by
  induction h with
  | pure | throw | note => rfl
  | drawId h => exact h
  | bind _ _ ih ih' => rw [run_bind, ih]; exact ih'
  | fail _ ih => rw [run_bind, ih]

/-- Only `drawId` changes the id that comes next, by one. -/
theorem Draws.inOrder (h : Draws x s ids result t) : InOrder s ids t := by
  induction h with
  | pure | throw | note => exact ⟨rfl, (Int.add_zero _).symm⟩
  | drawId h =>
    obtain ⟨hid, rfl⟩ := Prod.mk.inj h
    obtain rfl := Except.ok.inj hid
    exact ⟨by simp [idsFrom], rfl⟩
  | bind _ _ ih ih' => exact ih.append ih'
  | fail _ ih => exact ih

/-- There is only one run from a state. -/
theorem Draws.unique {ids' : List Int} {result' : Except Fault α} {t' : BuildState}
    (h : Draws x s ids result t) (h' : Draws x s ids' result' t') :
    ids' = ids ∧ result' = result ∧ t' = t := by
  obtain ⟨rfl, rfl⟩ := Prod.mk.inj (h'.run_eq.symm.trans h.run_eq)
  exact ⟨h'.inOrder.eq h.inOrder, rfl, rfl⟩

end Draws

/-! ## What is drawn for a result -/

variable {α β : Type} {P : α → List Int → Prop} {Q : β → List Int → Prop}

/-- A computation that has a run from every state; what it gives, if it does not fail, is related to
the ids that are drawn. -/
def Numbers (x : Build α) (P : α → List Int → Prop) : Prop :=
  EachRun x fun s result t => ∃ ids, Draws x s ids result t ∧ ∀ a, result = .ok a → P a ids

/-- A computation in whose runs no ids are drawn. -/
def DrawsNone (x : Build α) : Prop :=
  Numbers x fun _ ids => ids = []

theorem Numbers.pure {a : α} (h : P a []) : Numbers (Pure.pure a) P :=
  EachRun.pure fun s => ⟨[], .pure a s, fun _ ha => Except.ok.inj ha ▸ h⟩

theorem Numbers.throw (fault : Fault) : Numbers (MonadExcept.throw fault : Build α) P :=
  EachRun.throw fun s => ⟨[], .throw fault s, nofun⟩

theorem Numbers.drawId : Numbers Build.drawId fun id ids => ids = [id] :=
  fun _ => ⟨_, .drawId rfl, fun _ ha => Except.ok.inj ha ▸ rfl⟩

theorem Numbers.bind {x : Build α} {f : α → Build β} (hx : Numbers x P)
    (hf : ∀ a ids, P a ids → Numbers (f a) fun b ids' => Q b (ids ++ ids')) :
    Numbers (x >>= f) Q := by
  refine EachRun.bind (S := fun a t result u => ∀ ids, P a ids →
    ∃ ids', Draws (f a) t ids' result u ∧ ∀ b, result = .ok b → Q b (ids ++ ids')) hx
    (fun a t ids ha => hf a ids ha t) ?_ fun ⟨ids, hrun, _⟩ => ⟨ids, .fail hrun, nofun⟩
  -- what follows runs from the state after the first step, so its ids come behind
  rintro s a t result u ⟨ids, hrun, ha⟩ hrest
  obtain ⟨ids', hrun', hresult⟩ := hrest ids (ha a rfl)
  exact ⟨ids ++ ids', .bind hrun hrun', hresult⟩

/-- Computations after a step in which no ids are drawn. -/
theorem DrawsNone.then {x : Build α} {f : α → Build β} (hx : DrawsNone x)
    (hf : ∀ a, Numbers (f a) Q) : Numbers (x >>= f) Q :=
  Numbers.bind hx fun a _ hids => hids ▸ hf a

/-- The ids that are drawn for the members of a list follow each other in its order. -/
theorem Numbers.mapM {f : α → Build β} {P : α → β → List Int → Prop}
    {L : List α → List β → List Int → Prop} (hf : ∀ a, Numbers (f a) (P a)) (hnil : L [] [] [])
    (hcons : ∀ {a as b bs ids ids'}, P a b ids → L as bs ids' →
      L (a :: as) (b :: bs) (ids ++ ids')) (l : List α) : Numbers (l.mapM f) (L l) := by
  refine EachRun.mapM (R := fun a s result t => ∃ ids, Draws (f a) s ids result t ∧
      ∀ b, result = .ok b → P a b ids)
    (L := fun l s result t => ∃ ids, Draws (l.mapM f) s ids result t ∧
      ∀ bs, result = .ok bs → L l bs ids) ?_ fun a _ => hf a
  constructor <;> simp only [List.mapM_cons, List.mapM_nil]
  case nil => exact fun s => ⟨[], .pure [] s, fun _ h => Except.ok.inj h ▸ hnil⟩
  case cons =>
    rintro a as s b t bs u ⟨ids, hrun, hb⟩ ⟨ids', hruns, hbs⟩
    refine ⟨ids ++ (ids' ++ []), .bind hrun (.bind hruns (.pure (b :: bs) u)), ?_⟩
    rintro _ ⟨⟩
    rw [List.append_nil]
    exact hcons (hb b rfl) (hbs bs rfl)
  case first => exact fun ⟨ids, hrun, _⟩ => ⟨ids, .fail hrun, nofun⟩
  case rest =>
    exact fun ⟨ids, hrun, _⟩ ⟨ids', hruns, _⟩ => ⟨ids ++ ids', .bind hrun (.fail hruns), nofun⟩

/-- What is related to a result is related to all ids of its run. -/
theorem Numbers.of_run {x : Build α} (hx : Numbers x P) {s t : BuildState} {a : α}
    (h : x.run s = (.ok a, t)) : ∃ ids, Draws x s ids (.ok a) t ∧ P a ids := by
  obtain ⟨ids, hrun, hresult⟩ := EachRun.of_run hx h
  exact ⟨ids, hrun, hresult a rfl⟩

theorem DrawsNone.noteIgnored (kind : Kind) (o : Entries) :
    DrawsNone (Options.noteIgnored kind o) := by
  unfold Options.noteIgnored
  dsimp only
  split
  · exact .pure rfl
  · split
    · exact fun s => ⟨_, .note _ s, fun _ _ => rfl⟩
    · exact .throw _

/-! ## Entities and their ids -/

/-- The id of an entity with options, for which an id was drawn. -/
def idFor (o : Entries) (drawn : Int) : Value :=
  (o.find? "id").getD (.int drawn)

/-- Ids of entities with options, of which each drew an id, in the same order. -/
structure Taken (entries : List Entries) (drawn : List Int) (ids : List Value) : Prop where
  length : entries.length = drawn.length
  ids : ids = List.zipWith idFor entries drawn

theorem Taken.nil : Taken [] [] [] :=
  ⟨rfl, rfl⟩

theorem Taken.cons (o : Entries) (id : Int) {entries : List Entries} {drawn : List Int}
    {ids : List Value} (h : Taken entries drawn ids) :
    Taken (o :: entries) (id :: drawn) (idFor o id :: ids) :=
  ⟨congrArg (· + 1) h.length, congrArg _ h.ids⟩

theorem Taken.append {entries entries' : List Entries} {drawn drawn' : List Int}
    {ids ids' : List Value} (h : Taken entries drawn ids) (h' : Taken entries' drawn' ids') :
    Taken (entries ++ entries') (drawn ++ drawn') (ids ++ ids') where
  length := by rw [List.length_append, List.length_append, h.length, h'.length]
  ids := by rw [List.zipWith_append h.length, h.ids, h'.ids]

/-- As many ids are drawn as there are ids of entities. -/
theorem Taken.length_drawn {entries : List Entries} {drawn : List Int} {ids : List Value}
    (h : Taken entries drawn ids) : drawn.length = ids.length := by
  rw [h.ids, List.length_zipWith, h.length, Nat.min_self]

section List

variable {f : Value → Build α}

theorem DrawsNone.mapM (hf : ∀ v, DrawsNone (f v)) (l : List Value) : DrawsNone (l.mapM f) :=
  Numbers.mapM (P := fun _ _ ids => ids = []) (L := fun _ _ ids => ids = []) hf rfl
    (fun ha has => by rw [ha, has, List.append_nil]) l

/-- Entities of a list that draw no ids. -/
theorem DrawsNone.entities (hf : ∀ v, DrawsNone (f v)) (kind : Kind) (key : String) (v : Value) :
    DrawsNone (Options.entities f kind key v) := by
  unfold Options.entities
  split
  · exact .pure rfl
  · exact .mapM hf _
  · exact .throw _

variable {entriesOf : Value → List Entries} {idsOf : α → List Value}
  (hf : ∀ v, Numbers (f v) fun a drawn => Taken (entriesOf v) drawn (idsOf a))
include hf

theorem Numbers.entities_mapM (l : List Value) : Numbers (l.mapM f) fun as drawn =>
    Taken (l.flatMap entriesOf) drawn (as.flatMap idsOf) :=
  Numbers.mapM (L := fun l as drawn => Taken (l.flatMap entriesOf) drawn (as.flatMap idsOf)) hf
    .nil (fun ha has => ha.append has) l

/-- Entities of a list draw their ids in the order of the list. -/
theorem Numbers.entities (kind : Kind) (key : String) (v : Value) :
    Numbers (Options.entities f kind key v) fun as drawn =>
      Taken ((Options.membersOf v).flatMap entriesOf) drawn (as.flatMap idsOf) := by
  unfold Options.entities
  split
  · exact .pure .nil
  · exact .entities_mapM hf _
  · exact .throw _

end List

/-- The entity of a mapping of options. -/
theorem Numbers.entity {kind : Kind} {f : Entries → Build α} {v : Value}
    (hf : Numbers (f (Options.optionsOf v)) P) : Numbers (Options.ofValue kind v >>= f) P := by
  cases v with
  | null => exact hf
  | mapping o => exact hf
  | _ => exact .throw _

/-- An entity without parts draws no id. -/
theorem DrawsNone.simple (kind : Kind) (make : Entries → α) (v : Value) : DrawsNone (do
    let o ← Options.ofValue kind v
    Options.noteIgnored kind o
    return make o) :=
  Numbers.entity ((DrawsNone.noteIgnored kind _).then fun _ => .pure rfl)

end Build

open Build Options

/-! ## The ids of a test -/

/-- The ids of a scenario and its requests. -/
def Scenario.ids (s : Scenario) : List Value :=
  s.id :: s.requests.map (·.id)

/-- The ids of the scenarios of a test, each followed by those of its requests. -/
def Test.ids (t : Test) : List Value :=
  t.scenarios.flatMap Scenario.ids

/-- The options of a scenario and its requests. -/
def Options.numberedIn (scenario : Value) : List Entries :=
  optionsOf scenario :: (membersOf (orDefault (option scenario "requests"))).map optionsOf

/-- The options of the scenarios of a test, each followed by those of its requests. -/
def Options.numbered (test : Value) : List Entries :=
  (membersOf (orDefault
    (getEither (optionsOf test) "scenario_definition" "scenarioDefinition"))).flatMap numberedIn

theorem KeyValue.ofOptions_drawsNone (v : Value) : DrawsNone (KeyValue.ofOptions v) :=
  .simple .keyValue _ v

theorem TextAssertion.ofOptions_drawsNone (v : Value) : DrawsNone (TextAssertion.ofOptions v) :=
  .simple .text _ v

theorem RegexAssertion.ofOptions_drawsNone (v : Value) : DrawsNone (RegexAssertion.ofOptions v) :=
  .simple .regex _ v

theorem ResponseTime.ofOptions_drawsNone (v : Value) : DrawsNone (ResponseTime.ofOptions v) :=
  .simple .responseTime _ v

theorem Assertions.ofOptions_drawsNone (v : Value) : DrawsNone (Assertions.ofOptions v) := by
  refine .entity ((ResponseTime.ofOptions_drawsNone _).then fun _ => ?_)
  refine (DrawsNone.entities TextAssertion.ofOptions_drawsNone _ _ _).then fun _ => ?_
  refine (DrawsNone.entities RegexAssertion.ofOptions_drawsNone _ _ _).then fun _ => ?_
  exact (DrawsNone.noteIgnored _ _).then fun _ => .pure rfl

theorem Body.ofOptions_drawsNone (v : Value) : DrawsNone (Body.ofOptions v) := by
  refine .entity ((DrawsNone.entities KeyValue.ofOptions_drawsNone _ _ _).then fun _ => ?_)
  exact (DrawsNone.noteIgnored _ _).then fun _ => .pure rfl

/-- A request draws one id. -/
theorem Request.ofOptions_numbers (v : Value) : Numbers (Request.ofOptions v) fun r drawn =>
    Taken [optionsOf v] drawn [r.id] := by
  refine .entity (Numbers.drawId.bind fun id _ hid => hid ▸ ?_)
  refine (Body.ofOptions_drawsNone _).then fun _ => ?_
  refine (Assertions.ofOptions_drawsNone _).then fun _ => ?_
  refine (DrawsNone.entities KeyValue.ofOptions_drawsNone _ _ _).then fun _ => ?_
  refine (DrawsNone.entities KeyValue.ofOptions_drawsNone _ _ _).then fun _ => ?_
  exact (DrawsNone.noteIgnored _ _).then fun _ => .pure (.cons _ id .nil)

/-- A scenario draws one id before its requests. -/
theorem Scenario.ofOptions_numbers (v : Value) : Numbers (Scenario.ofOptions v) fun s drawn =>
    Taken (numberedIn v) drawn s.ids := by
  refine .entity (Numbers.drawId.bind fun id _ hid => hid ▸ ?_)
  refine (DrawsNone.entities KeyValue.ofOptions_drawsNone _ _ _).then fun _ => ?_
  refine (DrawsNone.entities KeyValue.ofOptions_drawsNone _ _ _).then fun _ => ?_
  refine (Numbers.entities Request.ofOptions_numbers _ _ _).bind fun rs drawn hrs => ?_
  refine (DrawsNone.noteIgnored _ _).then fun _ => .pure ?_
  rw [← List.map_eq_flatMap, ← List.map_eq_flatMap] at hrs
  rw [List.append_nil]
  exact .cons _ id hrs

/-- The entities of a test draw their ids one after another. -/
theorem Test.ofOptions_numbers (v : Value) : Numbers (Test.ofOptions v) fun t drawn =>
    Taken (numbered v) drawn t.ids := by
  refine .entity ?_
  refine (Numbers.entities Scenario.ofOptions_numbers .test
    ((Options.find? (optionsOf v) "scenario_definition" "scenarioDefinition").getD
      ("scenario_definition", .null)).1
    (orDefault ((Options.find? (optionsOf v) "scenario_definition" "scenarioDefinition").getD
      ("scenario_definition", .null)).2)).bind fun ss drawn hss => ?_
  refine (DrawsNone.noteIgnored _ _).then fun _ => .pure ?_
  rw [Options.find?_getD] at hss
  rw [List.append_nil]
  exact hss

/-- A test has as many ids as scenarios and requests. -/
theorem Test.length_ids (t : Test) :
    t.ids.length = (t.scenarios.map fun s => 1 + s.requests.length).sum := by
  unfold Test.ids Scenario.ids
  simp [List.length_flatMap, Nat.add_comm]

namespace Build

/-! ## A common sequence of ids -/

/-- A use of a common sequence of ids. -/
inductive Call where
  /-- An id is drawn. -/
  | next
  /-- An entity of a kind is built from options. -/
  | build (kind : Kind) (options : Value)

/-- A computation without its result. -/
def forget (x : Build α) : Build Unit := do
  let _ ← x
  return ()

/-- Builds an entity of a kind. -/
def ofKind : Kind → Value → Build Unit
  | .keyValue, v => forget (KeyValue.ofOptions v)
  | .text, v => forget (TextAssertion.ofOptions v)
  | .regex, v => forget (RegexAssertion.ofOptions v)
  | .responseTime, v => forget (ResponseTime.ofOptions v)
  | .assertions, v => forget (Assertions.ofOptions v)
  | .body, v => forget (Body.ofOptions v)
  | .request, v => forget (Request.ofOptions v)
  | .scenario, v => forget (Scenario.ofOptions v)
  | .test, v => forget (Test.ofOptions v)

/-- Uses the sequence. -/
def Call.perform : Call → Build Unit
  | .next => forget Build.drawId
  | .build kind v => ofKind kind v

/-- Uses of a common sequence one after another, whether they fail or not, with the ids that are
drawn, in order. -/
inductive AllDraw : List Call → BuildState → List Int → BuildState → Prop
  | nil (s : BuildState) : AllDraw [] s [] s
  | cons {call : Call} {calls : List Call} {s t u : BuildState} {ids ids' : List Int}
      {result : Except Fault Unit} : Draws call.perform s ids result t → AllDraw calls t ids' u →
      AllDraw (call :: calls) s (ids ++ ids') u

/-- The state after uses of a common sequence one after another, whether they fail or not. -/
def performAll (calls : List Call) (s : BuildState) : BuildState :=
  calls.foldl (fun s call => (call.perform.run s).2) s

theorem Numbers.forget {x : Build α} (hx : Numbers x P) :
    Numbers (Build.forget x) fun _ ids => ∃ a, P a ids :=
  hx.bind fun a ids ha => .pure ⟨a, by rwa [List.append_nil]⟩

theorem exists_perform (call : Call) (s : BuildState) :
    ∃ ids result t, Draws call.perform s ids result t := by
  have hrun : ∀ {α : Type} {x : Build α} {P : α → List Int → Prop}, Numbers x P →
      ∃ ids result t, Draws (Build.forget x) s ids result t := by
    intro α x P hx
    obtain ⟨ids, hdraws, -⟩ := hx.forget s
    exact ⟨ids, _, _, hdraws⟩
  cases call with
  | next => exact hrun .drawId
  | build kind v =>
    cases kind with
    | keyValue => exact hrun (KeyValue.ofOptions_drawsNone v)
    | text => exact hrun (TextAssertion.ofOptions_drawsNone v)
    | regex => exact hrun (RegexAssertion.ofOptions_drawsNone v)
    | responseTime => exact hrun (ResponseTime.ofOptions_drawsNone v)
    | assertions => exact hrun (Assertions.ofOptions_drawsNone v)
    | body => exact hrun (Body.ofOptions_drawsNone v)
    | request => exact hrun (Request.ofOptions_numbers v)
    | scenario => exact hrun (Scenario.ofOptions_numbers v)
    | test => exact hrun (Test.ofOptions_numbers v)

section AllDraw

variable {calls : List Call} {s t : BuildState} {ids : List Int}

theorem exists_allDraw (calls : List Call) (s : BuildState) :
    ∃ ids, AllDraw calls s ids (performAll calls s) := by
  induction calls generalizing s with
  | nil => exact ⟨[], .nil s⟩
  | cons call calls ih =>
    obtain ⟨ids, result, t, hcall⟩ := exists_perform call s
    obtain ⟨ids', hcalls⟩ := ih t
    refine ⟨ids ++ ids', ?_⟩
    rw [performAll, List.foldl_cons, hcall.run_eq]
    exact .cons hcall hcalls

theorem AllDraw.inOrder (h : AllDraw calls s ids t) : InOrder s ids t := by
  induction h with
  | nil s => exact .nil s
  | cons hcall _ ih => exact hcall.inOrder.append ih

theorem AllDraw.unique {ids' : List Int} {t' : BuildState} (h : AllDraw calls s ids t)
    (h' : AllDraw calls s ids' t') : ids' = ids ∧ t' = t := by
  induction h generalizing ids' t' with
  | nil =>
    cases h'
    exact ⟨rfl, rfl⟩
  | cons hcall _ ih =>
    obtain _ | ⟨hcall', hcalls'⟩ := h'
    obtain ⟨rfl, -, rfl⟩ := hcall.unique hcall'
    obtain ⟨rfl, rfl⟩ := ih hcalls'
    exact ⟨rfl, rfl⟩

theorem AllDraw.append {calls' : List Call} {u : BuildState} {ids' : List Int}
    (h : AllDraw calls s ids t) (h' : AllDraw calls' t ids' u) :
    AllDraw (calls ++ calls') s (ids ++ ids') u := by
  induction h with
  | nil => exact h'
  | cons hcall _ ih =>
    rw [List.append_assoc]
    exact .cons hcall (ih h')

end AllDraw

/-- Whatever is done with a common sequence of ids, and whether it fails or not, the ids that are
drawn follow each other from the first one, and none is drawn twice. A test that is built next draws
one id for each of its scenarios and requests, in the order in which they stand in it; the drawn ids
are theirs, except of those whose options have an id. -/
theorem draws_inOrder (calls : List Call) (first : Int) :
    ∃ ids, AllDraw calls { nextId := first } ids (performAll calls { nextId := first }) ∧
      (∀ ids' s, AllDraw calls { nextId := first } ids' s →
        ids' = ids ∧ s = performAll calls { nextId := first }) ∧
      (∀ k (hk : k < ids.length), ids[k] = first + k) ∧ ids.Nodup ∧
      ∀ options t s,
        (Test.ofOptions options).run (performAll calls { nextId := first }) = (.ok t, s) →
        ∃ drawn,
          Draws (Test.ofOptions options) (performAll calls { nextId := first }) drawn (.ok t) s ∧
          AllDraw (calls ++ [.build .test options]) { nextId := first } (ids ++ drawn) s ∧
          drawn.length = (t.scenarios.map fun s => 1 + s.requests.length).sum ∧
          Taken (numbered options) drawn t.ids := by
  obtain ⟨ids, hids⟩ := exists_allDraw calls { nextId := first }
  have hfrom : ids = idsFrom first ids.length := hids.inOrder.1
  refine ⟨ids, hids, fun _ _ => hids.unique, ?_, hfrom ▸ nodup_idsFrom _ _, ?_⟩
  · intro k hk
    rw [List.getElem_of_eq hfrom hk]
    simp [idsFrom]
  · intro options t s hbuilt
    obtain ⟨drawn, hdraws, htaken⟩ := (Test.ofOptions_numbers options).of_run hbuilt
    -- the build as a last call: it gives nothing on, and no id is drawn after it
    have hcall : AllDraw [.build .test options] (performAll calls { nextId := first })
        (drawn ++ [] ++ []) s := .cons (.bind hdraws (.pure () s)) (.nil s)
    rw [List.append_nil, List.append_nil] at hcall
    exact ⟨drawn, hdraws, hids.append hcall, htaken.length_drawn.trans t.length_ids, htaken⟩

/-- Uses of a sequence, among them a test that fails after its first scenario. -/
def sampleCalls : List Call :=
  [.next, .build .request (.mapping [(.text "id", .text "own")]),
   .build .test (.mapping [(.text "scenarioDefinition", .list [.null, .int 0])]),
   .build .body (.int 0), .next]

theorem draws_inOrder_sampleCalls :
    ∃ ids, AllDraw sampleCalls { nextId := 5 } ids (performAll sampleCalls { nextId := 5 }) ∧
      (∀ k (hk : k < ids.length), ids[k] = 5 + k) ∧ ids.Nodup ∧
      ∃ t s, (Test.ofOptions Plan.annotatedOptions).run (performAll sampleCalls { nextId := 5 }) =
          (.ok t, s) ∧ t.ids = [.null, .text "first", .int 12] ∧
        ∃ drawn, AllDraw (sampleCalls ++ [.build .test Plan.annotatedOptions]) { nextId := 5 }
            (ids ++ drawn) s ∧
          drawn.length = 3 ∧ Taken (numbered Plan.annotatedOptions) drawn t.ids := by
  obtain ⟨ids, hids, -, hfrom, hnodup, htest⟩ := draws_inOrder sampleCalls 5
  obtain ⟨drawn, -, hdraws, hlength, htaken⟩ := htest Plan.annotatedOptions _ _ rfl
  exact ⟨ids, hids, hfrom, hnodup, _, _, rfl, rfl, drawn, hdraws, hlength, htaken⟩

end Build

end LoadPlan
