import LoadPlan.Proofs.Scenario.Grammar
import LoadPlan.Proofs.Settings.Nulls
import Mathlib.Data.List.Find

/-!
# Names of options

A field of an entity can have a further name in documents, which stands for the name of the field.
So a test that is built from options is the same if each of them gets the name of its field; where
the name of the field is there already, the further one can be left out, whatever the values are.
Only the wording of a fault can tell the two names apart.
-/

namespace LoadPlan

namespace Entries

/-- An entry with a key in place of a further one. -/
def renameEntry (further name : String) (e : Value × Value) : Value × Value :=
  if e.1.isText further then (.text name, e.2) else e

/-- The entries with a key in place of a further one, which is left out if the key is there already,
even with null. -/
def rename (entries : Entries) (further name : String) : Entries :=
  if entries.has name then entries.erase further else entries.map (renameEntry further name)

theorem isText_renameEntry (further name key : String) (e : Value × Value) :
    (renameEntry further name e).1.isText key =
      if e.1.isText further then name == key else e.1.isText key := by
  unfold renameEntry
  split <;> rfl

theorem find?_map_renameEntry (entries : Entries) (further name key : String) :
    Entries.find? (entries.map (renameEntry further name)) key =
      (List.find? (fun e => (renameEntry further name e).1.isText key) entries).map (·.2) := by
  have hvalue : Prod.snd ∘ renameEntry further name = Prod.snd := by
    funext e
    unfold renameEntry
    dsimp only [Function.comp_apply]
    split <;> rfl
  unfold Entries.find?
  rw [List.find?_map, Option.map_map]
  exact congrArg (fun f => Option.map f _) hvalue

section Rename

variable (entries : Entries) {further name : String}

/-- The key counts if it is there, else the further one. -/
@[simp, grind =]
theorem find?_rename_self (h : further ≠ name) :
    (entries.rename further name).find? name = (entries.find? name).or (entries.find? further) := by
  unfold rename
  cases hhas : entries.has name with
  | true =>
    obtain ⟨v, hv⟩ := Option.isSome_iff_exists.mp hhas
    rw [if_pos rfl, find?_erase_of_ne _ h.symm, hv, Option.some_or]
  | false =>
    have hnew := has_eq_false_iff.mp hhas
    rw [if_neg Bool.false_ne_true, hnew, Option.none_or, find?_map_renameEntry]
    unfold Entries.find? at hnew ⊢
    rw [Option.map_eq_none_iff, List.find?_eq_none] at hnew
    congr 1
    apply List.find?_congr
    intro e he
    rw [isText_renameEntry, beq_self_eq_true, Bool.eq_false_iff.mpr (hnew e he)]
    cases e.1.isText further <;> rfl

@[simp, grind =]
theorem find?_rename_further (h : further ≠ name) :
    (entries.rename further name).find? further = none := by
  unfold rename
  split
  · exact find?_erase_self entries further
  · rw [find?_map_renameEntry, Option.map_eq_none_iff, List.find?_eq_none]
    intro e _
    rw [isText_renameEntry]
    split <;> simp_all [h.symm]

/-- No other key is concerned. -/
@[simp, grind =]
theorem find?_rename_of_ne {key : String} (hname : key ≠ name) (hfurther : key ≠ further) :
    (entries.rename further name).find? key = entries.find? key := by
  unfold rename
  split
  · exact find?_erase_of_ne entries hfurther
  · rw [find?_map_renameEntry]
    unfold Entries.find?
    congr 2
    funext e
    rw [isText_renameEntry]
    split
    · rename_i htext
      rw [Value.isText_iff.mp htext, Value.isText, beq_false_of_ne hname.symm,
        beq_false_of_ne hfurther.symm]
    · rfl

end Rename

end Entries

namespace Options

/-! ## Options under the names of their fields -/

/-- The options of an entity, each under the name of its field. -/
def underFieldNames (kind : Kind) (o : Entries) : Entries :=
  kind.fields.foldl (fun o f => f.furtherName?.elim o fun further => o.rename further f.name) o

/-- Two fields of a test have a further name. -/
example (o : Entries) : underFieldNames .test o =
    (o.rename "projectId" "project_id").rename "scenarioDefinition" "scenario_definition" :=
  rfl

theorem getEither_eq (o : Entries) (name further : String) :
    getEither o name further = ((o.find? name).or (o.find? further)).getD .null := by
  unfold getEither Entries.has Entries.get
  cases Entries.find? o name <;> rfl

theorem getEither_rename (o : Entries) {name further : String} (h : further ≠ name) :
    getEither (o.rename further name) name further = getEither o name further := by
  rw [getEither_eq, getEither_eq]
  simp [h]

theorem getEither_rename_of_ne (o : Entries) {name further name' further' : String}
    (hname : name' ≠ name ∧ name' ≠ further) (hfurther : further' ≠ name ∧ further' ≠ further) :
    getEither (o.rename further name) name' further' = getEither o name' further' := by
  rw [getEither_eq, getEither_eq]
  grind

/-- The options that are none of a kind's fields. -/
def ignored (kind : Kind) (o : Entries) : Entries :=
  o.filter fun e => !kind.optionNames.any e.1.isText

theorem noteIgnored_congr (kind : Kind) {o o' : Entries} (h : ignored kind o' = ignored kind o) :
    noteIgnored kind o' = noteIgnored kind o := by
  have hkeys (o : Entries) : (o.map (·.1)).filter (fun k => !kind.optionNames.any k.isText) =
      (ignored kind o).map (·.1) := List.filter_map
  unfold noteIgnored
  rw [hkeys, hkeys, h]

/-- An option that is ignored is neither left out nor renamed. -/
theorem ignored_rename (kind : Kind) (o : Entries) {further name : String}
    (hfurther : further ∈ kind.optionNames) (hname : name ∈ kind.optionNames) :
    ignored kind (o.rename further name) = ignored kind o := by
  have hknown {k : Value} {s : String} (hs : s ∈ kind.optionNames) (hk : k.isText s = true) :
      kind.optionNames.any k.isText = true := List.any_eq_true.mpr ⟨s, hs, hk⟩
  unfold ignored Entries.rename
  by_cases hhas : o.has name = true
  · rw [if_pos hhas, Entries.erase, List.filter_filter]
    apply List.filter_congr
    intro e _
    cases htext : e.1.isText further with
    | true => simp [hknown hfurther htext]
    | false => simp
  · rw [if_neg hhas]
    clear hhas
    induction o with
    | nil => rfl
    | cons e o ih =>
      rw [List.map_cons, List.filter_cons, List.filter_cons, ih, Entries.renameEntry]
      cases htext : e.1.isText further with
      | true => simp [hknown hfurther htext, hknown hname (Value.isText_iff.mpr rfl)]
      | false => simp

end Options

open Options

namespace Build

/-! ## Builds that differ in the wording of a fault -/

/-- Faults that are the same but for the name that a list is given under. -/
inductive SameFault : Fault → Fault → Prop
  | refl (fault : Fault) : SameFault fault fault
  | list (key key' entity kind : String) :
    SameFault (.shape (.list key entity kind) none) (.shape (.list key' entity kind) none)

/-- Outcomes with the same result and state, or with the same fault but for a name. -/
inductive SameOutcome {α : Type} :
    Except Fault α × BuildState → Except Fault α × BuildState → Prop
  | ok (a : α) (after : BuildState) : SameOutcome (.ok a, after) (.ok a, after)
  | error {fault fault' : Fault} (h : SameFault fault fault') (after : BuildState) :
    SameOutcome (.error fault, after) (.error fault', after)

/-- Builds with the same outcome from every state, but for a name in a fault. -/
def Alike {α : Type} (x y : Build α) : Prop :=
  EachRun x fun before result after => SameOutcome (result, after) (y.run before)

variable {α β : Type}

theorem SameOutcome.refl (r : Except Fault α × BuildState) : SameOutcome r r := by
  obtain ⟨_ | a, after⟩ := r
  · exact .error (.refl _) after
  · exact .ok a after

theorem Alike.refl (x : Build α) : Alike x x :=
  fun before => .refl (x.run before)

theorem Alike.bind {x y : Build α} {f g : α → Build β} (hx : Alike x y)
    (hf : ∀ a, Alike (f a) (g a)) : Alike (x >>= f) (y >>= g) := by
  refine EachRun.bind hx hf (fun {s a t r u} hfirst hrest => ?_) fun {s fault t} hfirst => ?_
  · rw [run_bind]
    generalize y.run s = r' at hfirst
    cases hfirst
    exact hrest
  · rw [run_bind]
    generalize y.run s = r' at hfirst
    cases hfirst with
    | error h => exact .error h t

/-- The name under which a list is given only matters if it is no list. -/
theorem entities_alike (f : Value → Build α) (kind : Kind) (key key' : String) (v : Value) :
    Alike (entities f kind key v) (entities f kind key' v) := by
  cases v with
  | null | list => exact .refl _
  | _ => exact fun before => .error (.list key key' kind.name _) before

end Build

open Build

/-- What is built from the options of a test, with the values of fields that have two names. -/
theorem Test.ofOptions_mapping (o : Entries) : ∃ key, Test.ofOptions (.mapping o) =
    entities Scenario.ofOptions .test key
        (orDefault (getEither o "scenario_definition" "scenarioDefinition")) >>= fun scenarios =>
      noteIgnored .test o >>= fun _ => pure
        { version := (o.find? "version").getD (.text "1.0.0"), id := o.get "id",
          name := o.get "name", projectId := getEither o "project_id" "projectId", scenarios } := by
  refine ⟨((Options.find? o "scenario_definition" "scenarioDefinition").getD
    ("scenario_definition", .null)).1, ?_⟩
  have hproject : ((Options.find? o "project_id" "projectId").map (·.2)).getD .null =
      getEither o "project_id" "projectId" := by
    rw [← Options.find?_getD]
    cases Options.find? o "project_id" "projectId" <;> rfl
  rw [← hproject, ← Options.find?_getD]
  rfl

/-- Under the names of its fields a test has the same values, and the same options are ignored. -/
theorem Test.ofOptions_alike (o : Entries) :
    Alike (Test.ofOptions (.mapping o)) (Test.ofOptions (.mapping (underFieldNames .test o))) := by
  have hscenarios : getEither (underFieldNames .test o) "scenario_definition" "scenarioDefinition" =
      getEither o "scenario_definition" "scenarioDefinition" :=
    (getEither_rename _ (by decide)).trans (getEither_rename_of_ne o (by decide) (by decide))
  have hproject : getEither (underFieldNames .test o) "project_id" "projectId" =
      getEither o "project_id" "projectId" :=
    (getEither_rename_of_ne _ (by decide) (by decide)).trans (getEither_rename o (by decide))
  have hignored : ignored .test (underFieldNames .test o) = ignored .test o :=
    (ignored_rename .test _ (by decide) (by decide)).trans
      (ignored_rename .test o (by decide) (by decide))
  have hother (key : String) (hkey : key ∈ ["version", "id", "name"]) :
      (underFieldNames .test o).find? key = o.find? key := by
    simp only [List.mem_cons, List.not_mem_nil, or_false] at hkey
    rcases hkey with rfl | rfl | rfl <;>
    exact (Entries.find?_rename_of_ne _ (by decide) (by decide)).trans
      (Entries.find?_rename_of_ne o (by decide) (by decide))
  obtain ⟨key, hbuild⟩ := Test.ofOptions_mapping o
  obtain ⟨key', hbuild'⟩ := Test.ofOptions_mapping (underFieldNames .test o)
  rw [hbuild, hbuild', hscenarios, hproject, noteIgnored_congr .test hignored]
  unfold Entries.get
  rw [hother "version" (by decide), hother "id" (by decide), hother "name" (by decide)]
  exact (entities_alike Scenario.ofOptions .test key key' _).bind fun _ => .refl _

/-- Whatever was built before, options build the same test under the names of its fields as under
the further ones, with the same ids and the same id that comes next, or both have a wrong shape. -/
theorem Test.ofOptions_underFieldNames {o : Entries}
    (hkeys : (Value.mapping o).hasTextKeys = true) (before : BuildState) :
    (∃ t after, (Test.ofOptions (.mapping o)).run before = (.ok t, after) ∧
        (Test.ofOptions (.mapping (underFieldNames .test o))).run before = (.ok t, after)) ∨
      ∃ shape shape' after,
        (Test.ofOptions (.mapping o)).run before = (.error (.shape shape none), after) ∧
          (Test.ofOptions (.mapping (underFieldNames .test o))).run before =
            (.error (.shape shape' none), after) := by
  have hverdict := Test.ofOptions_recognizes (.mapping o) hkeys before
  have halike : SameOutcome ((Test.ofOptions (.mapping o)).run before)
      ((Test.ofOptions (.mapping (underFieldNames .test o))).run before) :=
    Test.ofOptions_alike o before
  generalize (Test.ofOptions (.mapping o)).run before = r,
    (Test.ofOptions (.mapping (underFieldNames .test o))).run before = r' at hverdict halike ⊢
  cases halike with
  | ok t after => exact .inl ⟨t, after, rfl, rfl⟩
  | error h after =>
    obtain ⟨shape, rfl⟩ := hverdict.shape
    cases h with
    | refl => exact .inr ⟨shape, shape, after, rfl, rfl⟩
    | list key key' entity kind => exact .inr ⟨_, _, after, rfl, rfl⟩

/-- Options under further names, one of which is hidden by null under the name of its field. -/
def furtherNamed : Entries :=
  [(.text "projectId", .text "p"), (.text "scenario_definition", .null), (.text "owner", .int 1),
   (.text "scenarioDefinition", .list [.null, .null])]

theorem Test.ofOptions_underFieldNames_furtherNamed :
    (Value.mapping furtherNamed).hasTextKeys = true ∧
      underFieldNames .test furtherNamed =
        [(.text "project_id", .text "p"), (.text "scenario_definition", .null),
         (.text "owner", .int 1)] ∧
      ∃ t after, (Test.ofOptions (.mapping furtherNamed)).run { nextId := 4 } = (.ok t, after) ∧
        (Test.ofOptions (.mapping (underFieldNames .test furtherNamed))).run { nextId := 4 } =
          (.ok t, after) ∧
        t.projectId = .text "p" ∧ t.scenarios.length = 1 ∧ after.nextId = 6 := by
  have hkeys : (Value.mapping furtherNamed).hasTextKeys = true := rfl
  have hbuilt : (Test.ofOptions (.mapping furtherNamed)).run { nextId := 4 } = (.ok _, _) := rfl
  refine ⟨hkeys, rfl, ?_⟩
  obtain ⟨t, after, h, h'⟩ | ⟨_, _, _, h, -⟩ :=
    Test.ofOptions_underFieldNames hkeys { nextId := 4 }
  · obtain ⟨hok, hafter⟩ := Prod.mk.inj (hbuilt.symm.trans h)
    obtain rfl := Except.ok.inj hok
    subst hafter
    exact ⟨_, _, h, h', rfl, rfl, rfl⟩
  · cases hbuilt.symm.trans h

end LoadPlan
