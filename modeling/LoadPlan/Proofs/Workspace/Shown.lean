import LoadPlan.Proofs.Workspace.Progress

/-!
# What objects stand for

A datum holds a value, and an entity among the objects shows one of a scenario, if their parts do.
Both rest on objects at certain places only, and stay as they are while these are kept.
-/

namespace LoadPlan

/-- Whether a value has no parts. -/
def Value.isBare : Value → Bool
  | .list _ | .mapping _ => false
  | _ => true

namespace Workspace

/-! ## Values -/

/-- What a datum holds: the value that it is, which has no parts, or that of an object at one of
some places, whose parts hold the parts of the value. -/
inductive Holds (S : Ref → Prop) (h : Heap) : Datum → Value → Prop
  | bare {v : Value} (hv : v.isBare = true) : Holds S h (.value v) v
  | list {r : Ref} {items : List Datum} {vs : List Value} (hS : S r)
      (hr : h.get? r = some (.list items)) (hlength : items.length = vs.length)
      (hitems : ∀ p ∈ items.zip vs, Holds S h p.1 p.2) : Holds S h (.object r) (.list vs)
  | mapping {r : Ref} {entries : OptionEntries} {vs : Entries} (hS : S r)
      (hr : h.get? r = some (.mapping entries)) (hlength : entries.length = vs.length)
      (hkeys : ∀ p ∈ entries.zip vs, p.1.1 = p.2.1)
      (hentries : ∀ p ∈ entries.zip vs, Holds S h p.1.2 p.2.2) :
      Holds S h (.object r) (.mapping vs)

/-- What the entries of a mapping hold. -/
def Given (S : Ref → Prop) (h : Heap) : OptionEntries → Entries → Prop :=
  List.Forall₂ fun e f => e.1 = f.1 ∧ Holds S h e.2 f.2

variable {S S' : Ref → Prop} {h h' : Heap} {d : Datum} {v w : Value}

/-- What is held rests on objects that are there, at the places in question. -/
theorem Holds.imp (hd : Holds S h d v)
    (hget : ∀ r o, S r → h.get? r = some o → S' r ∧ h'.get? r = some o) : Holds S' h' d v := by
  induction hd with
  | bare hv => exact .bare hv
  | list hS hr hlength _ ih =>
    obtain ⟨hS', hr'⟩ := hget _ _ hS hr
    exact .list hS' hr' hlength ih
  | mapping hS hr hlength hkeys _ ih =>
    obtain ⟨hS', hr'⟩ := hget _ _ hS hr
    exact .mapping hS' hr' hlength hkeys ih

theorem Holds.of_keeps (hd : Holds S h d v) (hk : h.Keeps S h') : Holds S h' d v :=
  hd.imp fun r o hS hr => ⟨hS, hk r o hS hr⟩

theorem Given.imp {entries : OptionEntries} {vs : Entries} (hgiven : Given S h entries vs)
    (hget : ∀ r o, S r → h.get? r = some o → S' r ∧ h'.get? r = some o) :
    Given S' h' entries vs :=
  List.Forall₂.imp (fun _ _ he => ⟨he.1, he.2.imp hget⟩) hgiven

theorem Holds.items {vs : List Value} (hd : Holds S h d (.list vs)) :
    ∃ r items, d = .object r ∧ h.get? r = some (.list items) ∧
      List.Forall₂ (Holds S h) items vs := by
  cases hd with
  | bare hv => cases hv
  | list _ hr hlength hitems =>
    exact ⟨_, _, rfl, hr, List.forall₂_iff_zip.mpr ⟨hlength, fun hp => hitems _ hp⟩⟩

theorem Holds.entries {vs : Entries} (hd : Holds S h d (.mapping vs)) :
    ∃ r entries, d = .object r ∧ h.get? r = some (.mapping entries) ∧ Given S h entries vs := by
  cases hd with
  | bare hv => cases hv
  | mapping _ hr hlength hkeys hentries =>
    exact ⟨_, _, rfl, hr, List.forall₂_iff_zip.mpr
      ⟨hlength, fun hp => ⟨hkeys _ hp, hentries _ hp⟩⟩⟩

theorem Holds.isNull_eq (hd : Holds S h d v) : d.isNull = v.isNull := by
  cases hd <;> rfl

theorem Holds.kindName_eq (hd : Holds S h d v) : h.kindName d = v.kind := by
  cases hd with
  | bare => rfl
  | list _ hr => simp [Heap.kindName, hr, Value.kind]
  | mapping _ hr => simp [Heap.kindName, hr, Value.kind]

theorem Holds.isTruthy_eq (hd : Holds S h d v) : h.isTruthy d = v.isTruthy := by
  cases hd with
  | bare => rfl
  | @list r items vs _ hr hlength =>
    cases items <;> cases vs <;> simp_all [Heap.isTruthy, Value.isTruthy]
  | @mapping r entries vs _ hr hlength =>
    cases entries <;> cases vs <;> simp_all [Heap.isTruthy, Value.isTruthy]

/-- What holds a value is no entity. -/
theorem Holds.entity?_eq_none (hd : Holds S h d v) (kind : Kind) : h.entity? kind d = none := by
  cases hd with
  | bare => rfl
  | list _ hr => simp [Heap.entity?, Heap.object?, hr]
  | mapping _ hr => simp [Heap.entity?, Heap.object?, hr]

/-- Null stands for what is missing. -/
theorem Holds.getD {d : Option Datum} {v : Option Value} (hd : Option.Rel (Holds S h) d v) :
    Holds S h (d.getD .null) (v.getD .null) := by
  cases hd with
  | none => exact .bare rfl
  | some hd => exact hd

/-! ### Entries -/

section Given

variable {entries : OptionEntries} {o : Entries} (hgiven : Given S h entries o)
include hgiven

/-- Under a key there is what holds the value under it, if there is one. -/
theorem Given.find? (key : String) :
    Option.Rel (Holds S h) (entryOf? entries key) (o.find? key) := by
  unfold Given at hgiven
  induction hgiven with
  | nil => exact .none
  | @cons e f entries o he _ ih =>
    obtain ⟨k, d⟩ := e
    obtain ⟨rfl, hd⟩ := he
    unfold entryOf? at ih ⊢
    rw [Entries.find?_cons, List.find?_cons]
    cases f.1.isText key with
    | true => exact .some hd
    | false => exact ih

theorem Given.keys : entries.map Prod.fst = o.map Prod.fst := by
  unfold Given at hgiven
  induction hgiven with
  | nil => rfl
  | cons he _ ih => rw [List.map_cons, List.map_cons, he.1, ih]

end Given

/-! ### Values of data -/

/-- Lists are equal if they are related to the same list, each item of which determines what it is
related to. -/
theorem eq_of_items {α β : Type} {R : α → β → Prop} {items : List α} {vs ws : List β}
    (hlength : items.length = vs.length) (hitems : ∀ p ∈ items.zip vs, ∀ w, R p.1 w → p.2 = w)
    (hws : List.Forall₂ R items ws) : vs = ws := by
  induction hws generalizing vs with
  | nil => exact List.length_eq_zero_iff.mp hlength.symm
  | cons hw _ ih =>
    cases vs with
    | nil => cases hlength
    | cons v vs =>
      rw [List.zip_cons_cons, List.forall_mem_cons] at hitems
      obtain rfl := hitems.1 _ hw
      rw [ih (Nat.succ.inj hlength) hitems.2]

/-- A datum holds one value only. -/
theorem Holds.unique (hv : Holds S h d v) (hw : Holds S h d w) : v = w := by
  induction hv generalizing w with
  | bare =>
    cases hw
    rfl
  | list _ hr hlength _ ih =>
    cases w with
    | list ws =>
      obtain ⟨_, items, ⟨⟩, hr', hws⟩ := hw.items
      obtain rfl := Object.list.inj (Option.some.inj (hr.symm.trans hr'))
      rw [eq_of_items hlength (fun p hp w => ih p hp) hws]
    | mapping => obtain ⟨_, _, ⟨⟩, hr', -⟩ := hw.entries; rw [hr] at hr'; cases hr'
    | _ => cases hw
  | mapping _ hr hlength hkeys _ ih =>
    cases w with
    | mapping ws =>
      obtain ⟨_, entries, ⟨⟩, hr', hws⟩ := hw.entries
      obtain rfl := Object.mapping.inj (Option.some.inj (hr.symm.trans hr'))
      rw [eq_of_items hlength (fun p hp w hpw => ?_) hws]
      exact Prod.ext ((hkeys p hp).symm.trans hpw.1) (ih p hp hpw.2)
    | list => obtain ⟨_, _, ⟨⟩, hr', -⟩ := hw.items; rw [hr] at hr'; cases hr'
    | _ => cases hw

/-- Different objects whose values are all larger than a value. -/
structure Chain (S : Ref → Prop) (h : Heap) (v : Value) (chain : List Ref) : Prop where
  nodup : chain.Nodup
  larger : ∀ q ∈ chain, q < h.size ∧ ∃ w, Holds S h (.object q) w ∧ sizeOf v < sizeOf w

/-- An object with the value goes on the chain, before its parts: as it has one value only, it is
not there yet. -/
theorem Chain.next {r : Ref} {chain : List Ref} (hchain : Chain S h v chain) (hr : r < h.size)
    (hv : Holds S h (.object r) v) :
    chain.length < h.size ∧ ∀ part, sizeOf part < sizeOf v → Chain S h part (r :: chain) := by
  have hfresh : r ∉ chain := by
    intro hmem
    obtain ⟨-, w, hw, hlt⟩ := hchain.larger r hmem
    rw [hv.unique hw] at hlt
    exact Nat.lt_irrefl _ hlt
  have hnodup : (r :: chain).Nodup := List.nodup_cons.mpr ⟨hfresh, hchain.nodup⟩
  have hplaces : ∀ q ∈ r :: chain, q < h.size :=
    List.forall_mem_cons.mpr ⟨hr, fun q hq => (hchain.larger q hq).1⟩
  have hlength : (r :: chain).length ≤ (List.range h.size).length :=
    hnodup.length_le_of_subset fun q hq => List.mem_range.mpr (hplaces q hq)
  rw [List.length_cons, List.length_range] at hlength
  refine ⟨hlength, fun part hpart => ⟨hnodup, ?_⟩⟩
  refine List.forall_mem_cons.mpr ⟨⟨hr, v, hv, hpart⟩, fun q hq => ?_⟩
  obtain ⟨hq', w, hw, hlt⟩ := hchain.larger q hq
  exact ⟨hq', w, hw, Nat.lt_trans hpart hlt⟩

theorem map_eq_of_zip {α β : Type} {f : α → β} {items : List α} {vs : List β}
    (hlength : items.length = vs.length) (hitems : ∀ p ∈ items.zip vs, f p.1 = p.2) :
    items.map f = vs := by
  refine (eq_of_items (R := fun a b => f a = b) hlength (fun p hp w hw => ?_) ?_).symm
  · exact (hitems p hp).symm.trans hw
  · exact List.forall₂_map_right_iff.mpr (List.forall₂_same.mpr fun _ _ => rfl)

/-- The value of a datum is found in a depth that the length of a chain leaves over. -/
theorem Holds.valueTo_eq (hd : Holds S h d v) {chain : List Ref} (hchain : Chain S h v chain)
    {depth : Nat} (hdepth : h.size < depth + chain.length) : h.valueTo depth d = v := by
  induction hd generalizing chain depth with
  | bare => cases depth <;> rfl
  | @list r items vs hS hr hlength hitems ih =>
    obtain ⟨hlt, hparts⟩ := hchain.next (Heap.lt_size hr) (.list hS hr hlength hitems)
    obtain ⟨m, rfl⟩ : ∃ m, depth = m + 1 := ⟨depth - 1, by omega⟩
    have hm : h.size < m + (r :: chain).length := by rw [List.length_cons]; omega
    rw [Heap.valueTo, hr]
    refine congrArg Value.list (map_eq_of_zip hlength fun p hp => ih p hp (hparts _ ?_) hm)
    have hlt := List.sizeOf_lt_of_mem (List.of_mem_zip hp).2
    rw [Value.list.sizeOf_spec]
    omega
  | @mapping r entries vs hS hr hlength hkeys hentries ih =>
    obtain ⟨hlt, hparts⟩ := hchain.next (Heap.lt_size hr) (.mapping hS hr hlength hkeys hentries)
    obtain ⟨m, rfl⟩ : ∃ m, depth = m + 1 := ⟨depth - 1, by omega⟩
    have hm : h.size < m + (r :: chain).length := by rw [List.length_cons]; omega
    rw [Heap.valueTo, hr]
    refine congrArg Value.mapping (map_eq_of_zip hlength fun p hp =>
      Prod.ext (hkeys p hp) (ih p hp (hparts _ ?_) hm))
    have hlt := List.sizeOf_lt_of_mem (List.of_mem_zip hp).2
    obtain ⟨e, k, w⟩ := p
    rw [Prod.mk.sizeOf_spec] at hlt
    rw [Value.mapping.sizeOf_spec]
    dsimp only
    omega

/-- The value of a datum is the one that it holds: no chain is longer than there are objects. -/
theorem Holds.value_eq (hd : Holds S h d v) : h.value d = v := by
  have hchain : Chain S h v [] := ⟨List.nodup_nil, nofun⟩
  exact hd.valueTo_eq hchain (Nat.lt_succ_self _)

/-! ### Values as data -/

/-- What belongs to the members of a list can be made one after another. -/
theorem exists_forall₂ {α β : Type} {R : Heap → α → β → Prop}
    (hkeep : ∀ {h h' a b}, R h a b → h.Grows h' → R h' a b) {bs : List β}
    (hmake : ∀ b ∈ bs, ∀ h : Heap, ∃ h' a, h.Grows h' ∧ R h' a b) (h : Heap) :
    ∃ h' as, h.Grows h' ∧ List.Forall₂ (R h') as bs := by
  induction bs generalizing h with
  | nil => exact ⟨h, [], .refl h, .nil⟩
  | cons b bs ih =>
    obtain ⟨hb, hbs⟩ := List.forall_mem_cons.mp hmake
    obtain ⟨mid, a, hg, ha⟩ := hb h
    obtain ⟨h', as, hg', has⟩ := ih hbs mid
    exact ⟨h', a :: as, hg.trans hg', .cons (hkeep ha hg') has⟩

/-- There can be objects for any value, in addition to those that are there already. -/
theorem exists_holds : ∀ (v : Value) (h : Heap),
    ∃ h' d, h.Grows h' ∧ Holds (fun _ => True) h' d v
  | .list vs, h => by
    obtain ⟨mid, items, hg, hitems⟩ := exists_forall₂ (R := Holds fun _ => True)
      (fun hd hg => hd.of_keeps hg) (fun v _ => exists_holds v) h
    have hg' := Heap.grows_alloc mid (.list items)
    obtain ⟨hlength, hall⟩ := List.forall₂_iff_zip.mp hitems
    exact ⟨_, .object mid.size, hg.trans hg', .list trivial (mid.get?_alloc _) hlength
      fun p hp => Holds.of_keeps (hall hp) hg'⟩
  | .mapping vs, h => by
    have hmake (e : Value × Value) (he : e ∈ vs) (h : Heap) : ∃ h' a, h.Grows h' ∧
        (a : Value × Datum).1 = e.1 ∧ Holds (fun _ => True) h' a.2 e.2 := by
      obtain ⟨k, v⟩ := e
      have hlt : sizeOf v < 1 + sizeOf vs := by
        have hmem := List.sizeOf_lt_of_mem he
        rw [Prod.mk.sizeOf_spec] at hmem
        omega
      obtain ⟨h', d, hg, hd⟩ := exists_holds v h
      exact ⟨h', (k, d), hg, rfl, hd⟩
    obtain ⟨mid, entries, hg, hentries⟩ := exists_forall₂
      (fun ha hg => ⟨ha.1, Holds.of_keeps ha.2 hg⟩) hmake h
    have hg' := Heap.grows_alloc mid (.mapping entries)
    obtain ⟨hlength, hall⟩ := List.forall₂_iff_zip.mp hentries
    exact ⟨_, .object mid.size, hg.trans hg', .mapping trivial (mid.get?_alloc _) hlength
      (fun p hp => (hall hp).1) fun p hp => Holds.of_keeps (hall hp).2 hg'⟩
  | .null, h => ⟨h, _, .refl h, .bare rfl⟩
  | .bool _, h => ⟨h, _, .refl h, .bare rfl⟩
  | .int _, h => ⟨h, _, .refl h, .bare rfl⟩
  | .float _, h => ⟨h, _, .refl h, .bare rfl⟩
  | .text _, h => ⟨h, _, .refl h, .bare rfl⟩
  | .other .., h => ⟨h, _, .refl h, .bare rfl⟩
termination_by v => sizeOf v

/-! ## Entities -/

/-- An entity of a scenario by its parts, under the names of their fields. -/
inductive Form where
  | value (v : Value)
  | list (items : List Form)
  | entity (kind : Kind) (parts : List (String × Form))

/-- A part that can be missing, null standing for it then. -/
def Form.optional {α : Type} (form : α → Form) : Option α → Form
  | none => .value .null
  | some a => form a

/-- What a datum shows: the value that it holds, or an entity or list at one of some places, whose
fields or items show the parts. -/
inductive Shows (S : Ref → Prop) (h : Heap) : Datum → Form → Prop
  | value {d : Datum} {v : Value} (hd : Holds S h d v) : Shows S h d (.value v)
  | list {r : Ref} {items : List Datum} {forms : List Form} (hS : S r)
      (hr : h.get? r = some (.list items)) (hlength : items.length = forms.length)
      (hitems : ∀ p ∈ items.zip forms, Shows S h p.1 p.2) : Shows S h (.object r) (.list forms)
  | entity {r : Ref} {kind : Kind} {fields : List (String × Datum)} {parts : List (String × Form)}
      (hS : S r) (hr : h.get? r = some (.entity kind fields))
      (hnames : ∀ p ∈ parts, (fieldOf? fields p.1).isSome)
      (hparts : ∀ p ∈ parts, Shows S h (Heap.part fields p.1) p.2) :
      Shows S h (.object r) (.entity kind parts)

theorem Shows.imp {form : Form} (hd : Shows S h d form)
    (hget : ∀ r o, S r → h.get? r = some o → S' r ∧ h'.get? r = some o) : Shows S' h' d form := by
  induction hd with
  | value hd => exact .value (hd.imp hget)
  | list hS hr hlength _ ih =>
    obtain ⟨hS', hr'⟩ := hget _ _ hS hr
    exact .list hS' hr' hlength ih
  | entity hS hr hnames _ ih =>
    obtain ⟨hS', hr'⟩ := hget _ _ hS hr
    exact .entity hS' hr' hnames ih

theorem Shows.of_keeps {form : Form} (hd : Shows S h d form) (hk : h.Keeps S h') :
    Shows S h' d form :=
  hd.imp fun r o hS hr => ⟨hS, hk r o hS hr⟩

theorem Shows.of_forall₂ {r : Ref} {items : List Datum} {forms : List Form} (hS : S r)
    (hr : h.get? r = some (.list items)) (hitems : List.Forall₂ (Shows S h) items forms) :
    Shows S h (.object r) (.list forms) := by
  obtain ⟨hlength, hall⟩ := List.forall₂_iff_zip.mp hitems
  exact .list hS hr hlength fun p hp => hall hp

/-- A list of data shows a list of parts. -/
theorem Shows.items {forms : List Form} (hd : Shows S h d (.list forms)) :
    ∃ items, h.object? d = some (.list items) ∧ List.Forall₂ (Shows S h) items forms := by
  cases hd with
  | list _ hr hlength hitems =>
    exact ⟨_, hr, List.forall₂_iff_zip.mpr ⟨hlength, fun hp => hitems _ hp⟩⟩

/-- The fields of an entity show its parts. -/
theorem Shows.fields {kind : Kind} {parts : List (String × Form)}
    (hd : Shows S h d (.entity kind parts)) : ∃ fields, h.object? d = some (.entity kind fields) ∧
      ∀ p ∈ parts, Shows S h (Heap.part fields p.1) p.2 := by
  cases hd with
  | entity _ hr _ hparts => exact ⟨_, hr, hparts⟩

theorem Shows.holds (hd : Shows S h d (.value v)) : Holds S h d v := by
  cases hd with
  | value hd => exact hd

end Workspace

/-! ## The entities of a scenario -/

open Workspace (Form)

/-- A name and a value by its parts. -/
def KeyValue.form (kv : KeyValue) : Form :=
  .entity .keyValue [("name", .value kv.name), ("value", .value kv.value)]

/-- A text assertion by its parts. -/
def TextAssertion.form (a : TextAssertion) : Form :=
  .entity .text
    [("subject", .value a.subject), ("condition", .value a.condition), ("value", .value a.value)]

/-- An assertion on a regular expression by its parts. -/
def RegexAssertion.form (a : RegexAssertion) : Form :=
  .entity .regex [("subject", .value a.subject), ("expression", .value a.expression),
    ("description", .value a.description)]

/-- A greatest duration by its parts. -/
def ResponseTime.form (t : ResponseTime) : Form :=
  .entity .responseTime [("value", .value t.value)]

/-- The assertions of a request by their parts. -/
def Assertions.form (a : Assertions) : Form :=
  .entity .assertions [("text", .list (a.text.map TextAssertion.form)),
    ("regex", .list (a.regex.map RegexAssertion.form)),
    ("duration", .optional ResponseTime.form a.duration)]

/-- A body by its parts. -/
def Body.form (b : Body) : Form :=
  .entity .body
    [("type", .value b.type), ("raw", .value b.raw), ("kvs", .list (b.kvs.map KeyValue.form))]

/-- A request by its parts. -/
def Request.form (r : Request) : Form :=
  .entity .request [("id", .value r.id), ("name", .value r.name), ("url", .value r.url),
    ("method", .value r.method), ("parameters", .list (r.parameters.map KeyValue.form)),
    ("headers", .list (r.headers.map KeyValue.form)), ("body", .optional Body.form r.body),
    ("assertions", .optional Assertions.form r.assertions),
    ("extract", .list (r.extract.map .value))]

/-- A scenario by its parts. -/
def Scenario.form (s : Scenario) : Form :=
  .entity .scenario [("id", .value s.id), ("name", .value s.name), ("url", .value s.url),
    ("parameters", .list (s.parameters.map KeyValue.form)),
    ("headers", .list (s.headers.map KeyValue.form)),
    ("requests", .list (s.requests.map Request.form))]

/-- A test by its parts. -/
def Test.form (t : Test) : Form :=
  .entity .test [("version", .value t.version), ("id", .value t.id), ("name", .value t.name),
    ("project_id", .value t.projectId),
    ("scenario_definition", .list (t.scenarios.map Scenario.form))]

end LoadPlan
