import LoadPlan.Proofs.Value
import LoadPlan.Proofs.Workspace.Growth
import Mathlib.Data.List.Nodup

/-!
# An entity in work

While an entity is being built, it, its lists and the copy of its options are objects that the build
has made itself. What they have become so far is all that its steps change (`InWork`), so for each
step it is enough to say how it advances the entity (`Advances`).
-/

namespace LoadPlan

theorem Kind.nodup_fields (kind : Kind) : (kind.fields.map (·.name)).Nodup := by
  cases kind <;> decide

/-- The field of a kind with the name of one of its fields. -/
theorem Kind.field?_of_mem {kind : Kind} {f : Field} (hf : f ∈ kind.fields) :
    kind.field? f.name = some f := by
  revert f
  cases kind <;> decide

/-- A field of a kind is known by its name. -/
theorem Kind.eq_of_name_eq {kind : Kind} {f g : Field} (hf : f ∈ kind.fields)
    (hg : g ∈ kind.fields) (h : f.name = g.name) : f = g :=
  List.inj_on_of_nodup_map kind.nodup_fields hf hg h

/-- Whether a field holds a list. -/
def Field.isList (f : Field) : Bool :=
  match f.content with
  | .entities _ | .reserved => true
  | _ => false

/-- Whether a field holds a list of entities. -/
def Field.holdsEntities (f : Field) : Bool :=
  match f.content with
  | .entities _ => true
  | _ => false

theorem Field.isList_of_entity {f : Field} {child : Kind} (h : f.content = .entity child) :
    f.isList = false := by
  unfold Field.isList
  rw [h]

theorem Field.isList_of_entities {f : Field} {child : Kind} (h : f.content = .entities child) :
    f.isList = true := by
  unfold Field.isList
  rw [h]

namespace Workspace

/-! ## Data under keys -/

section Put

variable {κ : Type} (isKey isOther : κ → Bool) {key : κ}

theorem find?_put_self (hkey : isKey key = true) (d : Datum) (l : List (κ × Datum)) :
    ((put isKey key d l).find? (isKey ·.1)).map (·.2) = some d := by
  induction l with
  | nil => simp [put, hkey]
  | cons e l ih =>
    rw [put]
    split
    · simp_all
    · simp_all

/-- What is found under another key is not concerned. -/
theorem find?_put_of_ne (hkey : isKey key = true) (hother : ∀ k, isKey k = true → isOther k = false)
    (d : Datum) (l : List (κ × Datum)) :
    ((put isKey key d l).find? (isOther ·.1)).map (·.2) =
      (l.find? (isOther ·.1)).map (·.2) := by
  induction l with
  | nil => simp [put, hother key hkey]
  | cons e l ih =>
    rw [put]
    split
    · rename_i he
      simp [hother e.1 he]
    · rw [List.find?_cons, List.find?_cons]
      cases isOther e.1 with
      | true => rfl
      | false => exact ih

end Put

@[simp, grind =]
theorem fieldOf?_cons_self (b : String × Datum) (fields : List (String × Datum)) :
    fieldOf? (b :: fields) b.1 = some b.2 := by
  simp [fieldOf?]

@[grind =]
theorem fieldOf?_cons_of_ne {b : String × Datum} {name : String} (h : b.1 ≠ name)
    (fields : List (String × Datum)) : fieldOf? (b :: fields) name = fieldOf? fields name := by
  simp [fieldOf?, h]

@[simp, grind =]
theorem fieldOf?_withField_self (fields : List (String × Datum)) (name : String) (d : Datum) :
    fieldOf? (withField fields name d) name = some d :=
  find?_put_self (· == name) (beq_self_eq_true name) d fields

@[simp, grind =]
theorem fieldOf?_withField_of_ne {name other : String} (h : other ≠ name)
    (fields : List (String × Datum)) (d : Datum) :
    fieldOf? (withField fields name d) other = fieldOf? fields other :=
  find?_put_of_ne (· == name) (· == other) (beq_self_eq_true name)
    (fun _ hk => beq_false_of_ne (beq_iff_eq.mp hk ▸ h.symm)) d fields

@[simp, grind =]
theorem entryOf?_withEntry_self (entries : OptionEntries) (key : String) (d : Datum) :
    entryOf? (withEntry entries key d) key = some d :=
  find?_put_self (Value.isText · key) (Value.isText_self key) d entries

@[simp, grind =]
theorem entryOf?_withEntry_of_ne {key other : String} (h : other ≠ key)
    (entries : OptionEntries) (d : Datum) :
    entryOf? (withEntry entries key d) other = entryOf? entries other := by
  refine find?_put_of_ne (Value.isText · key) (Value.isText · other) (Value.isText_self key)
    (fun k hk => ?_) d entries
  rw [Value.isText_iff.mp hk]
  exact beq_false_of_ne h.symm

/-- The option of a field that has no further name. -/
theorem optionOf?_of_none {f : Field} (h : f.furtherName? = none) (entries : OptionEntries) :
    optionOf? entries f = (entryOf? entries f.name).map fun d => (f.name, d) := by
  unfold optionOf?
  rw [h]
  cases entryOf? entries f.name <;> rfl

theorem optionOf?_withEntry_self {f : Field} (h : f.furtherName? = none) (entries : OptionEntries)
    (d : Datum) : optionOf? (withEntry entries f.name d) f = some (f.name, d) := by
  simp [optionOf?_of_none h]

theorem optionOf?_withEntry_of_ne {f : Field} {key : String} (h : f.name ≠ key)
    (hfurther : f.furtherName? ≠ some key) (entries : OptionEntries) (d : Datum) :
    optionOf? (withEntry entries key d) f = optionOf? entries f := by
  unfold optionOf?
  cases hname : f.furtherName? with
  | none => simp [h]
  | some further =>
    have hne : further ≠ key := fun h => hfurther (h ▸ hname)
    simp [h, hne]

/-- An option is what is under its key. -/
theorem entryOf?_of_optionOf? {entries : OptionEntries} {f : Field} {key : String} {d : Datum}
    (h : optionOf? entries f = some (key, d)) : entryOf? entries key = some d := by
  unfold optionOf? at h
  split at h
  · rename_i hd
    obtain ⟨rfl, rfl⟩ := Prod.mk.inj (Option.some.inj h)
    exact hd
  · split at h
    · cases h
    · obtain ⟨e, he, hkey⟩ := Option.map_eq_some_iff.mp h
      obtain ⟨rfl, rfl⟩ := Prod.mk.inj hkey
      exact he

/-- Entries without the one under the further name of a field. -/
def withoutFurther (entries : OptionEntries) (f : Field) : OptionEntries :=
  f.furtherName?.elim entries fun further => entries.filter fun e => !e.1.isText further

/-- Fields after that of a field was set from options, unless it holds a list. -/
def settle (entries : OptionEntries) (fields : List (String × Datum)) (f : Field) :
    List (String × Datum) :=
  if f.isList then fields
  else (optionOf? entries f).elim fields fun option => withField fields f.name option.2

theorem fieldOf?_settle_self (entries : OptionEntries) (fields : List (String × Datum))
    (f : Field) : fieldOf? (settle entries fields f) f.name =
      if f.isList then fieldOf? fields f.name
      else ((optionOf? entries f).map (·.2)).or (fieldOf? fields f.name) := by
  unfold settle
  split
  · rfl
  · cases optionOf? entries f <;> simp

@[simp]
theorem fieldOf?_settle_of_ne {f : Field} {name : String} (h : name ≠ f.name)
    (entries : OptionEntries) (fields : List (String × Datum)) :
    fieldOf? (settle entries fields f) name = fieldOf? fields name := by
  unfold settle
  split
  · rfl
  · cases optionOf? entries f <;> simp [h]

theorem fieldOf?_foldl_settle_of_not_mem {fs : List Field} {name : String}
    (h : name ∉ fs.map (·.name)) (entries : OptionEntries) (fields : List (String × Datum)) :
    fieldOf? (fs.foldl (settle entries) fields) name = fieldOf? fields name := by
  induction fs generalizing fields with
  | nil => rfl
  | cons f fs ih =>
    rw [List.map_cons, List.mem_cons, not_or] at h
    rw [List.foldl_cons, ih h.2, fieldOf?_settle_of_ne h.1]

/-- Each field is set once. -/
theorem fieldOf?_foldl_settle {fs : List Field} (hnodup : (fs.map (·.name)).Nodup)
    (entries : OptionEntries) (fields : List (String × Datum)) : ∀ f ∈ fs,
      fieldOf? (fs.foldl (settle entries) fields) f.name =
        if f.isList then fieldOf? fields f.name
        else ((optionOf? entries f).map (·.2)).or (fieldOf? fields f.name) := by
  induction fs generalizing fields with
  | nil => nofun
  | cons f fs ih =>
    rw [List.map_cons, List.nodup_cons] at hnodup
    refine List.forall_mem_cons.mpr ⟨?_, fun g hg => ?_⟩
    · rw [List.foldl_cons, fieldOf?_foldl_settle_of_not_mem hnodup.1, fieldOf?_settle_self]
    · have hne : g.name ≠ f.name := fun h => hnodup.1 (List.mem_map.mpr ⟨g, hg, h⟩)
      rw [List.foldl_cons, ih hnodup.2 _ g hg, fieldOf?_settle_of_ne hne]

/-! ## Options in a heap -/

namespace Heap

variable {h : Heap} {options : Datum} {entries : OptionEntries}
  (hoptions : h.object? options = some (.mapping entries))
include hoptions

theorem optionName?_mapping (f : Field) :
    h.optionName? options f = .ok ((optionOf? entries f).map (·.1)) := by
  unfold optionName? holds optionOf?
  simp only [hoptions]
  cases hname : entryOf? entries f.name with
  | some d => rfl
  | none =>
    cases f.furtherName? with
    | none => rfl
    | some further =>
      cases hfurther : entryOf? entries further <;> simp [Bind.bind, Except.bind, hfurther] <;> rfl

@[simp]
theorem optionAt_mapping (key : String) :
    h.optionAt options key = .ok ((entryOf? entries key).getD .null) := by
  unfold optionAt
  rw [hoptions]

/-- The list of a field for which there is no option. -/
theorem listGiven_of_none {f : Field} (hf : optionOf? entries f = none) (kind : Kind) :
    h.listGiven kind options f = .ok [] := by
  unfold listGiven
  rw [optionName?_mapping hoptions, hf]
  rfl

/-- The list of a field for which there is an option. -/
theorem listGiven_of_some {f : Field} {key : String} {d : Datum}
    (hf : optionOf? entries f = some (key, d)) (kind : Kind) :
    h.listGiven kind options f =
      if d.isNull then .ok []
      else match h.object? d with
        | some (.list items) => .ok items
        | _ => .error (.shape (.list key kind.name (h.kindName d)) none) := by
  unfold listGiven
  rw [optionName?_mapping hoptions, hf]
  simp only [Option.map_some, optionAt_mapping hoptions, entryOf?_of_optionOf? hf,
    Option.getD_some, Bind.bind, Except.bind]
  cases d.isNull with
  | true => rfl
  | false => cases h.object? d <;> rfl

end Heap

/-! ## What is in work -/

/-- Where an entity is being built: the heap before, the number of objects with those that the build
makes itself, the kind, and the places of the entity and of the copy of its options. -/
structure Site where
  before : Heap
  size : Nat
  kind : Kind
  self : Ref
  options : Ref

/-- How far the build of an entity is: its fields, the entries of its options, and the items of its
lists by the names of their fields. -/
structure Progress where
  fields : List (String × Datum)
  entries : OptionEntries
  items : String → List Datum

namespace Progress

/-- With other fields. -/
def setFields (p : Progress) (fields : List (String × Datum)) : Progress :=
  { p with fields }

/-- With other entries of the options. -/
def setEntries (p : Progress) (entries : OptionEntries) : Progress :=
  { p with entries }

/-- The items of a list after some were added. -/
def add (p : Progress) (name : String) (made : List Datum) : Progress :=
  { p with items := Function.update p.items name (p.items name ++ made) }

variable (p : Progress) (fields : List (String × Datum)) (entries : OptionEntries)

@[simp]
theorem fields_setFields : (p.setFields fields).fields = fields :=
  rfl

@[simp]
theorem entries_setFields : (p.setFields fields).entries = p.entries :=
  rfl

@[simp]
theorem items_setFields : (p.setFields fields).items = p.items :=
  rfl

@[simp]
theorem fields_setEntries : (p.setEntries entries).fields = p.fields :=
  rfl

@[simp]
theorem entries_setEntries : (p.setEntries entries).entries = entries :=
  rfl

@[simp]
theorem items_setEntries : (p.setEntries entries).items = p.items :=
  rfl

@[simp]
theorem setEntries_setEntries (other : OptionEntries) :
    (p.setEntries other).setEntries entries = p.setEntries entries :=
  rfl

@[simp]
theorem fields_add (name : String) (made : List Datum) : (p.add name made).fields = p.fields :=
  rfl

@[simp]
theorem entries_add (name : String) (made : List Datum) : (p.add name made).entries = p.entries :=
  rfl

@[simp]
theorem add_nil (name : String) : p.add name [] = p := by
  simp [add]

@[simp]
theorem add_add (name : String) (made more : List Datum) :
    (p.add name made).add name more = p.add name (made ++ more) := by
  simp [add]

@[simp]
theorem items_add_self (name : String) (made : List Datum) :
    (p.add name made).items name = p.items name ++ made :=
  Function.update_self ..

@[simp]
theorem items_add_of_ne {name other : String} (h : other ≠ name) (made : List Datum) :
    (p.add name made).items other = p.items other :=
  Function.update_of_ne h ..

end Progress

namespace Site

/-- The places of the objects that the build makes itself. -/
def Own (b : Site) (r : Ref) : Prop :=
  b.before.size ≤ r ∧ r < b.size

/-- All other places: what is there is kept. -/
def Other (b : Site) (r : Ref) : Prop :=
  ¬b.Own r

theorem Other.of_size_le {b : Site} {r : Ref} (hr : b.size ≤ r) : b.Other r :=
  fun hown => Nat.not_le.mpr hown.2 hr

theorem Other.of_lt_size {b : Site} {r : Ref} (hr : r < b.before.size) : b.Other r :=
  fun hown => Nat.not_lt.mpr hown.1 hr

/-- What was there before is kept. -/
theorem grows {b : Site} {now after : Heap} (hg : b.before.Grows now)
    (hk : now.Keeps b.Other after) : b.before.Grows after := by
  intro r o _ hr
  exact hk r o (.of_lt_size (Heap.lt_size hr)) (hg.get? hr)

end Site

/-- What the objects are that a build has made itself, when it is so far. -/
structure InWork (b : Site) (p : Progress) (now : Heap) : Prop where
  grows : b.before.Grows now
  size : b.size ≤ now.size
  self : b.Own b.self ∧ now.get? b.self = some (.entity b.kind p.fields)
  options : b.Own b.options ∧ now.get? b.options = some (.mapping p.entries)
  list : ∀ f ∈ b.kind.fields, f.isList = true → ∃ l, fieldOf? p.fields f.name = some (.object l) ∧
    b.Own l ∧ now.get? l = some (.list (p.items f.name))
  /-- No two lists are the same. -/
  apart : ∀ f ∈ b.kind.fields, ∀ g ∈ b.kind.fields, f.isList = true → g.isList = true →
    fieldOf? p.fields f.name = fieldOf? p.fields g.name → f.name = g.name

/-- A step that advances an entity in work, and keeps all other objects. -/
def Advances {α : Type} (b : Site) (now : Heap) (x : Drafting α) (a : α) (p : Progress) : Prop :=
  ∃ after, Edits now x a after ∧ now.Keeps b.Other after ∧ InWork b p after

theorem Advances.bind {α β : Type} {b : Site} {now : Heap} {x : Drafting α} {f : α → Drafting β}
    {a : α} {c : β} {p q : Progress} (hx : Advances b now x a p)
    (hf : ∀ after, InWork b p after → Advances b after (f a) c q) :
    Advances b now (x >>= f) c q := by
  obtain ⟨mid, hedit, hk, hw⟩ := hx
  obtain ⟨after, hedit', hk', hw'⟩ := hf mid hw
  exact ⟨after, hedit.bind hedit', hk.trans hk', hw'⟩

/-- A step that changes nothing comes first. -/
theorem Advances.step {α β : Type} {b : Site} {now : Heap} {x : Drafting α} {f : α → Drafting β}
    {a : α} {c : β} {q : Progress} (hx : Edits now x a now) (hf : Advances b now (f a) c q) :
    Advances b now (x >>= f) c q := by
  obtain ⟨after, hedit, hk, hw⟩ := hf
  exact ⟨after, hx.bind hedit, hk, hw⟩

theorem Advances.pure {α : Type} {b : Site} {p : Progress} {now : Heap} (hw : InWork b p now)
    (a : α) : Advances b now (Pure.pure a) a p :=
  ⟨now, .pure now a, .refl now, hw⟩

namespace Heap

/-- Writing to a place with another object leaves an object as it is. -/
theorem get?_write_of_ne_object {h : Heap} {q r : Ref} {o p : Object} (hq : h.get? q = some o)
    (hr : h.get? r = some p) (hne : o ≠ p) (new : Object) : (h.write r new).get? q = some o := by
  have hplace : r ≠ q := by
    rintro rfl
    exact hne (Option.some.inj (hq.symm.trans hr))
  rwa [get?_write_of_ne hplace]

end Heap

/-- Own objects can be replaced. -/
theorem Site.Own.keeps_write {b : Site} {r : Ref} (hr : b.Own r) (now : Heap) (o : Object) :
    now.Keeps b.Other (now.write r o) :=
  Heap.keeps_write (not_not_intro hr) o

namespace InWork

variable {b : Site} {p : Progress} {now after : Heap} (hw : InWork b p now)
include hw

/-- The places of an entity in work come after all places before the build. -/
theorem before_size_le : b.before.size ≤ b.size :=
  Nat.le_of_lt (Nat.lt_of_le_of_lt hw.self.1.1 hw.self.1.2)

/-- A computation that only makes objects is no concern of what is in work. -/
theorem of_grows (hg : now.Grows after) : InWork b p after where
  grows := hw.grows.trans hg
  size := Nat.le_trans hw.size hg.size_le
  self := ⟨hw.self.1, hg.get? hw.self.2⟩
  options := ⟨hw.options.1, hg.get? hw.options.2⟩
  list := fun f hf hlist => by
    obtain ⟨l, hl, hown, hitems⟩ := hw.list f hf hlist
    exact ⟨l, hl, hown, hg.get? hitems⟩
  apart := hw.apart

theorem writeSelf {fields : List (String × Datum)}
    (hlists : ∀ f ∈ b.kind.fields, f.isList = true →
      fieldOf? fields f.name = fieldOf? p.fields f.name) :
    InWork b (p.setFields fields) (now.write b.self (.entity b.kind fields)) where
  grows := Site.grows hw.grows (hw.self.1.keeps_write now _)
  size := by rw [Heap.size_write]; exact hw.size
  self := ⟨hw.self.1, Heap.get?_write_self (Heap.lt_size hw.self.2) _⟩
  options := ⟨hw.options.1, Heap.get?_write_of_ne_object hw.options.2 hw.self.2 nofun _⟩
  list := fun f hf hlist => by
    obtain ⟨l, hl, hown, hitems⟩ := hw.list f hf hlist
    exact ⟨l, (hlists f hf hlist).trans hl, hown,
      Heap.get?_write_of_ne_object hitems hw.self.2 nofun _⟩
  apart := fun f hf g hg hlist hlist' hsame => by
    rw [Progress.fields_setFields, hlists f hf hlist, hlists g hg hlist'] at hsame
    exact hw.apart f hf g hg hlist hlist' hsame

theorem writeOptions (entries : OptionEntries) :
    InWork b (p.setEntries entries) (now.write b.options (.mapping entries)) where
  grows := Site.grows hw.grows (hw.options.1.keeps_write now _)
  size := by rw [Heap.size_write]; exact hw.size
  self := ⟨hw.self.1, Heap.get?_write_of_ne_object hw.self.2 hw.options.2 nofun _⟩
  options := ⟨hw.options.1, Heap.get?_write_self (Heap.lt_size hw.options.2) _⟩
  list := fun f hf hlist => by
    obtain ⟨l, hl, hown, hitems⟩ := hw.list f hf hlist
    exact ⟨l, hl, hown, Heap.get?_write_of_ne_object hitems hw.options.2 nofun _⟩
  apart := hw.apart

/-- The list of a field gets other items. -/
theorem writeList {f : Field} (hf : f ∈ b.kind.fields) (hlist : f.isList = true) {l : Ref}
    (hl : fieldOf? p.fields f.name = some (.object l)) (items : List Datum) :
    InWork b { p with items := Function.update p.items f.name items }
      (now.write l (.list items)) := by
  obtain ⟨l', hl', hown, hitems⟩ := hw.list f hf hlist
  obtain rfl : l = l' := Datum.object.inj (Option.some.inj (hl.symm.trans hl'))
  refine ⟨Site.grows hw.grows (hown.keeps_write now _), ?_, ⟨hw.self.1, ?_⟩, ⟨hw.options.1, ?_⟩, ?_,
    hw.apart⟩
  · rw [Heap.size_write]
    exact hw.size
  · exact Heap.get?_write_of_ne_object hw.self.2 hitems nofun _
  · exact Heap.get?_write_of_ne_object hw.options.2 hitems nofun _
  · intro g hg hlist'
    obtain ⟨q, hq, hown', hitems'⟩ := hw.list g hg hlist'
    refine ⟨q, hq, hown', ?_⟩
    by_cases hname : g.name = f.name
    · obtain rfl : l = q := by
        rw [hname] at hq
        exact Datum.object.inj (Option.some.inj (hl.symm.trans hq))
      dsimp only
      rw [hname, Function.update_self]
      exact Heap.get?_write_self (Heap.lt_size hitems) _
    · have hplace : l ≠ q := by
        rintro rfl
        exact hname (hw.apart g hg f hf hlist' hlist (hq.trans hl.symm))
      dsimp only
      rw [Function.update_of_ne hname, Heap.get?_write_of_ne hplace]
      exact hitems'

/-! ## Steps -/

theorem entity (needed : String) : Edits now (Drafting.entity (.object b.self) needed)
    (b.self, b.kind, p.fields) now := by
  unfold Drafting.entity
  refine (Edits.heap now).bind ?_
  have hself : now.object? (.object b.self) = some (.entity b.kind p.fields) := hw.self.2
  simp only [hself]
  exact .pure now _

/-- A field that holds no list is set. -/
theorem assign {name : String} (hname : ∀ f ∈ b.kind.fields, f.isList = true → f.name ≠ name)
    (x : Datum) : Advances b now (Drafting.assign (.object b.self) name x) ()
      (p.setFields (withField p.fields name x)) := by
  refine ⟨_, (hw.entity name).bind (.write now b.self _), hw.self.1.keeps_write now _,
    hw.writeSelf fun f hf hlist => ?_⟩
  exact fieldOf?_withField_of_ne (hname f hf hlist) _ _

theorem putEntry (key : String) (x : Datum) :
    Advances b now (Drafting.putEntry (.object b.options) key x) ()
      (p.setEntries (withEntry p.entries key x)) := by
  refine ⟨_, ?_, hw.options.1.keeps_write now _, hw.writeOptions _⟩
  unfold Drafting.putEntry
  refine (Edits.heap now).bind ?_
  have hoptions : now.object? (.object b.options) = some (.mapping p.entries) := hw.options.2
  simp only [hoptions]
  exact .write now b.options _

theorem dropEntry (key : String) :
    Advances b now (Drafting.dropEntry (.object b.options) key) ()
      (p.setEntries (p.entries.filter fun e => !e.1.isText key)) := by
  refine ⟨_, ?_, hw.options.1.keeps_write now _, hw.writeOptions _⟩
  unfold Drafting.dropEntry
  refine (Edits.heap now).bind ?_
  have hoptions : now.object? (.object b.options) = some (.mapping p.entries) := hw.options.2
  simp only [hoptions]
  exact .write now b.options _

theorem append {f : Field} (hf : f ∈ b.kind.fields) (hlist : f.isList = true) (x : Datum) :
    Advances b now (Drafting.append (Heap.part p.fields f.name) x) () (p.add f.name [x]) := by
  obtain ⟨l, hl, hown, hitems⟩ := hw.list f hf hlist
  refine ⟨_, ?_, hown.keeps_write now _, hw.writeList hf hlist hl _⟩
  unfold Drafting.append
  refine (Edits.heap now).bind ?_
  have htarget : now.object? (.object l) = some (.list (p.items f.name)) := hitems
  simp only [Heap.part, hl, Option.getD_some, htarget]
  exact .write now l _

/-- What the build finds as the option of a field. -/
theorem getOption {f : Field} {name : String} (hf : b.kind.field? name = some f) :
    Edits now (Drafting.getOption (.object b.self) (.object b.options) name)
      (((optionOf? p.entries f).map (·.2)).getD .null) now := by
  have hoptions : now.object? (.object b.options) = some (.mapping p.entries) := hw.options.2
  unfold Drafting.getOption
  refine (hw.entity _).bind ((Edits.lift now (a := f) ?_).bind ((Edits.heap now).bind
    ((Edits.lift now (Heap.optionName?_mapping hoptions f)).bind ?_)))
  · simp [fieldNamed, hf]
  · cases hoption : optionOf? p.entries f with
    | none => exact .pure now _
    | some option =>
      refine .lift now ?_
      rw [Heap.optionAt_mapping hoptions, entryOf?_of_optionOf? hoption]
      rfl

/-- An option replaces one under a further name. -/
theorem putOption {f : Field} {name : String} (hf : b.kind.field? name = some f) (x : Datum) :
    Advances b now (Drafting.putOption (.object b.self) (.object b.options) name x) ()
      (p.setEntries (withEntry (withoutFurther p.entries f) name x)) := by
  unfold Drafting.putOption
  refine Advances.step (hw.entity _) (.step (a := f) (Edits.lift now ?_) ?_)
  · simp [fieldNamed, hf]
  · unfold withoutFurther
    cases f.furtherName? with
    | none => exact Advances.step (.pure now _) (hw.putEntry name x)
    | some further => exact (hw.dropEntry further).bind fun after hw' => hw'.putEntry name x

/-- What is under a key stays if it counts as given, and a default is put there otherwise. -/
theorem putDefault (key : String) {default : Drafting Datum} {x : Datum} {mid : Heap}
    (hx : Edits now default x mid) (hg : now.Grows mid) :
    ∃ after, Edits now (Workspace.putDefault (.object b.options) key default) () after ∧
      now.Keeps b.Other after ∧
      if now.isTruthy ((entryOf? p.entries key).getD .null) then InWork b p after
      else mid.Keeps b.Other after ∧
        InWork b (p.setEntries (withEntry p.entries key x)) after := by
  have hoptions : now.object? (.object b.options) = some (.mapping p.entries) := hw.options.2
  have hgiven := Edits.lift now (Heap.optionAt_mapping hoptions key)
  unfold Workspace.putDefault
  cases htruthy : now.isTruthy ((entryOf? p.entries key).getD .null) with
  | true =>
    refine ⟨now, (Edits.heap now).bind (hgiven.bind ?_), .refl now, hw⟩
    simp only [htruthy, Bool.not_true, Bool.false_eq_true, if_false]
    exact .pure now ()
  | false =>
    obtain ⟨after, hput, hk, hw'⟩ := (hw.of_grows hg).putEntry key x
    refine ⟨after, (Edits.heap now).bind (hgiven.bind ?_), hg.keeps.trans hk, hk, hw'⟩
    simp only [htruthy, Bool.not_false, if_true]
    exact hx.bind hput

theorem isList_part {f : Field} (hf : f ∈ b.kind.fields) (hlist : f.isList = true) :
    now.isList (Heap.part p.fields f.name) = true := by
  obtain ⟨l, hl, -, hitems⟩ := hw.list f hf hlist
  have htarget : now.object? (.object l) = some (.list (p.items f.name)) := hitems
  simp [Heap.isList, Heap.part, hl, htarget]

/-- A field is set from the options, if it does not hold a list. -/
theorem setField {f : Field} (hf : f ∈ b.kind.fields)
    (hplain : f.isList = false → ∃ v, fieldOf? p.fields f.name = some (.value v)) :
    Advances b now (Drafting.setField (.object b.self) (.object b.options) f) ()
      (p.setFields (settle p.entries p.fields f)) := by
  have hoptions : now.object? (.object b.options) = some (.mapping p.entries) := hw.options.2
  unfold Drafting.setField settle
  refine .step (hw.entity _) (.step (.heap now)
    (.step (.lift now (Heap.optionName?_mapping hoptions f)) ?_))
  cases hlist : f.isList with
  | true =>
    cases hoption : optionOf? p.entries f with
    | none => exact .pure hw ()
    | some option =>
      simp only [Option.map_some, hw.isList_part hf hlist, if_true]
      exact .pure hw ()
  | false =>
    cases hoption : optionOf? p.entries f with
    | none => exact .pure hw ()
    | some option =>
      obtain ⟨v, hv⟩ := hplain hlist
      have hset : now.isList (Heap.part p.fields f.name) = false := by
        rw [Heap.part, hv]
        rfl
      simp only [Option.map_some, hset, Bool.false_eq_true, if_false]
      refine .step (.lift now (Heap.optionAt_mapping hoptions option.1)) ?_
      rw [entryOf?_of_optionOf? hoption]
      refine ⟨_, .write now b.self _, hw.self.1.keeps_write now _, hw.writeSelf fun g hg hg' => ?_⟩
      refine fieldOf?_withField_of_ne (fun hname => ?_) _ _
      rw [Kind.eq_of_name_eq hg hf hname, hlist] at hg'
      cases hg'

/-- The fields are set from the options one after another. -/
theorem setFields {fs : List Field} (hfs : ∀ f ∈ fs, f ∈ b.kind.fields)
    (hnodup : (fs.map (·.name)).Nodup)
    (hplain : ∀ f ∈ fs, f.isList = false → ∃ v, fieldOf? p.fields f.name = some (.value v)) :
    Advances b now (fs.forM (Drafting.setField (.object b.self) (.object b.options))) ()
      (p.setFields (fs.foldl (settle p.entries) p.fields)) := by
  induction fs generalizing p now with
  | nil => exact .pure hw ()
  | cons f fs ih =>
    rw [List.map_cons, List.nodup_cons] at hnodup
    rw [List.forall_mem_cons] at hfs hplain
    refine (hw.setField hfs.1 hplain.1).bind fun after hw' => ih hw' hfs.2 hnodup.2 ?_
    intro g hg hlist
    have hne : g.name ≠ f.name := fun h => hnodup.1 (List.mem_map.mpr ⟨g, hg, h⟩)
    obtain ⟨v, hv⟩ := hplain.2 g hg hlist
    exact ⟨v, (fieldOf?_settle_of_ne hne _ _).trans hv⟩

theorem setAll (hplain : ∀ f ∈ b.kind.fields, f.isList = false →
      ∃ v, fieldOf? p.fields f.name = some (.value v)) :
    Advances b now (Drafting.setAll (.object b.self) (.object b.options)) ()
      (p.setFields (b.kind.fields.foldl (settle p.entries) p.fields)) :=
  .step (hw.entity _) (hw.setFields (fun _ hf => hf) b.kind.nodup_fields hplain)

end InWork

/-- Options for one entity with all defaults. -/
theorem oneDefault_edits (now : Heap) : ∃ l q after, Edits now oneDefault (.object l) after ∧
    now.Grows after ∧ now.size ≤ l ∧ now.size ≤ q ∧ after.get? l = some (.list [.object q]) ∧
    after.get? q = some (.mapping []) := by
  let mid := (now.alloc (.mapping [])).1
  have hg : mid.Grows (mid.alloc (.list [.object now.size])).1 := mid.grows_alloc _
  have hsize : now.size ≤ mid.size := (now.grows_alloc _).size_le
  exact ⟨mid.size, now.size, _, (Edits.alloc now _).bind (.alloc mid _),
    (now.grows_alloc _).trans hg, hsize, Nat.le_refl _, mid.get?_alloc _,
    hg.get? (now.get?_alloc _)⟩

/-! ## A new entity -/

/-- Fields of a new entity, whose lists are new and no two the same. -/
structure IsBlank (kind : Kind) (now after : Heap) (fs : List Field)
    (fields : List (String × Datum)) : Prop where
  names : fields.map Prod.fst = fs.map (·.name)
  plain : ∀ f ∈ fs, f.isList = false → fieldOf? fields f.name = some (.value (defaultOf kind f))
  list : ∀ f ∈ fs, f.isList = true → ∃ l, fieldOf? fields f.name = some (.object l) ∧
    now.size ≤ l ∧ after.get? l = some (.list [])
  apart : ∀ f ∈ fs, ∀ g ∈ fs, f.isList = true → g.isList = true →
    fieldOf? fields f.name = fieldOf? fields g.name → f.name = g.name

theorem blankField_edits (kind : Kind) (now : Heap) (f : Field) :
    ∃ d after, Edits now (blankField kind [] f) (f.name, d) after ∧ now.Grows after ∧
      (f.isList = false → d = .value (defaultOf kind f)) ∧
      (f.isList = true → d = .object now.size ∧ after.get? now.size = some (.list [])) := by
  unfold blankField Field.isList
  cases hcontent : f.content with
  | scalar => exact ⟨_, now, .pure now _, .refl now, fun _ => rfl, nofun⟩
  | entity child => exact ⟨_, now, .pure now _, .refl now, fun _ => rfl, nofun⟩
  | entities child =>
    exact ⟨_, _, (Edits.alloc now _).bind (.pure _ _), now.grows_alloc _, nofun,
      fun _ => ⟨rfl, now.get?_alloc _⟩⟩
  | reserved =>
    exact ⟨_, _, (Edits.alloc now _).bind (.pure _ _), now.grows_alloc _, nofun,
      fun _ => ⟨rfl, now.get?_alloc _⟩⟩

theorem blankFields_edits (kind : Kind) (now : Heap) {fs : List Field}
    (hnodup : (fs.map (·.name)).Nodup) :
    ∃ fields after, Edits now (fs.mapM (blankField kind [])) fields after ∧ now.Grows after ∧
      IsBlank kind now after fs fields := by
  induction fs generalizing now with
  | nil => exact ⟨[], now, .pure now [], .refl now, ⟨rfl, nofun, nofun, nofun⟩⟩
  | cons f fs ih =>
    rw [List.map_cons, List.nodup_cons] at hnodup
    obtain ⟨d, mid, hhead, hg, hplain, hlist⟩ := blankField_edits kind now f
    obtain ⟨fields, after, hrest, hg', hblank⟩ := ih mid hnodup.2
    have hother : ∀ g ∈ fs, fieldOf? ((f.name, d) :: fields) g.name = fieldOf? fields g.name := by
      intro g hg
      exact fieldOf?_cons_of_ne (fun h => hnodup.1 (List.mem_map.mpr ⟨g, hg, h.symm⟩)) fields
    have hself : fieldOf? ((f.name, d) :: fields) f.name = some d := fieldOf?_cons_self _ _
    -- a list that is made later is not the one of the first field
    have hlater : f.isList = true → ∀ g ∈ fs, g.isList = true →
        fieldOf? fields g.name ≠ some d := by
      intro hf g hgs hglist heq
      obtain ⟨rfl, hthere⟩ := hlist hf
      obtain ⟨l, hl, hle, -⟩ := hblank.list g hgs hglist
      obtain rfl : l = now.size := Datum.object.inj (Option.some.inj (hl.symm.trans heq))
      exact Nat.not_le.mpr (Heap.lt_size hthere) hle
    refine ⟨(f.name, d) :: fields, after, ?_, hg.trans hg', ?_, ?_, ?_, ?_⟩
    · rw [List.mapM_cons]
      exact hhead.bind (hrest.bind (.pure after _))
    · rw [List.map_cons, List.map_cons, hblank.names]
    · refine List.forall_mem_cons.mpr ⟨fun hf => ?_, fun g hg hglist => ?_⟩
      · rw [hself, hplain hf]
      · rw [hother g hg, hblank.plain g hg hglist]
    · refine List.forall_mem_cons.mpr ⟨fun hf => ?_, fun g hgs hglist => ?_⟩
      · obtain ⟨rfl, hthere⟩ := hlist hf
        exact ⟨_, hself, Nat.le_refl _, hg'.get? hthere⟩
      · obtain ⟨l, hl, hle, hthere⟩ := hblank.list g hgs hglist
        exact ⟨l, (hother g hgs).trans hl, Nat.le_trans hg.size_le hle, hthere⟩
    · refine List.forall_mem_cons.mpr ⟨?_, fun g hg => ?_⟩
      · refine List.forall_mem_cons.mpr ⟨fun _ _ _ => rfl, fun g hg hf hglist heq => ?_⟩
        rw [hself, hother g hg] at heq
        exact absurd heq.symm (hlater hf g hg hglist)
      · refine List.forall_mem_cons.mpr
          ⟨fun hglist hf heq => ?_, fun g' hg' hglist hglist' heq => ?_⟩
        · rw [hself, hother g hg] at heq
          exact absurd heq (hlater hf g hg hglist)
        · rw [hother g hg, hother g' hg'] at heq
          exact hblank.apart g hg g' hg' hglist hglist' heq

/-- How far the build of an entity is when it starts: its fields have plain defaults, its lists are
empty, and the options are those that are given. -/
structure Progress.IsStart (kind : Kind) (entries : OptionEntries) (p : Progress) : Prop where
  entries : p.entries = entries
  items : p.items = fun _ => []
  plain : ∀ f ∈ kind.fields, f.isList = false →
    fieldOf? p.fields f.name = some (.value (defaultOf kind f))

/-- A field of a new entity has its plain default, also after the entity got an id. -/
theorem Progress.IsStart.plain_withField_of_ne {kind : Kind} {entries : OptionEntries}
    {p : Progress} (hp : p.IsStart kind entries) {f : Field} (hf : f ∈ kind.fields)
    (hlist : f.isList = false) (hid : f.name ≠ "id") (d : Datum) :
    fieldOf? (withField p.fields "id" d) f.name = some (.value (defaultOf kind f)) :=
  (fieldOf?_withField_of_ne hid _ _).trans (hp.plain f hf hlist)

/-- The fields of a new entity hold values, also after it got an id. -/
theorem Progress.IsStart.plain_withField {kind : Kind} {entries : OptionEntries} {p : Progress}
    (hp : p.IsStart kind entries) (v : Value) : ∀ f ∈ kind.fields, f.isList = false →
      ∃ w, fieldOf? (withField p.fields "id" (.value v)) f.name = some (.value w) := by
  intro f hf hlist
  by_cases hid : f.name = "id"
  · exact ⟨v, by rw [hid, fieldOf?_withField_self]⟩
  · exact ⟨_, hp.plain_withField_of_ne hf hlist hid _⟩

/-- A new entity and a copy of its options are made. -/
theorem exists_start (now : Heap) (kind : Kind) (entries : OptionEntries) :
    ∃ (b : Site) (p : Progress) (mid after : Heap), b.before = now ∧ b.kind = kind ∧
      Edits now (blank kind []) (.object b.self) mid ∧
      Edits mid (Drafting.alloc (.mapping entries)) (.object b.options) after ∧
      now.Grows mid ∧ mid.Grows after ∧ InWork b p after ∧ p.IsStart kind entries := by
  obtain ⟨fields, filled, hfields, hg, hblank⟩ := blankFields_edits kind now kind.nodup_fields
  let made := (filled.alloc (.entity kind fields)).1
  let b : Site := ⟨now, filled.size + 2, kind, filled.size, made.size⟩
  have hsize : now.size ≤ filled.size := hg.size_le
  have hmade : made.size = filled.size + 1 := Heap.size_alloc _ _
  have hcopied : (made.alloc (.mapping entries)).1.size = filled.size + 2 := by
    rw [Heap.size_alloc, hmade]
  have hself : filled.Grows made := filled.grows_alloc _
  have hcopy : made.Grows (made.alloc (.mapping entries)).1 := made.grows_alloc _
  have hown : ∀ r : Nat, now.size ≤ r → r < filled.size + 2 → b.Own r := fun r hle hlt => ⟨hle, hlt⟩
  refine ⟨b, ⟨fields, entries, fun _ => []⟩, made, (made.alloc (.mapping entries)).1, rfl, rfl,
    hfields.bind (.alloc filled _), .alloc made _, hg.trans hself, hcopy, ?_,
    ⟨rfl, rfl, hblank.plain⟩⟩
  refine ⟨hg.trans (hself.trans hcopy), Nat.le_of_eq hcopied.symm,
    ⟨hown filled.size hsize (by omega), hcopy.get? (Heap.get?_alloc _ _)⟩,
    ⟨hown made.size (by omega) (by omega), Heap.get?_alloc _ _⟩, fun f hf hlist => ?_,
    hblank.apart⟩
  obtain ⟨l, hl, hle, hthere⟩ := hblank.list f hf hlist
  have hlt : l < filled.size := Heap.lt_size hthere
  exact ⟨l, hl, hown l hle (Nat.lt_add_right 2 hlt), hcopy.get? (hself.get? hthere)⟩

end Workspace

end LoadPlan
