import LoadPlan.Proofs.Workspace.Mirror

/-!
# Filling an entity from options that hold values

A new entity is filled from a copy of its options. If these hold values, what is put into the copy,
what is made for the parts and lists, and what is noted in the end is what a build from the values
has, too; so for a kind of entity it is enough to go through its own build (`Fills.agrees`).
-/

namespace LoadPlan.Workspace

/-- The options that are none of a kind's fields, by their keys. -/
def ignoredKeys (kind : Kind) (keys : List Value) : List Value :=
  keys.filter fun k => !kind.optionNames.any k.isText

/-! ## Options that were prepared -/

theorem ignoredKeys_cons_of_mem {kind : Kind} {key : String} (hkey : key ∈ kind.optionNames)
    (keys : List Value) : ignoredKeys kind (.text key :: keys) = ignoredKeys kind keys := by
  have hknown : kind.optionNames.any (Value.text key).isText = true :=
    List.any_eq_true.mpr ⟨key, hkey, Value.isText_self key⟩
  simp [ignoredKeys, hknown]

/-- Entries that are others only under some keys, which are keys of options of a kind. -/
structure SameBut (kind : Kind) (keys : List String) (entries after : OptionEntries) : Prop where
  entry : ∀ key ∉ keys, entryOf? after key = entryOf? entries key
  ignored : ignoredKeys kind (after.map Prod.fst) = ignoredKeys kind (entries.map Prod.fst)

namespace SameBut

variable {kind : Kind} {keys : List String} {entries after : OptionEntries}

theorem refl (kind : Kind) (entries : OptionEntries) : SameBut kind [] entries entries :=
  ⟨fun _ _ => rfl, rfl⟩

theorem withEntry (hsame : SameBut kind keys entries after) (key : String)
    (hkey : key ∈ kind.optionNames) (d : Datum) :
    SameBut kind (key :: keys) entries (withEntry after key d) where
  entry := fun other hother => by
    rw [List.mem_cons, not_or] at hother
    rw [entryOf?_withEntry_of_ne hother.1, hsame.entry other hother.2]
  ignored := by
    rw [← hsame.ignored]
    clear hsame
    induction after with
    | nil => exact ignoredKeys_cons_of_mem hkey []
    | cons e after ih =>
      unfold Workspace.withEntry at ih ⊢
      rw [put]
      split
      · rfl
      · unfold ignoredKeys at ih ⊢
        rw [List.map_cons, List.filter_cons, ih, List.map_cons, List.filter_cons]

theorem filter (hsame : SameBut kind keys entries after) (key : String)
    (hkey : key ∈ kind.optionNames) :
    SameBut kind (key :: keys) entries (after.filter fun e => !e.1.isText key) where
  entry := fun other hother => by
    rw [List.mem_cons, not_or] at hother
    rw [← hsame.entry other hother.2]
    unfold entryOf?
    rw [List.find?_filter]
    congr 2
    funext e
    by_cases he : e.1.isText other = true
    · simp [Value.isText_iff.mp he, hother.1]
    · simp [he]
  ignored := by
    rw [← hsame.ignored]
    unfold ignoredKeys
    rw [List.filter_map, List.filter_map, List.filter_filter]
    congr 1
    refine List.filter_congr fun e _ => ?_
    by_cases he : e.1.isText key = true
    · have hknown : kind.optionNames.any e.1.isText = true := List.any_eq_true.mpr ⟨key, hkey, he⟩
      simp [hknown]
    · simp [he]

theorem weaken (hsame : SameBut kind keys entries after) (key : String) :
    SameBut kind (key :: keys) entries after :=
  ⟨fun other hother => hsame.entry other (List.not_mem_of_not_mem_cons hother), hsame.ignored⟩

end SameBut

/-! ## Options that hold values -/

/-- The options in a datum hold the entries of the value that it holds. -/
theorem optionsIn_mirrors {S T : Ref → Prop} {now : Heap} {d : Datum} {v : Value} (kind : Kind)
    (hd : Holds T now d v) :
    Mirrors S now (optionsIn kind d) (Options.ofValue kind v) fun t entries o =>
      t = now ∧ Given T now entries o := by
  unfold optionsIn
  refine .step (.heap now) (.refl now) ?_
  cases hd with
  | @bare v hv =>
    cases v with
    | null => exact .pure ⟨rfl, .nil⟩
    | list => cases hv
    | mapping => cases hv
    | _ => exact .throw _
  | @list r items vs _ hr =>
    have hthere : now.object? (.object r) = some (.list items) := hr
    simp only [hthere, Heap.kindName, hr]
    exact .throw _
  | @mapping r entries vs hS hr hlength hkeys hentries =>
    have hthere : now.object? (.object r) = some (.mapping entries) := hr
    simp only [hthere]
    exact .pure ⟨rfl, List.forall₂_iff_zip.mpr ⟨hlength, fun hp => ⟨hkeys _ hp, hentries _ hp⟩⟩⟩

/-- The same options are ignored, and noted. -/
theorem noteIgnoredIn_mirrors {S : Ref → Prop} {now : Heap} {kind : Kind} {entries : OptionEntries}
    {o : Entries}
    (hkeys : ignoredKeys kind (entries.map Prod.fst) = ignoredKeys kind (o.map Prod.fst)) :
    Mirrors S now (noteIgnoredIn kind entries) (Options.noteIgnored kind o)
      fun t _ _ => t = now := by
  unfold ignoredKeys at hkeys
  unfold noteIgnoredIn Options.noteIgnored
  rw [hkeys]
  dsimp only
  split
  · exact .pure rfl
  · cases Value.sortKeys? (List.filter _ (o.map Prod.fst)) with
    | some keys => exact .note _
    | none => exact .throw _

/-! ## Parts of an entity in work -/

/-- A builder makes of options that hold a value what the value describes: it shows that through
objects at the places at which the value is held, and at new ones. -/
def Agrees {α : Type} (build : Kind → Datum → Drafting Datum) (kind : Kind)
    (ofOptions : Value → Build α) (form : α → Form) : Prop :=
  ∀ (S : Ref → Prop) (now : Heap) (d : Datum) (v : Value), (∀ r, now.size ≤ r → S r) →
    Holds S now d v →
      Mirrors (fun _ => True) now (build kind d) (ofOptions v) fun t x a => Shows S t x (form a)

/-- The places among some that are none of the build's own. -/
def Site.Outside (b : Site) (S : Ref → Prop) (r : Ref) : Prop :=
  b.Other r ∧ S r

section InWork

variable {α : Type} {b : Site} {p : Progress} {now : Heap} {S : Ref → Prop}
  {build : Kind → Datum → Drafting Datum} {child : Kind} {ofOptions : Value → Build α}
  {form : α → Form}

theorem Holds.of_keeps_other {d : Datum} {v : Value} {t : Heap} (hd : Holds (b.Outside S) now d v)
    (hk : now.Keeps b.Other t) : Holds (b.Outside S) t d v :=
  hd.of_keeps (hk.mono fun _ hr => hr.1)

theorem Shows.of_keeps_other {d : Datum} {f : Form} {t : Heap} (hd : Shows (b.Outside S) now d f)
    (hk : now.Keeps b.Other t) : Shows (b.Outside S) t d f :=
  hd.of_keeps (hk.mono fun _ hr => hr.1)

/-- What is made while an entity is in work is none of its own parts. -/
theorem InWork.outside_of_size_le (hw : InWork b p now) (hS : ∀ r, b.before.size ≤ r → S r)
    {r : Ref} (hr : now.size ≤ r) : b.Outside S r :=
  have hsize : b.size ≤ r := Nat.le_trans hw.size hr
  ⟨.of_size_le hsize, hS r (Nat.le_trans hw.before_size_le hsize)⟩

variable (hchild : Agrees build child ofOptions form) (hS : ∀ r, b.before.size ≤ r → S r)
  (hw : InWork b p now)
include hchild hS hw

/-- What is made for a part. -/
theorem Agrees.part {d : Datum} {v : Value} (hd : Holds (b.Outside S) now d v) :
    Mirrors b.Other now (build child d) (ofOptions v) fun t x a =>
      InWork b p t ∧ Shows (b.Outside S) t x (form a) := by
  have hmade := hchild _ now d v (fun _ => hw.outside_of_size_le hS) hd
  refine (hmade.imp fun t x a hg hx => ?_).mono fun _ _ => trivial
  exact ⟨hw.of_grows hg, hx⟩

/-- The option under a key is replaced by what is made of it. -/
theorem Agrees.option {key : String} {v : Value}
    (hd : Holds (b.Outside S) now ((entryOf? p.entries key).getD .null) v) :
    Mirrors b.Other now (buildOption build (.object b.options) key child) (ofOptions v)
      fun t _ a => ∃ x, InWork b (p.setEntries (withEntry p.entries key x)) t ∧
        Shows (b.Outside S) t x (form a) := by
  have hoptions : now.object? (.object b.options) = some (.mapping p.entries) := hw.options.2
  unfold buildOption
  refine .step (.heap now) (.refl now)
    (.step (.lift now (Heap.optionAt_mapping hoptions key)) (.refl now) ?_)
  refine (hchild.part hS hw hd).andThen fun t x a ⟨hw', hx⟩ => ?_
  obtain ⟨after, hedit, hk, hw''⟩ := hw'.putEntry key x
  exact ⟨(), after, hedit, hk, x, hw'', hx.of_keeps_other hk⟩

/-- An entity is made for each item, in order, and added to a list. -/
theorem Agrees.appendAll {f : Field} (hf : f ∈ b.kind.fields) (hlist : f.isList = true)
    {items : List Datum} {vs : List Value}
    (hitems : List.Forall₂ (Holds (b.Outside S) now) items vs) :
    Mirrors b.Other now
      (items.forM (Drafting.appendBuilt build (Heap.part p.fields f.name) child))
      (vs.mapM ofOptions) fun t _ as => ∃ made, InWork b (p.add f.name made) t ∧
        List.Forall₂ (Shows (b.Outside S) t) made (as.map form) := by
  induction items generalizing p now vs with
  | nil =>
    cases hitems
    exact .pure ⟨[], (p.add_nil f.name).symm ▸ hw, .nil⟩
  | cons d items ih =>
    obtain ⟨v, vs, hd, hrest, rfl⟩ := List.forall₂_cons_left_iff.mp hitems
    rw [List.mapM_cons]
    refine Mirrors.bind (P := fun t _ a => ∃ x, InWork b (p.add f.name [x]) t ∧
      Shows (b.Outside S) t x (form a)) ?_ fun t _ a hk ⟨x, hw', hx⟩ => ?_
    · unfold Drafting.appendBuilt
      refine .step (.heap now) (.refl now) ?_
      simp only [hw.isList_part hf hlist, Bool.not_true, Bool.false_eq_true, if_false]
      refine (hchild.part hS hw hd).andThen fun t x a ⟨hw', hx⟩ => ?_
      obtain ⟨after, hedit, hk, hw''⟩ := hw'.append hf hlist x
      exact ⟨(), after, hedit, hk, x, hw'', hx.of_keeps_other hk⟩
    · refine (ih hw' (hrest.imp fun _ _ hd => hd.of_keeps_other hk)).map
        fun t' _ as hk' ⟨made, hw'', hmade⟩ => ⟨x :: made, ?_, ?_⟩
      · rw [p.add_add] at hw''
        exact hw''
      · exact .cons (hx.of_keeps_other hk') hmade

/-- The list of a field gets what is made of the option for it, if there is one. -/
theorem Agrees.addToList {f : Field} (hf : f ∈ b.kind.fields)
    (hcontent : f.content = .entities child) {key : String} {v : Value}
    (hoption : optionOf? p.entries f = none ∧ v = .null ∨
      ∃ d, optionOf? p.entries f = some (key, d) ∧ Holds (b.Outside S) now d v) :
    Mirrors b.Other now (Drafting.addToList build (.object b.self) (.object b.options) f)
      (Options.entities ofOptions b.kind key v) fun t _ as => ∃ made,
        InWork b (p.add f.name made) t ∧
          List.Forall₂ (Shows (b.Outside S) t) made (as.map form) := by
  have hoptions : now.object? (.object b.options) = some (.mapping p.entries) := hw.options.2
  have hlist : f.isList = true := Field.isList_of_entities hcontent
  unfold Drafting.addToList
  rw [hcontent]
  refine .step (hw.entity _) (.refl now) (.step (.heap now) (.refl now) ?_)
  have hempty : Mirrors b.Other now
      (([] : List Datum).forM (Drafting.appendBuilt build (Heap.part p.fields f.name) child))
      (Pure.pure []) fun t _ (as : List α) => ∃ made, InWork b (p.add f.name made) t ∧
        List.Forall₂ (Shows (b.Outside S) t) made (as.map form) :=
    .pure ⟨[], (p.add_nil f.name).symm ▸ hw, .nil⟩
  obtain ⟨hnone, rfl⟩ | ⟨d, hsome, hd⟩ := hoption
  · exact .step (.lift now (Heap.listGiven_of_none hoptions hnone b.kind)) (.refl now) hempty
  · rw [Heap.listGiven_of_some hoptions hsome b.kind, hd.isNull_eq, hd.kindName_eq]
    cases hd with
    | @bare v hv =>
      cases v with
      | null => exact .step (.lift now rfl) (.refl now) hempty
      | list => cases hv
      | mapping => cases hv
      | _ => exact .throw _
    | @list r items vs hT hr hlength hitems =>
      have hthere : now.object? (.object r) = some (.list items) := hr
      simp only [hthere]
      refine .step (.lift now rfl) (.refl now) (hchild.appendAll hS hw hf hlist ?_)
      exact List.forall₂_iff_zip.mpr ⟨hlength, fun hp => hitems _ hp⟩
    | @mapping r entries vs hT hr =>
      have hthere : now.object? (.object r) = some (.mapping entries) := hr
      simp only [hthere]
      exact .throw _

end InWork

/-! ## Filling an entity -/

/-- Only the lists of entities are filled. -/
theorem forM_addToList (build : Kind → Datum → Drafting Datum) (d options : Datum)
    (fs : List Field) : fs.forM (Drafting.addToList build d options) =
      (fs.filter Field.holdsEntities).forM (Drafting.addToList build d options) := by
  have hcons : ∀ f (fs : List Field), (f :: fs).forM (Drafting.addToList build d options) =
      Drafting.addToList build d options f >>= fun _ =>
        fs.forM (Drafting.addToList build d options) := fun _ _ => rfl
  induction fs with
  | nil => rfl
  | cons f fs ih =>
    rw [List.filter_cons]
    cases hcontent : f.content with
    | entities child =>
      have hholds : f.holdsEntities = true := by simp [Field.holdsEntities, hcontent]
      rw [if_pos hholds, hcons, hcons, ih]
    | _ =>
      have hnone : f.holdsEntities = false := by simp [Field.holdsEntities, hcontent]
      have hadd : Drafting.addToList build d options f = Pure.pure () := by
        simp [Drafting.addToList, hcontent]
      rw [hnone, if_neg Bool.false_ne_true, hcons, hadd, pure_bind, ih]

section InWork

variable {α : Type} {b : Site} {p : Progress} {now : Heap} {S : Ref → Prop} {kind : Kind}
  {keys : List String} {entries : OptionEntries} {o : Entries}

theorem InWork.optionsIn (hw : InWork b p now) (kind : Kind) :
    Edits now (optionsIn kind (.object b.options)) p.entries now := by
  have hoptions : now.object? (.object b.options) = some (.mapping p.entries) := hw.options.2
  unfold Workspace.optionsIn
  refine (Edits.heap now).bind ?_
  simp only [hoptions]
  exact .pure now _

/-- The lists are filled, those of entities one after another. -/
theorem InWork.addAll {β : Type} (hw : InWork b p now) {build : Kind → Datum → Drafting Datum}
    {fs : List Field} (hfs : b.kind.fields.filter Field.holdsEntities = fs)
    {rest : Unit → Drafting α} {y : Build β} {R : Heap → α → β → Prop}
    (h : Mirrors b.Other now (fs.foldr (fun f rest => do
      Drafting.addToList build (.object b.self) (.object b.options) f
      rest) (rest ())) y R) :
    Mirrors b.Other now
      (Drafting.addAll build (.object b.self) (.object b.options) >>= rest) y R := by
  have hforM : ∀ fs : List Field,
      fs.forM (Drafting.addToList build (.object b.self) (.object b.options)) >>= rest =
        fs.foldr (fun f rest => do
          Drafting.addToList build (.object b.self) (.object b.options) f
          rest) (rest ()) := by
    intro fs
    induction fs with
    | nil => exact pure_bind ..
    | cons f fs ih =>
      rw [List.foldr_cons, ← ih]
      exact bind_assoc ..
  unfold Drafting.addAll
  rw [bind_assoc]
  refine .step (hw.entity _) (.refl now) ?_
  rw [← hfs, ← hforM, ← forM_addToList] at h
  exact h

/-- What was given from the start is given as long as the entity is in work. -/
theorem InWork.given (hw : InWork b p now) (hgiven : Given (b.Outside S) b.before entries o)
    (key : String) :
    Option.Rel (Holds (b.Outside S) now) (entryOf? entries key) (o.find? key) :=
  Given.find? (hgiven.imp fun _ _ hr hget => ⟨hr, hw.grows.get? hget⟩) key

/-- New options for one entity with all defaults hold a list with an empty mapping. -/
theorem InWork.oneDefault (hw : InWork b p now) (hS : ∀ r, b.before.size ≤ r → S r) :
    ∃ x after, Edits now oneDefault x after ∧ now.Grows after ∧
      Holds (b.Outside S) after x (.list [.mapping []]) := by
  obtain ⟨l, q, after, hedit, hg, hl, hq, hlist, hmapping⟩ := oneDefault_edits now
  have hnew : ∀ r, now.size ≤ r → b.Outside S r := fun _ => hw.outside_of_size_le hS
  refine ⟨_, after, hedit, hg, .list (hnew l hl) hlist rfl ?_⟩
  simpa using Holds.mapping (hnew q hq) hmapping rfl nofun nofun

/-- What is under a key in the end, if a default is put there. -/
theorem InWork.putDefault_holds (hw : InWork b p now) (hsame : SameBut kind keys entries p.entries)
    (key : String) (hkey : key ∈ kind.optionNames) {v : Option Value} {w : Value}
    (hv : Option.Rel (Holds (b.Outside S) now) (entryOf? p.entries key) v)
    {default : Drafting Datum} {x : Datum} {mid : Heap} (hx : Edits now default x mid)
    (hg : now.Grows mid) (hxw : Holds (b.Outside S) mid x w) :
    ∃ options after, Edits now (Workspace.putDefault (.object b.options) key default) () after ∧
      now.Keeps b.Other after ∧ InWork b (p.setEntries options) after ∧
      SameBut kind (key :: keys) entries options ∧ ∃ d, entryOf? options key = some d ∧
        Holds (b.Outside S) after d ((v.getD .null).orElse w) := by
  obtain ⟨after, hedit, hk, hafter⟩ := hw.putDefault key hx hg
  rw [(Holds.getD hv).isTruthy_eq] at hafter
  unfold Value.orElse
  split at hafter
  · rename_i htruthy
    rw [if_pos htruthy]
    refine ⟨p.entries, after, hedit, hk, hafter, hsame.weaken key, ?_⟩
    cases hentry : entryOf? p.entries key with
    | none =>
      rw [hentry] at hv
      cases hv
      cases htruthy
    | some d =>
      rw [hentry] at hv
      cases hv with
      | some hd => exact ⟨d, rfl, hd.of_keeps_other hk⟩
  · rename_i htruthy
    obtain ⟨hk', hw'⟩ := hafter
    rw [if_neg htruthy]
    exact ⟨_, after, hedit, hk, hw', hsame.withEntry key hkey x, x, entryOf?_withEntry_self ..,
      hxw.of_keeps_other hk'⟩

/-- What is under a key that was not prepared. -/
theorem SameBut.holds {options : OptionEntries} (hsame : SameBut kind keys entries options)
    (hw : InWork b p now) (hgiven : Given (b.Outside S) b.before entries o) {key : String}
    (hkey : key ∉ keys) :
    Holds (b.Outside S) now ((entryOf? options key).getD .null) (o.get key) := by
  rw [hsame.entry key hkey]
  exact Holds.getD (hw.given hgiven key)

/-- The option for a list, from what is under its name. -/
theorem option_of_entry {h : Heap} {T : Ref → Prop} {options : OptionEntries} {f : Field}
    {v : Value} (hfurther : f.furtherName? = none)
    (hd : Holds T h ((entryOf? options f.name).getD .null) v) :
    optionOf? options f = none ∧ v = .null ∨
      ∃ d, optionOf? options f = some (f.name, d) ∧ Holds T h d v := by
  rw [optionOf?_of_none hfurther]
  cases hentry : entryOf? options f.name with
  | none =>
    rw [hentry] at hd
    exact .inl ⟨rfl, Holds.unique hd (.bare rfl)⟩
  | some d =>
    rw [hentry] at hd
    exact .inr ⟨d, rfl, hd⟩

theorem Holds.of_outside {d : Datum} {v : Value} (hd : Holds (b.Outside S) now d v) :
    Holds S now d v :=
  hd.imp fun _ _ hr hget => ⟨hr.2, hget⟩

theorem Shows.of_outside {d : Datum} {form : Form} (hd : Shows (b.Outside S) now d form) :
    Shows S now d form :=
  hd.imp fun _ _ hr hget => ⟨hr.2, hget⟩

/-- A field after the fields were set from options that have what shows a part under its name. -/
theorem Shows.settled {options : OptionEntries} {fields : List (String × Datum)} (name : String)
    {content : Content} (hf : kind.field? name = some ⟨name, content, none⟩)
    (hlist : Field.isList ⟨name, content, none⟩ = false) {d : Datum}
    (hentry : entryOf? options name = some d) {form : Form} (hd : Shows (b.Outside S) now d form) :
    ∃ x, fieldOf? (kind.fields.foldl (settle options) fields) name = some x ∧
      Shows S now x form := by
  refine ⟨d, ?_, hd.of_outside⟩
  have hsettled := fieldOf?_foldl_settle kind.nodup_fields options fields _
    (List.mem_of_find?_eq_some hf)
  rw [hlist, optionOf?_of_none rfl, hentry] at hsettled
  exact hsettled

/-- The option of a field that has a further name. -/
theorem option_of_further {h : Heap} {T : Ref → Prop} {E : OptionEntries} {f : Field}
    {further : String} (hfurther : f.furtherName? = some further)
    (hname : Option.Rel (Holds T h) (entryOf? E f.name) (o.find? f.name))
    (hrel : Option.Rel (Holds T h) (entryOf? E further) (o.find? further)) :
    Option.Rel (fun e g => e.1 = g.1 ∧ Holds T h e.2 g.2) (optionOf? E f)
      (Options.find? o f.name further) := by
  unfold optionOf? Options.find?
  rw [hfurther]
  generalize entryOf? E f.name = d at hname ⊢
  generalize o.find? f.name = v at hname ⊢
  cases hname with
  | some hd => exact .some ⟨rfl, hd⟩
  | none =>
    dsimp only
    generalize entryOf? E further = d at hrel ⊢
    generalize o.find? further = v at hrel ⊢
    cases hrel with
    | none => exact .none
    | some hd => exact .some ⟨rfl, hd⟩

/-- A field that holds a value, after the fields were set from options. -/
theorem settled_of_option {options : OptionEntries} {fields : List (String × Datum)} {f : Field}
    (hf : f ∈ kind.fields) (hlist : f.isList = false) {v : Option Value}
    (hoption : Option.Rel (Holds S now) ((optionOf? options f).map (·.2)) v) {w : Value}
    (hw : w.isBare = true) (hdefault : fieldOf? fields f.name = some (.value w)) :
    ∃ x, fieldOf? (kind.fields.foldl (settle options) fields) f.name = some x ∧
      Shows S now x (.value (v.getD w)) := by
  rw [fieldOf?_foldl_settle kind.nodup_fields _ _ f hf, hlist, hdefault]
  generalize (optionOf? options f).map (·.2) = d at hoption
  cases hoption with
  | none => exact ⟨_, rfl, .value (.bare hw)⟩
  | some hd => exact ⟨_, rfl, .value hd⟩

/-- A field without a further name that was not prepared. -/
theorem Given.settled (hgiven : ∀ key, Option.Rel (Holds (b.Outside S) now) (entryOf? entries key)
      (o.find? key)) {options : OptionEntries} (hsame : SameBut kind keys entries options)
    {fields : List (String × Datum)} (name : String)
    (hf : kind.field? name = some ⟨name, .scalar, none⟩) (hkey : name ∉ keys) {w : Value}
    (hw : w.isBare = true) (hdefault : fieldOf? fields name = some (.value w)) :
    ∃ x, fieldOf? (kind.fields.foldl (settle options) fields) name = some x ∧
      Shows S now x (.value ((o.find? name).getD w)) := by
  refine settled_of_option (List.mem_of_find?_eq_some hf) rfl ?_ hw hdefault
  rw [optionOf?_of_none rfl, hsame.entry name hkey, Option.map_map]
  have hrel := hgiven name
  generalize entryOf? entries name = d at hrel ⊢
  generalize o.find? name = v at hrel ⊢
  cases hrel with
  | none => exact .none
  | some hd => exact .some hd.of_outside

/-- The list of a field. -/
theorem InWork.shows_list (hw : InWork b p now) (hS : ∀ r, b.before.size ≤ r → S r) {f : Field}
    (hf : f ∈ b.kind.fields) (hlist : f.isList = true) {forms : List Form}
    (hitems : List.Forall₂ (Shows (b.Outside S) now) (p.items f.name) forms) :
    ∃ x, fieldOf? p.fields f.name = some x ∧ Shows S now x (.list forms) := by
  obtain ⟨l, hl, hown, hthere⟩ := hw.list f hf hlist
  refine ⟨.object l, hl, .of_forall₂ (hS l hown.1) hthere (hitems.imp fun _ _ hx => ?_)⟩
  exact hx.of_outside

/-- In the end the ignored options are noted, and the entity shows its parts. -/
theorem InWork.finish (hw : InWork b p now) (hS : ∀ r, b.before.size ≤ r → S r)
    (hkeys : ignoredKeys b.kind (p.entries.map Prod.fst) = ignoredKeys b.kind (o.map Prod.fst))
    {form : α → Form} {a : α} {parts : List (String × Form)}
    (hform : form a = .entity b.kind parts)
    (hparts : ∀ part ∈ parts, ∃ x, fieldOf? p.fields part.1 = some x ∧ Shows S now x part.2) :
    Mirrors b.Other now
      (Workspace.optionsIn b.kind (.object b.options) >>= noteIgnoredIn b.kind)
      (Options.noteIgnored b.kind o >>= fun _ => Pure.pure a)
      fun t _ a => Shows S t (.object b.self) (form a) := by
  refine .step (hw.optionsIn b.kind) (.refl now) ((noteIgnoredIn_mirrors hkeys).map ?_)
  rintro _ _ _ - rfl
  rw [hform]
  refine .entity (hS _ hw.self.1.1) hw.self.2 (fun part hpart => ?_) fun part hpart => ?_
  · obtain ⟨x, hx, -⟩ := hparts part hpart
    rw [hx]
    rfl
  · obtain ⟨x, hx, hshows⟩ := hparts part hpart
    rw [Heap.part, hx]
    exact hshows

end InWork

/-- Filling a new entity of a kind from the copy of options that hold entries does what the rest of
a build from these entries does. -/
def Fills {α : Type} (build : Kind → Datum → Drafting Datum) (kind : Kind)
    (rest : Entries → Build α) (form : α → Form) : Prop :=
  ∀ (b : Site) (p : Progress) (now : Heap) (S : Ref → Prop) (entries : OptionEntries) (o : Entries),
    b.kind = kind → InWork b p now → p.IsStart kind entries → (∀ r, b.before.size ≤ r → S r) →
    Given (b.Outside S) b.before entries o →
      Mirrors b.Other now (fill build kind (.object b.self) (.object b.options)) (rest o)
        fun t _ a => Shows S t (.object b.self) (form a)

/-- Options that hold a value are no entity, so a new one is made and filled. -/
theorem Fills.agrees {α : Type} {depth : Nat} {kind : Kind} {rest : Entries → Build α}
    {form : α → Form} (hfill : Fills (draftTo depth) kind rest form) :
    Agrees (draftTo (depth + 1)) kind (fun v => Options.ofValue kind v >>= rest) form := by
  intro S now d v hS hd
  have hnew : Mirrors (fun _ => True) now (draftNew (draftTo depth) kind d)
      (Options.ofValue kind v >>= rest) fun t x a => Shows S t x (form a) := by
    refine .of_lt_size ((optionsIn_mirrors kind hd).bind fun t entries o _ ⟨ht, hgiven⟩ => ?_)
    subst ht
    obtain ⟨b, p, mid, after, rfl, hkind, hself, hcopy, hg, hg', hw, hp⟩ :=
      exists_start t kind entries
    refine .step hself hg.keeps (.step hcopy hg'.keeps
      (.mono (S := b.Other) ?_ fun _ => Site.Other.of_lt_size))
    have hother : Given (b.Outside S) b.before entries o :=
      hgiven.imp fun r obj hr hget => ⟨⟨.of_lt_size (Heap.lt_size hget), hr⟩, hget⟩
    refine (hfill b p after S entries o hkind hw hp hS hother).andThen fun t _ a hshows => ?_
    exact ⟨_, t, .pure t _, .refl t, hshows⟩
  refine .step (.heap now) (.refl now) ?_
  rw [hd.entity?_eq_none kind]
  exact hnew

end LoadPlan.Workspace
