import LoadPlan.Proofs.Workspace.Progress

/-!
# A build changes nothing that is there

Options can hold entities, lists and mappings that are parts of other entities as well. A build
writes to the entity that it makes, to its lists and to its copy of the options, and to nothing
else; so it leaves all objects that were there as they are, and an entity that is passed where one
of its kind is expected becomes a part of the new entity itself (`build_keeps`).
-/

namespace LoadPlan.Workspace

open Session (At Leads)

/-! ## What is passed to a build -/

/-- An entity that options of a kind pass where one of its kind is expected, and the path on which
it is expected. -/
inductive Passes (h : Heap) : Kind → Datum → List PathStep → Datum → Prop
  /-- The options are an entity of the kind themselves. -/
  | here {kind : Kind} {d : Datum} (hd : (h.entity? kind d).isSome) : Passes h kind d [] d
  /-- A mapping has options for an entity in a field. -/
  | part {kind child : Kind} {d option x : Datum} {entries : OptionEntries} {f : Field}
      {path : List PathStep} (hd : h.object? d = some (.mapping entries)) (hf : f ∈ kind.fields)
      (hcontent : f.content = .entity child) (hoption : entryOf? entries f.name = some option)
      (hx : Passes h child option path x) : Passes h kind d (.field f.name :: path) x
  /-- A mapping has a list with options for the entities in a field. -/
  | item {kind child : Kind} {d list option x : Datum} {entries : OptionEntries} {f : Field}
      {key : String} {items : List Datum} {i : Nat} {path : List PathStep}
      (hd : h.object? d = some (.mapping entries)) (hf : f ∈ kind.fields)
      (hcontent : f.content = .entities child) (hlist : optionOf? entries f = some (key, list))
      (hitems : h.object? list = some (.list items)) (hoption : items[i]? = some option)
      (hx : Passes h child option path x) :
      Passes h kind d (.field f.name :: .index i :: path) x

variable {h h' : Heap} {kind : Kind} {d : Datum}

/-- What is passed is an entity. -/
theorem Passes.exists_entity {path : List PathStep} {x : Datum} (hx : Passes h kind d path x) :
    ∃ k fields, h.object? x = some (.entity k fields) := by
  induction hx with
  | here hd => exact ⟨_, Heap.isSome_entity? hd⟩
  | part _ _ _ _ _ ih => exact ih
  | item _ _ _ _ _ _ _ ih => exact ih

/-- What is passed in a heap is passed in one that has grown from it. -/
theorem Passes.of_grows {path : List PathStep} {x : Datum} (hx : Passes h kind d path x)
    (hg : h.Grows h') : Passes h' kind d path x := by
  induction hx with
  | here hd =>
    obtain ⟨fields, hfields⟩ := Heap.isSome_entity? hd
    have hthere := Heap.entity?_eq_some.mpr (hg.object? hfields)
    exact .here (Option.isSome_iff_exists.mpr ⟨fields, hthere⟩)
  | part hd hf hcontent hoption _ ih => exact .part (hg.object? hd) hf hcontent hoption ih
  | item hd hf hcontent hlist hitems hoption _ ih =>
    exact .item (hg.object? hd) hf hcontent hlist (hg.object? hitems) hoption ih

/-- What a build has made of options in a heap: they are taken as they are if they are an entity of
the kind, and else a new entity stands for them; what they pass is at its place in that, behind new
objects only. -/
structure Stands (h : Heap) (kind : Kind) (d : Datum) (h' : Heap) (x : Datum) : Prop where
  same : (h.entity? kind d).isSome → x = d
  new : h.entity? kind d = none → h.object? x = none
  entity : ∃ fields, h'.object? x = some (.entity kind fields)
  passed : ∀ path y, Passes h kind d path y → Leads (h.size ≤ ·) h' x path y

/-- An entity of the kind stands for itself. -/
theorem Stands.of_entity (hd : (h.entity? kind d).isSome) : Stands h kind d h d := by
  obtain ⟨fields, hfields⟩ := Heap.isSome_entity? hd
  refine ⟨fun _ => rfl, fun hnone => ?_, ⟨fields, hfields⟩, fun path y hy => ?_⟩
  · rw [hnone] at hd
    cases hd
  · cases hy with
    | here => exact .here d
    | part hmapping => rw [hfields] at hmapping; cases hmapping
    | item hmapping => rw [hfields] at hmapping; cases hmapping

/-- A builder that makes of options what stands for them, and changes no object. -/
def Builds (build : Kind → Datum → Drafting Datum) : Prop :=
  ∀ kind d now, Drafts (fun _ => True) now (build kind d) (Stands now kind d)

/-! ## Parts of an entity in work -/

/-- What an option for a part passes is at its place in what was made of it, behind objects that are
none of the build's own. -/
def PassedOn (b : Site) (child : Kind) (option : Datum) (now : Heap) (x : Datum) : Prop :=
  ∀ path y, Passes b.before child option path y → Leads (b.size ≤ ·) now x path y

section InWork

variable {b : Site} {p : Progress} {now : Heap} {build : Kind → Datum → Drafting Datum}

theorem PassedOn.of_keeps {child : Kind} {option x : Datum} {after : Heap}
    (hx : PassedOn b child option now x) (hk : now.Keeps b.Other after) :
    PassedOn b child option after x :=
  fun path y hy => (hx path y hy).of_keeps (hk.mono fun _ => .of_size_le)

/-- A step with a known effect on what is in work comes first. -/
theorem Drafts.advance {α β : Type} {x : Drafting α} {f : α → Drafting β} {R : Heap → β → Prop}
    {a : α} {q : Progress} (hx : Advances b now x a q)
    (hf : ∀ t, now.Keeps b.Other t → InWork b q t → Drafts b.Other t (f a) R) :
    Drafts b.Other now (x >>= f) R := by
  obtain ⟨after, hedit, hk, hw⟩ := hx
  exact .step hedit hk (hf after hk hw)

/-- A step with a known effect on what is in work. -/
theorem Drafts.of_advances {α : Type} {x : Drafting α} {a : α} {q : Progress}
    (hx : Advances b now x a q) : Drafts b.Other now x fun t _ => InWork b q t := by
  obtain ⟨after, hedit, hk, hw⟩ := hx
  refine EachRun.imp hedit ?_
  rintro s result t hrun hs
  obtain ⟨-, rfl⟩ := hrun hs
  exact ⟨hk, fun _ _ => hw⟩

variable (hbuild : Builds build) (hw : InWork b p now)
include hbuild hw

theorem Builds.part (child : Kind) (option : Datum) :
    Drafts b.Other now (build child option) fun t x =>
      InWork b p t ∧ PassedOn b child option t x := by
  refine ((hbuild child option now).imp fun t x hg hx => ?_).mono fun _ _ => trivial
  refine ⟨hw.of_grows hg, fun path y hy => ?_⟩
  exact (hx.passed path y (hy.of_grows hw.grows)).mono fun _ => Nat.le_trans hw.size

/-- The option under a key is replaced by the entity that is built from it. -/
theorem Builds.option (key : String) (child : Kind) :
    Drafts b.Other now (buildOption build (.object b.options) key child) fun t _ =>
      ∃ x, InWork b (p.setEntries (withEntry p.entries key x)) t ∧
        PassedOn b child ((entryOf? p.entries key).getD .null) t x := by
  have hoptions : now.object? (.object b.options) = some (.mapping p.entries) := hw.options.2
  unfold buildOption
  refine .step (.heap now) (.refl now)
    (.step (.lift now (Heap.optionAt_mapping hoptions key)) (.refl now) ?_)
  refine (hbuild.part hw child _).bind fun t x _ ⟨hw', hx⟩ => ?_
  refine (Drafts.of_advances (hw'.putEntry key x)).imp fun t' _ hk hw'' => ?_
  exact ⟨x, hw'', hx.of_keeps hk⟩

end InWork

/-! ## Preparing the options -/

/-- What is in the options when they are prepared: what was made for the entities among them, and
the lists that were given. -/
structure Prepared (b : Site) (entries : OptionEntries) (p : Progress) (now : Heap) : Prop where
  items : p.items = fun _ => []
  plain : ∀ f ∈ b.kind.fields, f.isList = false → ∃ v, fieldOf? p.fields f.name = some (.value v)
  part : ∀ f ∈ b.kind.fields, ∀ child, f.content = .entity child → ∃ key x,
    optionOf? p.entries f = some (key, x) ∧
      PassedOn b child ((entryOf? entries f.name).getD .null) now x
  list : ∀ f ∈ b.kind.fields, ∀ child, f.content = .entities child → ∀ key list items,
    optionOf? entries f = some (key, list) → b.before.object? list = some (.list items) →
    items ≠ [] → ∃ key', optionOf? p.entries f = some (key', list)

section Prepare

variable {b : Site} {p : Progress} {now : Heap} {build : Kind → Datum → Drafting Datum}
  {entries : OptionEntries}

/-- An id is drawn for the entity. -/
theorem number_drafts (hw : InWork b p now)
    (hid : ∀ f ∈ b.kind.fields, f.isList = true → f.name ≠ "id") :
    Drafts b.Other now (number (.object b.self)) fun t _ =>
      ∃ id, InWork b (p.setFields (withField p.fields "id" (.value (.int id)))) t := by
  unfold number
  refine .drawId fun id => ?_
  exact (Drafts.of_advances (hw.assign hid _)).imp fun t _ _ hw' => ⟨id, hw'⟩

/-- A list that is there counts as given if it is not empty. -/
theorem InWork.isTruthy_of_list (hw : InWork b p now) {list : Datum} {items : List Datum}
    (hlist : b.before.object? list = some (.list items)) (hne : items ≠ []) :
    now.isTruthy list = true := by
  have hthere := hw.grows.object? hlist
  cases list with
  | value v => cases hthere
  | object r =>
    have hget : now.get? r = some (.list items) := hthere
    simpa [Heap.isTruthy, hget] using hne

/-- A default is put under a key only if what is there does not count as given. -/
theorem putDefault_drafts (hw : InWork b p now) (key : String) {default : Drafting Datum}
    {x : Datum} {mid : Heap} (hx : Edits now default x mid) (hg : now.Grows mid) :
    Drafts b.Other now (putDefault (.object b.options) key default) fun t _ =>
      ∃ options, InWork b (p.setEntries options) t ∧ (options = p.entries ∨
        now.isTruthy ((entryOf? p.entries key).getD .null) = false ∧
          options = withEntry p.entries key x) := by
  obtain ⟨after, hedit, hk, hafter⟩ := hw.putDefault key hx hg
  refine EachRun.imp hedit ?_
  rintro s result t hrun hs
  obtain ⟨-, rfl⟩ := hrun hs
  refine ⟨hk, fun _ _ => ?_⟩
  split at hafter
  · exact ⟨p.entries, hafter, .inl rfl⟩
  · rename_i hmissing
    exact ⟨_, hafter.2, .inr ⟨Bool.eq_false_iff.mpr hmissing, rfl⟩⟩

/-- Options stay what they are if nothing is prepared. -/
theorem Prepared.of_start (hp : p.IsStart b.kind entries)
    (hnone : ∀ f ∈ b.kind.fields, ∀ child, f.content ≠ .entity child) :
    Prepared b entries p now where
  items := hp.items
  plain := fun f hf hlist => ⟨_, hp.plain f hf hlist⟩
  part := fun f hf child hcontent => absurd hcontent (hnone f hf child)
  list := fun f hf child hcontent key list items hoption _ _ => by
    rw [hp.entries]
    exact ⟨key, hoption⟩

section Kinds

variable (hw : InWork b p now) (hp : p.IsStart b.kind entries)
include hw hp

theorem prepare_assertions (hbuild : Builds build) (hkind : b.kind = .assertions) :
    Drafts b.Other now (prepare build .assertions (.object b.self) (.object b.options)) fun t _ =>
      ∃ q, InWork b q t ∧ Prepared b entries q t := by
  have hlists : ∀ f ∈ Kind.fields .assertions, f.isList = true →
      f.name ≠ "duration" ∧ f.furtherName? ≠ some "duration" := by decide
  refine (hbuild.option hw "duration" .responseTime).imp fun t _ _ ⟨x, hw', hx⟩ => ⟨_, hw', ?_⟩
  rw [hp.entries] at hx
  refine ⟨hp.items, fun f hf hlist => ⟨_, hp.plain f hf hlist⟩, fun f hf child hcontent => ?_,
    fun f hf child hcontent key list items hoption _ _ => ⟨key, ?_⟩⟩
  · simp only [hkind, Kind.fields, List.mem_cons, List.not_mem_nil, or_false] at hf
    rcases hf with rfl | rfl | rfl
    · cases hcontent
    · cases hcontent
    · cases hcontent
      exact ⟨"duration", x, optionOf?_withEntry_self rfl _ x, hx⟩
  · obtain ⟨hname, hfurther⟩ := hlists f (hkind ▸ hf) (Field.isList_of_entities hcontent)
    rw [Progress.entries_setEntries, optionOf?_withEntry_of_ne hname hfurther, hp.entries]
    exact hoption

theorem prepare_request (hbuild : Builds build) (hkind : b.kind = .request) :
    Drafts b.Other now (prepare build .request (.object b.self) (.object b.options)) fun t _ =>
      ∃ q, InWork b q t ∧ Prepared b entries q t := by
  have hid : ∀ f ∈ Kind.fields .request, f.isList = true → f.name ≠ "id" := by decide
  have hlists : ∀ f ∈ Kind.fields .request, f.isList = true →
      ∀ key ∈ ["method", "body", "assertions"], f.name ≠ key ∧ f.furtherName? ≠ some key := by
    decide
  refine (number_drafts hw (hkind ▸ hid)).bind fun t₁ _ _ ⟨id, hw₁⟩ => ?_
  have hget := Edits.pure t₁ (Datum.value (.text "GET"))
  have hput := putDefault_drafts hw₁ "method" hget (.refl t₁)
  refine hput.bind fun t₂ _ _ ⟨options, hw₂, hoptions⟩ => ?_
  simp only [Progress.entries_setFields] at hoptions
  refine (hbuild.option hw₂ "body" .body).bind fun t₃ _ _ ⟨x, hw₃, hx⟩ => ?_
  simp only [Progress.entries_setEntries, Progress.setEntries_setEntries] at hw₃ hx
  refine (hbuild.option hw₃ "assertions" .assertions).imp fun t₄ _ hk ⟨y, hw₄, hy⟩ => ⟨_, hw₄, ?_⟩
  simp only [Progress.entries_setEntries] at hy
  -- only the method can have been put there in between
  have hsame : ∀ key, key ≠ "method" → entryOf? options key = entryOf? entries key := by
    intro key hkey
    rw [← hp.entries]
    obtain rfl | ⟨-, rfl⟩ := hoptions
    · rfl
    · exact entryOf?_withEntry_of_ne hkey _ _
  have hsame' : ∀ f : Field, f.name ≠ "method" → f.furtherName? ≠ some "method" →
      optionOf? options f = optionOf? entries f := by
    intro f hname hfurther
    rw [← hp.entries]
    obtain rfl | ⟨-, rfl⟩ := hoptions
    · rfl
    · exact optionOf?_withEntry_of_ne hname hfurther _ _
  refine ⟨hp.items, hp.plain_withField _, fun f hf child hcontent => ?_,
    fun f hf child hcontent key list items hoption _ _ => ⟨key, ?_⟩⟩
  · simp only [hkind, Kind.fields, List.mem_cons, List.not_mem_nil, or_false] at hf
    rcases hf with rfl | rfl | rfl | rfl | rfl | rfl | rfl | rfl | rfl <;> cases hcontent
    · refine ⟨"body", x, ?_, ?_⟩
      · rw [Progress.entries_setEntries, Progress.entries_setEntries,
          optionOf?_withEntry_of_ne (by decide) (by decide)]
        exact optionOf?_withEntry_self rfl _ x
      · rw [← hsame "body" (by decide)]
        exact hx.of_keeps hk
    · refine ⟨"assertions", y, optionOf?_withEntry_self rfl _ y, ?_⟩
      rw [entryOf?_withEntry_of_ne (by decide), hsame _ (by decide)] at hy
      exact hy
  · have hnames := hlists f (hkind ▸ hf) (Field.isList_of_entities hcontent)
    simp only [List.forall_mem_cons] at hnames
    obtain ⟨hmethod, hbody, hassertions, -⟩ := hnames
    rw [Progress.entries_setEntries, Progress.entries_setEntries,
      optionOf?_withEntry_of_ne hassertions.1 hassertions.2,
      optionOf?_withEntry_of_ne hbody.1 hbody.2, hsame' f hmethod.1 hmethod.2]
    exact hoption

theorem prepare_scenario (hkind : b.kind = .scenario) :
    Drafts b.Other now (prepare build .scenario (.object b.self) (.object b.options)) fun t _ =>
      ∃ q, InWork b q t ∧ Prepared b entries q t := by
  have hid : ∀ f ∈ Kind.fields .scenario, f.isList = true → f.name ≠ "id" := by decide
  refine (number_drafts hw (hkind ▸ hid)).bind fun t₁ _ _ ⟨id, hw₁⟩ => ?_
  obtain ⟨l, q, mid, hdefault, hg, -⟩ := oneDefault_edits t₁
  refine (putDefault_drafts hw₁ "requests" hdefault hg).imp
    fun t₂ _ hk ⟨options, hw₂, hoptions⟩ => ⟨_, hw₂, hp.items, hp.plain_withField _, ?_, ?_⟩
  · intro f hf child hcontent
    simp only [hkind, Kind.fields, List.mem_cons, List.not_mem_nil, or_false] at hf
    rcases hf with rfl | rfl | rfl | rfl | rfl | rfl <;> cases hcontent
  · intro f hf child hcontent key list items hoption hlist hne
    refine ⟨key, ?_⟩
    rw [← hp.entries] at hoption
    simp only [Progress.entries_setFields] at hoptions
    obtain rfl | ⟨hmissing, rfl⟩ := hoptions
    · exact hoption
    · simp only [hkind, Kind.fields, List.mem_cons, List.not_mem_nil, or_false] at hf
      rcases hf with rfl | rfl | rfl | rfl | rfl | rfl <;> cases hcontent
      · exact (optionOf?_withEntry_of_ne (by decide) (by decide) _ _).trans hoption
      · exact (optionOf?_withEntry_of_ne (by decide) (by decide) _ _).trans hoption
      · -- requests that are given count as given, so no default stands in for them
        rw [optionOf?_of_none rfl] at hoption
        obtain ⟨d, hd, hpair⟩ := Option.map_eq_some_iff.mp hoption
        obtain ⟨-, rfl⟩ := Prod.mk.inj hpair
        have hgiven := hw₁.isTruthy_of_list hlist hne
        dsimp only at hmissing hd
        rw [hd, Option.getD_some, hgiven] at hmissing
        cases hmissing

theorem prepare_test (hkind : b.kind = .test) :
    Drafts b.Other now (prepare build .test (.object b.self) (.object b.options)) fun t _ =>
      ∃ q, InWork b q t ∧ Prepared b entries q t := by
  have hfield : b.kind.field? "scenario_definition" =
      some ⟨"scenario_definition", .entities .scenario, some "scenarioDefinition"⟩ := hkind ▸ rfl
  have hentity : ∀ f ∈ b.kind.fields, ∀ child, f.content ≠ .entity child := by
    simp [hkind, Kind.fields]
  refine .step (hw.getOption hfield) (.refl now) (.step (.heap now) (.refl now) ?_)
  cases hgiven : now.isTruthy (((optionOf? p.entries _).map (·.2)).getD .null) with
  | true =>
    simp only [Bool.not_true, Bool.false_eq_true, if_false]
    exact .pure ⟨p, hw, .of_start hp hentity⟩
  | false =>
    simp only [Bool.not_false, if_true]
    obtain ⟨l, q, mid, hdefault, hg, -⟩ := oneDefault_edits now
    refine .step hdefault hg.keeps ?_
    refine (Drafts.of_advances ((hw.of_grows hg).putOption hfield _)).imp
      fun t _ _ hw' => ⟨_, hw', hp.items, fun f hf hlist => ⟨_, hp.plain f hf hlist⟩,
        fun f hf child hcontent => absurd hcontent (hentity f hf child), ?_⟩
    intro f hf child hcontent key list items hoption hlist hne
    simp only [hkind, Kind.fields, List.mem_cons, List.not_mem_nil, or_false] at hf
    rcases hf with rfl | rfl | rfl | rfl | rfl <;> cases hcontent
    -- scenarios that are given count as given, so no default stands in for them
    rw [hp.entries, hoption, Option.map_some, Option.getD_some, hw.isTruthy_of_list hlist hne]
      at hgiven
    cases hgiven

/-- Whatever the kind is, the options are prepared. -/
theorem prepare_drafts (hbuild : Builds build) :
    Drafts b.Other now (prepare build b.kind (.object b.self) (.object b.options)) fun t _ =>
      ∃ q, InWork b q t ∧ Prepared b entries q t := by
  cases hkind : b.kind with
  | assertions => exact prepare_assertions hw hp hbuild hkind
  | request => exact prepare_request hw hp hbuild hkind
  | scenario => exact prepare_scenario hw hp hkind
  | test => exact prepare_test hw hp hkind
  | _ => exact .pure ⟨p, hw, .of_start hp (by simp [hkind, Kind.fields])⟩

end Kinds

end Prepare

/-! ## Filling the lists -/

section Fill

variable {b : Site} {p : Progress} {now : Heap} {build : Kind → Datum → Drafting Datum}
  (hbuild : Builds build) (hw : InWork b p now) {f : Field} (hf : f ∈ b.kind.fields)
include hbuild hw hf

/-- An entity is built and added to a list. -/
theorem appendBuilt_drafts (hlist : f.isList = true) (child : Kind) (option : Datum) :
    Drafts b.Other now
      (Drafting.appendBuilt build (Heap.part p.fields f.name) child option) fun t _ =>
        ∃ x, InWork b (p.add f.name [x]) t ∧ PassedOn b child option t x := by
  unfold Drafting.appendBuilt
  refine .step (.heap now) (.refl now) ?_
  simp only [hw.isList_part hf hlist, Bool.not_true, Bool.false_eq_true, if_false]
  refine (hbuild.part hw child option).bind fun t x _ ⟨hw', hx⟩ => ?_
  refine (Drafts.of_advances (hw'.append hf hlist x)).imp fun t' _ hk hw'' => ?_
  exact ⟨x, hw'', hx.of_keeps hk⟩

/-- One entity is added for each of the options, in order. -/
theorem appendAll_drafts (hlist : f.isList = true) (child : Kind) (options : List Datum) :
    Drafts b.Other now
      (options.forM (Drafting.appendBuilt build (Heap.part p.fields f.name) child)) fun t _ =>
        ∃ made, InWork b (p.add f.name made) t ∧
          List.Forall₂ (fun option x => PassedOn b child option t x) options made := by
  induction options generalizing p now with
  | nil => exact .pure ⟨[], (p.add_nil f.name).symm ▸ hw, .nil⟩
  | cons option options ih =>
    refine (appendBuilt_drafts hbuild hw hf hlist child option).bind fun t _ _ ⟨x, hw', hx⟩ => ?_
    refine (ih hw').imp fun t' _ hk ⟨made, hw'', hmade⟩ => ⟨x :: made, ?_, ?_⟩
    · rw [p.add_add] at hw''
      exact hw''
    · exact .cons (hx.of_keeps hk) hmade

/-- The list of a field gets an entity for each of the options that were given for it. -/
theorem addToList_drafts : Drafts b.Other now
    (Drafting.addToList build (.object b.self) (.object b.options) f) fun t _ =>
      ∃ made, InWork b (p.add f.name made) t ∧ ∀ child, f.content = .entities child →
        ∀ key list items, optionOf? p.entries f = some (key, list) →
          b.before.object? list = some (.list items) →
          List.Forall₂ (fun option x => PassedOn b child option t x) items made := by
  have hoptions : now.object? (.object b.options) = some (.mapping p.entries) := hw.options.2
  unfold Drafting.addToList
  split
  · rename_i child hcontent
    refine .step (hw.entity _) (.refl now) (.step (.heap now) (.refl now) ?_)
    refine (Drafts.lift _).bind fun t options _ ⟨ht, hgiven⟩ => ?_
    subst ht
    refine (appendAll_drafts hbuild hw hf (Field.isList_of_entities hcontent) child options).imp
      fun t' _ _ ⟨made, hw', hmade⟩ => ⟨made, hw', ?_⟩
    intro child' hcontent' key list items hoption hitems
    obtain rfl := Content.entities.inj (hcontent.symm.trans hcontent')
    have hthere := hw.grows.object? hitems
    have hnull : list.isNull = false := by
      cases list with
      | value v => cases hthere
      | object r => rfl
    rw [Heap.listGiven_of_some hoptions hoption, hnull, if_neg Bool.false_ne_true, hthere] at hgiven
    obtain rfl := Except.ok.inj hgiven
    exact hmade
  · rename_i hother
    exact .pure ⟨[], (p.add_nil f.name).symm ▸ hw,
      fun child hcontent => absurd hcontent (hother child)⟩

end Fill

/-- The lists of fields are filled one after another. -/
theorem addLists_drafts {b : Site} {p : Progress} {now : Heap}
    {build : Kind → Datum → Drafting Datum} (hbuild : Builds build) (hw : InWork b p now)
    {fs : List Field} (hfs : ∀ f ∈ fs, f ∈ b.kind.fields) (hnodup : (fs.map (·.name)).Nodup) :
    Drafts b.Other now
      (fs.forM (Drafting.addToList build (.object b.self) (.object b.options))) fun t _ =>
        ∃ q, InWork b q t ∧ q.fields = p.fields ∧
          (∀ name ∉ fs.map (·.name), q.items name = p.items name) ∧
          ∀ f ∈ fs, ∀ child, f.content = .entities child → ∀ key list items,
            optionOf? p.entries f = some (key, list) →
            b.before.object? list = some (.list items) → ∃ made,
              q.items f.name = p.items f.name ++ made ∧
              List.Forall₂ (fun option x => PassedOn b child option t x) items made := by
  induction fs generalizing p now with
  | nil => exact .pure ⟨p, hw, rfl, fun _ _ => rfl, nofun⟩
  | cons f fs ih =>
    rw [List.map_cons, List.nodup_cons] at hnodup
    rw [List.forall_mem_cons] at hfs
    refine (addToList_drafts hbuild hw hfs.1).bind fun t _ _ ⟨made, hw', hmade⟩ => ?_
    refine (ih hw' hfs.2 hnodup.2).imp fun t' _ hk ⟨q, hq, hfields, hitems, hfilled⟩ =>
      ⟨q, hq, hfields, fun name hname => ?_, ?_⟩
    · rw [List.map_cons, List.mem_cons, not_or] at hname
      rw [hitems name hname.2, p.items_add_of_ne hname.1]
    · refine List.forall_mem_cons.mpr
        ⟨?_, fun g hg child hcontent key list items hoption hlist => ?_⟩
      · intro child hcontent key list items hoption hlist
        refine ⟨made, by rw [hitems _ hnodup.1, p.items_add_self], ?_⟩
        exact (hmade child hcontent key list items hoption hlist).imp fun _ _ => (·.of_keeps hk)
      · have hne : g.name ≠ f.name := fun h => hnodup.1 (List.mem_map.mpr ⟨g, hg, h⟩)
        obtain ⟨more, hmore, hall⟩ := hfilled g hg child hcontent key list items hoption hlist
        exact ⟨more, by rw [hmore, p.items_add_of_ne hne], hall⟩

/-! ## Builds -/

/-- The options are those of a mapping that is there. -/
theorem optionsIn_drafts {S : Ref → Prop} (now : Heap) (kind : Kind) (d : Datum) :
    Drafts S now (optionsIn kind d) fun t entries => t = now ∧
      ∀ entries', now.object? d = some (.mapping entries') → entries = entries' := by
  unfold optionsIn
  refine .step (.heap now) (.refl now) ?_
  split
  · exact .pure ⟨rfl, nofun⟩
  · rename_i entries _ hthere
    refine .pure ⟨rfl, fun entries' hentries => ?_⟩
    exact Object.mapping.inj (Option.some.inj (hthere.symm.trans hentries))
  · exact .throw _

theorem noteIgnoredIn_drafts {S : Ref → Prop} (now : Heap) (kind : Kind)
    (entries : OptionEntries) : Drafts S now (noteIgnoredIn kind entries) fun t _ => t = now := by
  unfold noteIgnoredIn
  dsimp only
  split
  · exact .pure rfl
  · split
    · exact .note _
    · exact .throw _

/-- What a build has made in the end stands for the options from which it has started. -/
theorem Stands.of_filled {b : Site} {p : Progress} {t : Heap} {d : Datum} {entries : OptionEntries}
    (hw : InWork b p t) (hnone : b.before.entity? b.kind d = none)
    (hentries : ∀ entries', b.before.object? d = some (.mapping entries') → entries = entries')
    (hparts : ∀ f ∈ b.kind.fields, ∀ child, f.content = .entity child →
      ∃ x, fieldOf? p.fields f.name = some x ∧
        PassedOn b child ((entryOf? entries f.name).getD .null) t x)
    (hlists : ∀ f ∈ b.kind.fields, ∀ child, f.content = .entities child → ∀ key list items,
      optionOf? entries f = some (key, list) → b.before.object? list = some (.list items) →
      items ≠ [] → List.Forall₂ (fun option x => PassedOn b child option t x) items
        (p.items f.name)) :
    Stands b.before b.kind d t (.object b.self) := by
  refine ⟨fun hsome => ?_, fun _ => Heap.get?_eq_none_iff.mpr hw.self.1.1, ⟨p.fields, hw.self.2⟩,
    fun path y hy => ?_⟩
  · rw [hnone] at hsome
    cases hsome
  · cases hy with
    | here hd =>
      rw [hnone] at hd
      cases hd
    | @part _ child _ option _ _ f path hd hf hcontent hoption hy =>
      obtain rfl := hentries _ hd
      obtain ⟨x, hx, hpassed⟩ := hparts f hf child hcontent
      rw [hoption] at hpassed
      exact .field hw.self.1.1 hw.self.2 hx
        ((hpassed path y hy).mono fun _ => Nat.le_trans hw.before_size_le)
    | @item _ child _ list option _ _ f key items i path hd hf hcontent hlist hitems hoption hy =>
      obtain rfl := hentries _ hd
      have hne : items ≠ [] := List.ne_nil_of_mem (List.mem_of_getElem? hoption)
      have hall := hlists f hf child hcontent key list items hlist hitems hne
      obtain ⟨l, hl, hown, hthere⟩ := hw.list f hf (Field.isList_of_entities hcontent)
      obtain ⟨hi, rfl⟩ := List.getElem?_eq_some_iff.mp hoption
      have hi' : i < (p.items f.name).length := hall.length_eq ▸ hi
      exact .field hw.self.1.1 hw.self.2 hl (.index hown.1 hthere (List.getElem?_eq_getElem hi')
        ((hall.get hi hi' path y hy).mono fun _ => Nat.le_trans hw.before_size_le))

/-- An entity in work stands for its options when it has been filled from them. -/
theorem fill_drafts {b : Site} {p : Progress} {now : Heap} {d : Datum} {entries : OptionEntries}
    {build : Kind → Datum → Drafting Datum} (hbuild : Builds build) (hw : InWork b p now)
    (hp : p.IsStart b.kind entries) (hnone : b.before.entity? b.kind d = none)
    (hentries : ∀ entries', b.before.object? d = some (.mapping entries') → entries = entries') :
    Drafts b.Other now (fill build b.kind (.object b.self) (.object b.options)) fun t _ =>
      Stands b.before b.kind d t (.object b.self) := by
  refine (prepare_drafts hw hp hbuild).bind fun t₁ _ _ ⟨q, hq, hprepared⟩ => ?_
  refine .advance (hq.setAll hprepared.plain) fun t₂ hk hset => ?_
  have hadd : Drafts b.Other t₂ (Drafting.addAll build (.object b.self) (.object b.options)) _ :=
    .step (hset.entity _) (.refl t₂)
      (addLists_drafts hbuild hset (fun _ hf => hf) b.kind.nodup_fields)
  refine hadd.bind fun t₃ _ hk' ⟨q', hq', hfields, _, hfilled⟩ => ?_
  refine (optionsIn_drafts t₃ b.kind _).bind fun t₄ merged _ ⟨ht₄, _⟩ => ?_
  subst ht₄
  refine (noteIgnoredIn_drafts t₄ b.kind merged).imp fun t₅ _ _ ht₅ => ?_
  subst ht₅
  refine .of_filled hq' hnone hentries ?_ ?_
  · intro f hf child hcontent
    obtain ⟨key, x, hoption, hx⟩ := hprepared.part f hf child hcontent
    refine ⟨x, ?_, hx.of_keeps (hk.trans hk')⟩
    rw [hfields, Progress.fields_setFields, fieldOf?_foldl_settle b.kind.nodup_fields _ _ f hf,
      Field.isList_of_entity hcontent, hoption]
    rfl
  · intro f hf child hcontent key list items hoption hlist hne
    obtain ⟨key', hoption'⟩ := hprepared.list f hf child hcontent key list items hoption hlist hne
    obtain ⟨made, hmade, hall⟩ := hfilled f hf child hcontent key' list items hoption' hlist
    rw [hmade]
    simpa only [Progress.items_setFields, hprepared.items, List.nil_append] using hall

/-- An entity that is made from options stands for them. -/
theorem draftNew_drafts {build : Kind → Datum → Drafting Datum} (hbuild : Builds build)
    {now : Heap} {kind : Kind} {d : Datum} (hnone : now.entity? kind d = none) :
    Drafts (fun _ => True) now (draftNew build kind d) (Stands now kind d) := by
  refine .of_lt_size ((optionsIn_drafts now kind d).bind fun t entries _ ⟨ht, hentries⟩ => ?_)
  subst ht
  obtain ⟨b, p, mid, after, rfl, rfl, hself, hcopy, hg, hg', hw, hp⟩ := exists_start t kind entries
  refine .step hself hg.keeps (.step hcopy hg'.keeps
    (.mono (S := b.Other) ?_ fun _ => Site.Other.of_lt_size))
  exact (fill_drafts hbuild hw hp hnone hentries).bind fun t _ _ hstands => .pure hstands

/-- A build changes no object, and what comes of it stands for the options: by induction on the
depth, since what the parts of an entity are built from is less deep. -/
theorem draftTo_builds (depth : Nat) : Builds (draftTo depth) := by
  induction depth with
  | zero => exact fun _ _ _ => .throw _
  | succ depth ih =>
    intro kind d now
    refine .step (.heap now) (.refl now) ?_
    split
    · rename_i hentity
      exact .pure (.of_entity hentity)
    · rename_i hentity
      rw [Option.not_isSome_iff_eq_none] at hentity
      exact draftNew_drafts ih hentity

theorem draft_drafts (kind : Kind) (d : Datum) (now : Heap) :
    Drafts (fun _ => True) now (draft kind d) (Stands now kind d) :=
  draftTo_builds (nesting kind) kind d now

/-! ## Workspaces -/

/-- A computation that makes objects runs in a workspace as it does on its heap. -/
theorem drafted_run {α : Type} (common : Bool) (x : Drafting α) (w : Workspace) :
    ∃ s : Draft, s.heap = w.heap ∧ ((Session.drafted common x).run w).1 = (x.run s).1 ∧
      ((Session.drafted common x).run w).2.heap = (x.run s).2.heap ∧
      ((Session.drafted common x).run w).2.names = w.names := by
  refine ⟨{ heap := w.heap, nextId := (if common then w.nextId else none).getD 1,
            notices := w.notices }, rfl, ?_⟩
  unfold Session.drafted
  exact ⟨rfl, rfl, rfl⟩

/-- What was built is kept, and compared with the options. -/
theorem build_run {w w' : Workspace} {options : Datum} {common : Bool} {r : Ref}
    (hdrafted : (Session.drafted common (draft kind options)).run w = (.ok (.object r), w'))
    (name : String) : ∃ same, (same = true ↔ .object r = options) ∧
      (Session.build kind options name common).run w = (.ok (.object r, same),
        { w' with names := (name, .object r) :: w'.names.filter (·.1 != name) }) := by
  unfold Session.build
  rw [run_bind, hdrafted]
  cases options with
  | value v => exact ⟨false, iff_of_false nofun nofun, rfl⟩
  | object q =>
    refine ⟨q == r, ?_, rfl⟩
    rw [beq_iff_eq, Datum.object.injEq, eq_comm]

/-- An entity that was built from options and is kept under a name. -/
structure Built (w : Workspace) (kind : Kind) (options : Datum) (name : String) (after : Workspace)
    (d : Datum) (same : Bool) : Prop where
  kept : fieldOf? after.names name = some d
  same : same = true ↔ d = options
  /-- An entity of the kind is the result itself, from all other options a new one is made. -/
  itself : (w.heap.entity? kind options).isSome → d = options
  new : w.heap.entity? kind options = none → w.heap.object? d = none
  entity : ∃ fields, after.heap.object? d = some (.entity kind fields)
  /-- Each entity that is passed where one of its kind is expected is there itself, unchanged. -/
  passed : ∀ path x, Passes w.heap kind options path x →
    At after.heap d path x ∧ after.heap.object? x = w.heap.object? x

/-- What a build from options does to a workspace. -/
structure Keeps (w : Workspace) (kind : Kind) (options : Datum) (name : String)
    (result : Except Fault (Datum × Bool)) (after : Workspace) : Prop where
  /-- Whether it succeeds or not, all objects have the contents that they had. -/
  objects : ∀ r o, w.heap.get? r = some o → after.heap.get? r = some o
  failed : ∀ fault, result = .error fault → after.names = w.names
  built : ∀ d same, result = .ok (d, same) → Built w kind options name after d same

/-- Whatever the workspace and the options are, a build from them changes no object that is there
already, and what they pass becomes a part of the new entity itself. -/
theorem build_keeps (w : Workspace) (kind : Kind) (options : Datum) (name : String)
    (common : Bool) :
    Keeps w kind options name ((Session.build kind options name common).run w).1
      ((Session.build kind options name common).run w).2 := by
  obtain ⟨s, hs, hresult, hheap, hnames⟩ := drafted_run common (draft kind options) w
  obtain ⟨hgrows, hstands⟩ := draft_drafts kind options w.heap s hs
  rw [← hheap] at hgrows
  rw [← hresult, ← hheap] at hstands
  rcases hrun : (Session.drafted common (draft kind options)).run w with ⟨fault | d, w'⟩
  · rw [hrun] at hgrows hnames
    have hbuild : (Session.build kind options name common).run w = (.error fault, w') := by
      unfold Session.build
      rw [run_bind, hrun]
    rw [hbuild]
    exact ⟨fun r o hr => Heap.Grows.get? hgrows hr, fun _ _ => hnames, nofun⟩
  · rw [hrun] at hgrows hstands
    have hd : Stands w.heap kind options w'.heap d := hstands d rfl
    obtain ⟨fields, hfields⟩ := hd.entity
    cases d with
    | value v => cases hfields
    | object r =>
      obtain ⟨same, hsame, hbuild⟩ := build_run hrun name
      rw [hbuild]
      refine ⟨fun r o hr => Heap.Grows.get? hgrows hr, nofun, ?_⟩
      rintro _ _ ⟨⟩
      refine ⟨fieldOf?_cons_self (name, _) _, hsame, hd.same, hd.new, hd.entity, ?_⟩
      intro path x hx
      obtain ⟨k, there, hthere⟩ := hx.exists_entity
      exact ⟨(hd.passed path x hx).at, (Heap.Grows.object? hgrows hthere).trans hthere.symm⟩

/-! ## Objects in several places -/

/-- A header in a list that is shared by the headers and the parameters of a request, the request in
the lists of two scenarios, and after it in the second list something that is no request. -/
def sharedHeap : Heap where
  objects :=
    [.entity .keyValue [("name", .value (.text "Accept")), ("value", .value (.text "*/*"))],
     .list [.object 0, .object 0],
     .mapping [(.text "headers", .object 1), (.text "parameters", .object 1)],
     .list [.object 2],
     .mapping [(.text "requests", .object 3)],
     .list [.object 2, .value (.int 5)],
     .mapping [(.text "requests", .object 5)]]

/-- The path to a header of the first request of a scenario. -/
def headerPath (i : Int) : List PathStep :=
  [.field "requests", .index 0, .field "headers", .index i]

theorem passes_sharedHeap :
    Passes sharedHeap .scenario (.object 4) (headerPath 1) (.object 0) := by
  refine .item rfl (f := ⟨"requests", .entities .request, none⟩) ?_ rfl rfl rfl rfl ?_
  · decide
  · refine .item rfl (f := ⟨"headers", .entities .keyValue, none⟩) ?_ rfl rfl rfl rfl (.here rfl)
    decide

/-- A scenario is built from one of the mappings. -/
theorem build_sharedHeap : ∃ d after,
    (Session.build .scenario (.object 4) "S" false).run { heap := sharedHeap } =
      (.ok (d, false), after) := by
  have hflag : ((Session.build .scenario (.object 4) "S" false).run
      { heap := sharedHeap }).1.toOption.map Prod.snd = some false := by decide +kernel
  rcases hrun : (Session.build .scenario (.object 4) "S" false).run { heap := sharedHeap } with
    ⟨fault | ⟨d, same⟩, after⟩
  · rw [hrun] at hflag
    cases hflag
  · rw [hrun] at hflag
    obtain rfl : same = false := Option.some.inj hflag
    exact ⟨d, after, rfl⟩

/-- The shared header is a header of the request that is built, and still what it was. -/
theorem build_keeps_sharedHeap : ∃ d after,
    (Session.build .scenario (.object 4) "S" false).run { heap := sharedHeap } =
        (.ok (d, false), after) ∧
      Passes sharedHeap .scenario (.object 4) (headerPath 1) (.object 0) ∧
      At after.heap d (headerPath 1) (.object 0) ∧
      after.heap.object? (.object 0) = sharedHeap.object? (.object 0) := by
  obtain ⟨d, after, hrun⟩ := build_sharedHeap
  have hkeeps := build_keeps { heap := sharedHeap } .scenario (.object 4) "S" false
  rw [hrun] at hkeeps
  exact ⟨d, after, hrun, passes_sharedHeap,
    (hkeeps.built d false rfl).passed (headerPath 1) (.object 0) passes_sharedHeap⟩

/-- A build that fails midway has made objects already. -/
example :
    let after := (Session.build .scenario (.object 6) "S" false).run { heap := sharedHeap }
    after.1.toOption.isNone ∧ sharedHeap.objects.length < after.2.heap.objects.length := by
  decide +kernel

end LoadPlan.Workspace
