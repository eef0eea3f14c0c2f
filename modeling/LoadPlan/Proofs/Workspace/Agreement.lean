import LoadPlan.Proofs.Workspace.Filling

/-!
# Building from objects and from values

Options that hold a value make the same entity as that value: the build from objects draws the same
ids, gives the same notices, ends in the same fault, and otherwise makes objects that show the
entity that the value describes (`draft_mirrors`).
-/

namespace LoadPlan.Workspace

variable {depth : Nat}

theorem defaultOf_of_ne {kind : Kind} (h : kind ≠ .test) (f : Field) :
    defaultOf kind f = .null := by
  simp [defaultOf, h]

/-- Kinds of entities whose fields all hold values. -/
theorem fills_scalars {α : Type} {build : Kind → Datum → Drafting Datum} {kind : Kind}
    {make : Entries → α} {form : α → Form}
    (hprepare : ∀ self options, prepare build kind self options = Pure.pure ())
    (hscalar : ∀ f ∈ kind.fields, f.content = .scalar ∧ f.furtherName? = none)
    (hkind : kind ≠ .test)
    (hform : ∀ o, form (make o) =
      .entity kind (kind.fields.map fun f => (f.name, .value (o.get f.name)))) :
    Fills build kind (fun o => Options.noteIgnored kind o >>= fun _ => Pure.pure (make o))
      form := by
  rintro b p now S entries o rfl hw hp hS hgiven
  have hlist : ∀ f ∈ b.kind.fields, f.isList = false := fun f hf => by
    simp [Field.isList, (hscalar f hf).1]
  have hnone : b.kind.fields.filter Field.holdsEntities = [] := by
    refine List.filter_eq_nil_iff.mpr fun f hf => ?_
    simp [Field.holdsEntities, (hscalar f hf).1]
  unfold fill
  rw [hprepare, pure_bind]
  refine .advance (hw.setAll fun f hf hf' => ⟨_, hp.plain f hf hf'⟩) fun t _ hset => ?_
  rw [hp.entries] at hset
  refine hset.addAll hnone (hset.finish hS ?_ (hform o) ?_)
  · rw [Progress.entries_setFields, hp.entries, hgiven.keys]
  · intro part hpart
    obtain ⟨f, hf, rfl⟩ := List.mem_map.mp hpart
    have hplain : fieldOf? p.fields f.name = some (.value .null) := by
      rw [hp.plain f hf (hlist f hf), defaultOf_of_ne hkind]
    have hfield : b.kind.field? f.name = some ⟨f.name, .scalar, none⟩ := by
      rw [Kind.field?_of_mem hf, ← (hscalar f hf).1, ← (hscalar f hf).2]
    exact Given.settled (hset.given hgiven) (.refl b.kind entries) f.name hfield
      List.not_mem_nil rfl hplain

theorem keyValue_agrees : Agrees (draftTo (depth + 1)) .keyValue KeyValue.ofOptions KeyValue.form :=
  Fills.agrees (fills_scalars (fun _ _ => rfl) (by decide) (by decide) fun _ => rfl)

theorem text_agrees :
    Agrees (draftTo (depth + 1)) .text TextAssertion.ofOptions TextAssertion.form :=
  Fills.agrees (fills_scalars (fun _ _ => rfl) (by decide) (by decide) fun _ => rfl)

theorem regex_agrees :
    Agrees (draftTo (depth + 1)) .regex RegexAssertion.ofOptions RegexAssertion.form :=
  Fills.agrees (fills_scalars (fun _ _ => rfl) (by decide) (by decide) fun _ => rfl)

theorem responseTime_agrees :
    Agrees (draftTo (depth + 1)) .responseTime ResponseTime.ofOptions ResponseTime.form :=
  Fills.agrees (fills_scalars (fun _ _ => rfl) (by decide) (by decide) fun _ => rfl)

theorem body_agrees : Agrees (draftTo (depth + 2)) .body Body.ofOptions Body.form := by
  refine Fills.agrees ?_
  rintro ⟨before, size, kind, self, options⟩ p now S entries o ⟨⟩ hw hp hS hgiven
  have hsame : SameBut .body [] entries p.entries := hp.entries ▸ .refl .body entries
  unfold fill
  rw [show prepare _ .body _ _ = pure () from rfl, pure_bind]
  refine .advance (hw.setAll fun f hf hf' => ⟨_, hp.plain f hf hf'⟩) fun t₁ _ hw₁ => ?_
  refine hw₁.addAll rfl ?_
  have hkvs : ⟨"kvs", .entities .keyValue, none⟩ ∈ Kind.fields .body := by decide
  refine (keyValue_agrees.addToList hS hw₁ hkvs rfl
    (option_of_entry rfl (hsame.holds hw₁ hgiven List.not_mem_nil))).bind
    fun t₂ _ _ _ ⟨made, hw₂, hmade⟩ => ?_
  refine hw₂.finish hS (hsame.ignored.trans (congrArg _ hgiven.keys)) rfl fun part hpart => ?_
  simp only [List.mem_cons, List.not_mem_nil, or_false] at hpart
  rcases hpart with rfl | rfl | rfl
  · exact Given.settled (hw₂.given hgiven) hsame "type" rfl List.not_mem_nil rfl
      (hp.plain ⟨"type", .scalar, none⟩ (by decide) rfl)
  · exact Given.settled (hw₂.given hgiven) hsame "raw" rfl List.not_mem_nil rfl
      (hp.plain ⟨"raw", .scalar, none⟩ (by decide) rfl)
  · refine hw₂.shows_list hS hkvs rfl ?_
    simpa [hp.items] using hmade

theorem assertions_agrees :
    Agrees (draftTo (depth + 2)) .assertions Assertions.ofOptions Assertions.form := by
  refine Fills.agrees ?_
  rintro ⟨before, size, kind, self, options⟩ p now S entries o ⟨⟩ hw hp hS hgiven
  have hstart : SameBut .assertions [] entries p.entries := hp.entries ▸ .refl .assertions entries
  unfold fill
  refine (responseTime_agrees.option hS hw (hstart.holds hw hgiven List.not_mem_nil)).bind
    fun t₁ _ duration _ ⟨x, hw₁, hx⟩ => ?_
  have hsame := hstart.withEntry "duration" (by decide) x
  refine .advance (hw₁.setAll fun f hf hf' => ⟨_, hp.plain f hf hf'⟩) fun t₂ hk₂ hw₂ => ?_
  refine hw₂.addAll rfl ?_
  have htext : ⟨"text", .entities .text, none⟩ ∈ Kind.fields .assertions := by decide
  have hregex : ⟨"regex", .entities .regex, none⟩ ∈ Kind.fields .assertions := by decide
  refine (text_agrees.addToList hS hw₂ htext rfl
    (option_of_entry rfl (hsame.holds hw₂ hgiven (by decide)))).bind
    fun t₃ _ _ hk₃ ⟨madeText, hw₃, hmadeText⟩ => ?_
  refine (regex_agrees.addToList hS hw₃ hregex rfl
    (option_of_entry rfl (hsame.holds hw₃ hgiven (by decide)))).bind
    fun t₄ _ _ hk₄ ⟨madeRegex, hw₄, hmadeRegex⟩ => ?_
  refine hw₄.finish hS (hsame.ignored.trans (congrArg _ hgiven.keys)) rfl fun part hpart => ?_
  simp only [List.mem_cons, List.not_mem_nil, or_false] at hpart
  rcases hpart with rfl | rfl | rfl
  · refine hw₄.shows_list hS htext rfl ?_
    simpa [hp.items] using hmadeText.imp fun _ _ hd => hd.of_keeps_other hk₄
  · refine hw₄.shows_list hS hregex rfl ?_
    simpa [hp.items] using hmadeRegex
  · exact Shows.settled "duration" rfl rfl (entryOf?_withEntry_self ..)
      (hx.of_keeps_other (hk₂.trans (hk₃.trans hk₄)))

theorem request_agrees : Agrees (draftTo (depth + 3)) .request Request.ofOptions Request.form := by
  have hid : ∀ f ∈ Kind.fields .request, f.isList = true → f.name ≠ "id" := by decide
  refine Fills.agrees ?_
  rintro ⟨before, size, kind, self, options⟩ p now S entries o ⟨⟩ hw hp hS hgiven
  have hstart : SameBut .request [] entries p.entries := hp.entries ▸ .refl .request entries
  unfold fill prepare number
  simp only [bind_assoc]
  refine .drawId fun id => ?_
  refine .advance (hw.assign hid _) fun t₁ _ hw₁ => ?_
  have hget := Edits.pure t₁ (Datum.value (.text "GET"))
  obtain ⟨E, t₂, hput, hk₂, hw₂, hmethod, d, hentry, hd⟩ :=
    hw₁.putDefault_holds hstart "method" (by decide) (hp.entries ▸ hw₁.given hgiven _) hget
      (.refl t₁) (.bare rfl)
  refine .step hput hk₂ ?_
  refine (body_agrees.option hS hw₂ (hmethod.holds hw₂ hgiven (by decide))).bind
    fun t₃ _ body hk₃ ⟨x, hw₃, hx⟩ => ?_
  simp only [Progress.entries_setEntries, Progress.setEntries_setEntries] at hw₃
  have hbody := hmethod.withEntry "body" (by decide) x
  refine (assertions_agrees.option hS hw₃ (hbody.holds hw₃ hgiven (by decide))).bind
    fun t₄ _ assertions hk₄ ⟨y, hw₄, hy⟩ => ?_
  simp only [Progress.entries_setEntries, Progress.setEntries_setEntries] at hw₄
  have hsame := hbody.withEntry "assertions" (by decide) y
  refine .advance (hw₄.setAll (hp.plain_withField _)) fun t₅ hk₅ hw₅ => ?_
  simp only [Progress.entries_setEntries, Progress.fields_setEntries,
    Progress.fields_setFields] at hw₅
  refine hw₅.addAll rfl ?_
  have hparameters : ⟨"parameters", .entities .keyValue, none⟩ ∈ Kind.fields .request := by decide
  have hheaders : ⟨"headers", .entities .keyValue, none⟩ ∈ Kind.fields .request := by decide
  have hextract : ⟨"extract", .reserved, none⟩ ∈ Kind.fields .request := by decide
  refine (keyValue_agrees.addToList hS hw₅ hparameters rfl
    (option_of_entry rfl (hsame.holds hw₅ hgiven (by decide)))).bind
    fun t₆ _ _ hk₆ ⟨made₁, hw₆, hmade₁⟩ => ?_
  refine (keyValue_agrees.addToList hS hw₆ hheaders rfl
    (option_of_entry rfl (hsame.holds hw₆ hgiven (by decide)))).bind
    fun t₇ _ _ hk₇ ⟨made₂, hw₇, hmade₂⟩ => ?_
  refine hw₇.finish hS (hsame.ignored.trans (congrArg _ hgiven.keys)) rfl fun part hpart => ?_
  have hk₅₇ := hk₅.trans (hk₆.trans hk₇)
  simp only [List.mem_cons, List.not_mem_nil, or_false] at hpart
  rcases hpart with rfl | rfl | rfl | rfl | rfl | rfl | rfl | rfl | rfl
  · exact Given.settled (hw₇.given hgiven) hsame "id" rfl (by decide) rfl
      (fieldOf?_withField_self ..)
  · exact Given.settled (hw₇.given hgiven) hsame "name" rfl (by decide) rfl
      (hp.plain_withField_of_ne (f := ⟨"name", .scalar, none⟩) (by decide) rfl (by decide) _)
  · exact Given.settled (hw₇.given hgiven) hsame "url" rfl (by decide) rfl
      (hp.plain_withField_of_ne (f := ⟨"url", .scalar, none⟩) (by decide) rfl (by decide) _)
  · refine Shows.settled "method" rfl rfl (d := d) ?_
      (.value (hd.of_keeps_other (hk₃.trans (hk₄.trans hk₅₇))))
    simp [hentry]
  · refine hw₇.shows_list hS hparameters rfl ?_
    simpa [hp.items] using hmade₁.imp fun _ _ hd => hd.of_keeps_other hk₇
  · refine hw₇.shows_list hS hheaders rfl ?_
    simpa [hp.items] using hmade₂
  · refine Shows.settled "body" rfl rfl ?_ (hx.of_keeps_other (hk₄.trans hk₅₇))
    simp
  · exact Shows.settled "assertions" rfl rfl (entryOf?_withEntry_self ..) (hy.of_keeps_other hk₅₇)
  · refine hw₇.shows_list hS hextract rfl ?_
    simp [hp.items]

theorem scenario_agrees :
    Agrees (draftTo (depth + 4)) .scenario Scenario.ofOptions Scenario.form := by
  have hid : ∀ f ∈ Kind.fields .scenario, f.isList = true → f.name ≠ "id" := by decide
  refine Fills.agrees ?_
  rintro ⟨before, size, kind, self, options⟩ p now S entries o ⟨⟩ hw hp hS hgiven
  have hstart : SameBut .scenario [] entries p.entries := hp.entries ▸ .refl .scenario entries
  unfold fill prepare number
  simp only [bind_assoc]
  refine .drawId fun id => ?_
  refine .advance (hw.assign hid _) fun t₁ _ hw₁ => ?_
  obtain ⟨x, mid, hdefault, hg, hx⟩ := hw₁.oneDefault hS
  obtain ⟨E, t₂, hput, hk₂, hw₂, hsame, d, hentry, hd⟩ := hw₁.putDefault_holds hstart "requests"
    (by decide) (hp.entries ▸ hw₁.given hgiven _) hdefault hg hx
  refine .step hput hk₂ (.advance (hw₂.setAll (hp.plain_withField _)) fun t₃ hk₃ hw₃ => ?_)
  simp only [Progress.entries_setEntries, Progress.fields_setEntries,
    Progress.fields_setFields] at hw₃
  refine hw₃.addAll rfl ?_
  have hparameters : ⟨"parameters", .entities .keyValue, none⟩ ∈ Kind.fields .scenario := by decide
  have hheaders : ⟨"headers", .entities .keyValue, none⟩ ∈ Kind.fields .scenario := by decide
  have hrequests : ⟨"requests", .entities .request, none⟩ ∈ Kind.fields .scenario := by decide
  refine (keyValue_agrees.addToList hS hw₃ hparameters rfl
    (option_of_entry rfl (hsame.holds hw₃ hgiven (by decide)))).bind
    fun t₄ _ _ hk₄ ⟨made₁, hw₄, hmade₁⟩ => ?_
  refine (keyValue_agrees.addToList hS hw₄ hheaders rfl
    (option_of_entry rfl (hsame.holds hw₄ hgiven (by decide)))).bind
    fun t₅ _ _ hk₅ ⟨made₂, hw₅, hmade₂⟩ => ?_
  have hthere := hd.of_keeps_other (hk₃.trans (hk₄.trans hk₅))
  refine (request_agrees.addToList hS hw₅ hrequests rfl (.inr ⟨d, ?_, hthere⟩)).bind
    fun t₆ _ _ hk₆ ⟨made₃, hw₆, hmade₃⟩ => ?_
  · rw [optionOf?_of_none rfl]
    simp [hentry]
  refine hw₆.finish hS (hsame.ignored.trans (congrArg _ hgiven.keys)) rfl fun part hpart => ?_
  simp only [List.mem_cons, List.not_mem_nil, or_false] at hpart
  rcases hpart with rfl | rfl | rfl | rfl | rfl | rfl
  · exact Given.settled (hw₆.given hgiven) hsame "id" rfl (by decide) rfl
      (fieldOf?_withField_self ..)
  · exact Given.settled (hw₆.given hgiven) hsame "name" rfl (by decide) rfl
      (hp.plain_withField_of_ne (f := ⟨"name", .scalar, none⟩) (by decide) rfl (by decide) _)
  · exact Given.settled (hw₆.given hgiven) hsame "url" rfl (by decide) rfl
      (hp.plain_withField_of_ne (f := ⟨"url", .scalar, none⟩) (by decide) rfl (by decide) _)
  · refine hw₆.shows_list hS hparameters rfl ?_
    simpa [hp.items] using hmade₁.imp fun _ _ hd => hd.of_keeps_other (hk₅.trans hk₆)
  · refine hw₆.shows_list hS hheaders rfl ?_
    simpa [hp.items] using hmade₂.imp fun _ _ hd => hd.of_keeps_other hk₆
  · refine hw₆.shows_list hS hrequests rfl ?_
    simpa [hp.items] using hmade₃

/-- The options for the scenarios of a test, under one of two names, null if there are none. -/
def scenariosGiven (o : Entries) : String × Value :=
  (Options.find? o "scenario_definition" "scenarioDefinition").getD ("scenario_definition", .null)

/-- The scenarios of a test are what was given, or a list with one that has all defaults. The name
that was used matters only if what was given is no list. -/
theorem prepare_test_holds {b : Site} {p : Progress} {now : Heap} {S : Ref → Prop}
    {entries : OptionEntries} {o : Entries} {B : Kind → Datum → Drafting Datum} {f : Field}
    (hf : b.kind.field? "scenario_definition" = some f) (hname : f.name = "scenario_definition")
    (hfurther : f.furtherName? = some "scenarioDefinition")
    (hw : InWork b p now) (hp : p.entries = entries) (hS : ∀ r, b.before.size ≤ r → S r)
    (hgiven : Given (b.Outside S) b.before entries o) :
    ∃ E after, Edits now (prepare B .test (.object b.self) (.object b.options)) () after ∧
      now.Keeps b.Other after ∧ InWork b (p.setEntries E) after ∧
      SameBut .test ["scenario_definition", "scenarioDefinition"] entries E ∧
      ∃ key d, optionOf? E f = some (key, d) ∧
        Holds (b.Outside S) after d (Options.orDefault (scenariosGiven o).2) ∧
        (key = (scenariosGiven o).1 ∨
          Options.orDefault (scenariosGiven o).2 = .list [.mapping []]) := by
  have hoption := option_of_further hfurther (hw.given hgiven _) (hw.given hgiven _)
  rw [hname, ← hp] at hoption
  have hd : Holds (b.Outside S) now (((optionOf? p.entries f).map (·.2)).getD .null)
      (scenariosGiven o).2 := by
    unfold scenariosGiven
    generalize optionOf? p.entries f = e at hoption
    generalize Options.find? o _ _ = g at hoption
    cases hoption with
    | none => exact .bare rfl
    | some he => exact he.2
  have hlook := hw.getOption hf
  unfold prepare
  cases htruthy : (scenariosGiven o).2.isTruthy with
  | true =>
    refine ⟨p.entries, now, hlook.bind ((Edits.heap now).bind ?_), .refl now, hw, ?_, ?_⟩
    · rw [hd.isTruthy_eq, htruthy]
      exact .pure now ()
    · rw [hp]
      exact ((SameBut.refl .test entries).weaken _).weaken _
    · rw [Options.orDefault, Value.orElse, if_pos htruthy]
      unfold scenariosGiven at htruthy ⊢
      generalize Options.find? o _ _ = g at hoption htruthy ⊢
      cases hentry : optionOf? p.entries f with
      | none =>
        rw [hentry] at hoption
        cases hoption
        cases htruthy
      | some e =>
        rw [hentry] at hoption
        cases hoption with
        | some he => exact ⟨e.1, e.2, rfl, he.2, .inl he.1⟩
  | false =>
    obtain ⟨x, mid, hdefault, hg, hx⟩ := hw.oneDefault hS
    obtain ⟨after, hput, hk, hw'⟩ := (hw.of_grows hg).putOption hf x
    have hwithout : withoutFurther p.entries f =
        entries.filter fun e => !e.1.isText "scenarioDefinition" := by
      rw [withoutFurther, hfurther, hp]
      rfl
    have hlist : Options.orDefault (scenariosGiven o).2 = .list [.mapping []] := by
      rw [Options.orDefault, Value.orElse, htruthy, if_neg Bool.false_ne_true]
    refine ⟨_, after, hlook.bind ((Edits.heap now).bind ?_), hg.keeps.trans hk, hw', ?_, ?_⟩
    · rw [hd.isTruthy_eq, htruthy]
      exact hdefault.bind hput
    · rw [hwithout]
      exact ((SameBut.refl .test entries).filter "scenarioDefinition" (by decide)).withEntry
        "scenario_definition" (by decide) x
    · rw [hlist]
      refine ⟨"scenario_definition", x, ?_, hx.of_keeps_other hk, .inr rfl⟩
      rw [optionOf?, hname, entryOf?_withEntry_self]

/-- The name of a list of options matters only if it is no list. -/
theorem entities_list {α : Type} (build : Value → Build α) (kind : Kind) (key key' : String)
    {v : Value} (h : key = key' ∨ v = .list [.mapping []]) :
    Options.entities build kind key v = Options.entities build kind key' v := by
  obtain rfl | rfl := h <;> rfl

theorem test_agrees : Agrees (draftTo (depth + 5)) .test Test.ofOptions Test.form := by
  have hscenarios : ⟨"scenario_definition", .entities .scenario, some "scenarioDefinition"⟩ ∈
      Kind.fields .test := by decide
  have hproject : ⟨"project_id", .scalar, some "projectId"⟩ ∈ Kind.fields .test := by decide
  refine Fills.agrees ?_
  rintro ⟨before, size, kind, self, options⟩ p now S entries o ⟨⟩ hw hp hS hgiven
  obtain ⟨E, t₁, hprepare, hk₁, hw₁, hsame, key, d, hoption, hd, hkey⟩ :=
    prepare_test_holds (B := draftTo (depth + 4)) (Kind.field?_of_mem hscenarios) rfl rfl hw
      hp.entries hS hgiven
  unfold fill
  refine .step hprepare hk₁ (.advance (hw₁.setAll fun f hf hf' => ⟨_, hp.plain f hf hf'⟩)
    fun t₂ hk₂ hw₂ => ?_)
  simp only [Progress.entries_setEntries, Progress.fields_setEntries] at hw₂
  refine hw₂.addAll rfl ?_
  change Mirrors _ _ _ (Options.entities Scenario.ofOptions .test (scenariosGiven o).1
    (Options.orDefault (scenariosGiven o).2) >>= _) _
  rw [← entities_list _ _ _ _ hkey]
  refine (scenario_agrees.addToList hS hw₂ hscenarios rfl
    (.inr ⟨d, hoption, hd.of_keeps_other hk₂⟩)).bind fun t₃ _ _ _ ⟨made, hw₃, hmade⟩ => ?_
  refine hw₃.finish hS (hsame.ignored.trans (congrArg _ hgiven.keys)) rfl fun part hpart => ?_
  simp only [List.mem_cons, List.not_mem_nil, or_false] at hpart
  rcases hpart with rfl | rfl | rfl | rfl | rfl
  · exact Given.settled (hw₃.given hgiven) hsame "version" rfl (by decide) rfl
      (hp.plain ⟨"version", .scalar, none⟩ (by decide) rfl)
  · exact Given.settled (hw₃.given hgiven) hsame "id" rfl (by decide) rfl
      (hp.plain ⟨"id", .scalar, none⟩ (by decide) rfl)
  · exact Given.settled (hw₃.given hgiven) hsame "name" rfl (by decide) rfl
      (hp.plain ⟨"name", .scalar, none⟩ (by decide) rfl)
  · refine settled_of_option hproject rfl ?_ rfl (hp.plain _ hproject rfl)
    have hrel := hw₃.given hgiven
    have hproject := option_of_further (E := E)
      (f := ⟨"project_id", .scalar, some "projectId"⟩) rfl
      (hsame.entry "project_id" (by decide) ▸ hrel _)
      (hsame.entry "projectId" (by decide) ▸ hrel _)
    generalize optionOf? E _ = e at hproject ⊢
    generalize Options.find? o _ _ = g at hproject ⊢
    cases hproject with
    | none => exact .none
    | some he => exact .some he.2.of_outside
  · refine hw₃.shows_list hS hscenarios rfl ?_
    simpa [hp.items] using hmade

/-! ## All kinds -/

/-- An entity of a kind that a value describes, by its parts. -/
def formOf : Kind → Value → Build Form
  | .keyValue, v => KeyValue.form <$> KeyValue.ofOptions v
  | .text, v => TextAssertion.form <$> TextAssertion.ofOptions v
  | .regex, v => RegexAssertion.form <$> RegexAssertion.ofOptions v
  | .responseTime, v => ResponseTime.form <$> ResponseTime.ofOptions v
  | .assertions, v => Assertions.form <$> Assertions.ofOptions v
  | .body, v => Body.form <$> Body.ofOptions v
  | .request, v => Request.form <$> Request.ofOptions v
  | .scenario, v => Scenario.form <$> Scenario.ofOptions v
  | .test, v => Test.form <$> Test.ofOptions v

/-- An entity is made of what a value describes, whatever is made of it then. -/
theorem Agrees.map {α : Type} {build : Kind → Datum → Drafting Datum} {kind : Kind}
    {ofOptions : Value → Build α} {form : α → Form} (hagrees : Agrees build kind ofOptions form) :
    Agrees build kind (fun v => form <$> ofOptions v) id := by
  intro S now d v hS hd
  dsimp only
  rw [map_eq_pure_bind]
  exact (hagrees S now d v hS hd).map fun _ _ _ _ hx => hx

theorem draft_agrees (kind : Kind) : Agrees draft kind (formOf kind) id := by
  intro S now d v hS hd
  cases kind with
  | keyValue => exact keyValue_agrees.map S now d v hS hd
  | text => exact text_agrees.map S now d v hS hd
  | regex => exact regex_agrees.map S now d v hS hd
  | responseTime => exact responseTime_agrees.map S now d v hS hd
  | assertions => exact assertions_agrees.map S now d v hS hd
  | body => exact body_agrees.map S now d v hS hd
  | request => exact request_agrees.map S now d v hS hd
  | scenario => exact scenario_agrees.map S now d v hS hd
  | test => exact test_agrees.map S now d v hS hd

/-- Whatever the heap, the kind and the options are: a build from options that hold a value keeps
all objects and does what a build from the value does, and the entity that it gives shows the one
that the value describes. -/
theorem draft_mirrors (kind : Kind) (now : Heap) {d : Datum} {v : Value}
    (hd : Holds (fun _ => True) now d v) :
    Mirrors (fun _ => True) now (draft kind d) (formOf kind v) (Shows fun _ => True) :=
  draft_agrees kind _ now d v (fun _ _ => trivial) hd

end LoadPlan.Workspace
