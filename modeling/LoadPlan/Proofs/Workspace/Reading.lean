import LoadPlan.Proofs.Lint.Findings
import LoadPlan.Proofs.Workspace.Agreement

/-!
# Compiling and checking what objects show

Objects that show a test can be read throughout, and are compiled and checked like the test itself,
with the same notices and the same fault (`Shows.toXml_eq`, `Shows.check_eq`). The proof follows the
parts of a test: what each of them is read as, then what is made of it.
-/

namespace LoadPlan

/-- What a request has itself, without its parts. -/
def Request.head (r : Request) : Request where
  id := r.id
  name := r.name
  url := r.url
  method := r.method

/-- What is used of a body: its entries, or its raw text. -/
def Body.used (b : Body) : Body :=
  if b.isKeyValue then { type := b.type, kvs := b.kvs } else { type := b.type, raw := b.raw }

@[simp]
theorem Body.isKeyValue_used (b : Body) : b.used.isKeyValue = b.isKeyValue := by
  unfold Body.used
  split <;> rfl

/-- Lists are gone through alike if each step on the one is a step on the other. -/
theorem mapM_eq_of_forall₂ {m : Type → Type} [Monad m] [LawfulMonad m] {α β γ : Type} {f : α → m γ}
    {g : β → m γ} {as : List α} {bs : List β} (h : List.Forall₂ (fun a b => f a = g b) as bs) :
    as.mapM f = bs.mapM g := by
  induction h with
  | nil => rfl
  | cons hab _ ih => rw [List.mapM_cons, List.mapM_cons, hab, ih]

@[simp]
theorem Logged.lift_ok {α : Type} (a : α) :
    (liftM (Except.ok a : Except Fault α) : Logged α) = pure a :=
  rfl

namespace Workspace

variable {S : Ref → Prop} {h : Heap} {d : Datum}

/-! ## Parts of entities -/

/-- Fields that show parts, one by one. -/
def ShowsParts (S : Ref → Prop) (h : Heap) (o : List (String × Datum)) :
    List (String × Form) → Prop
  | [] => True
  | (name, form) :: rest => Shows S h (Heap.part o name) form ∧ ShowsParts S h o rest

theorem ShowsParts.of_forall {o : List (String × Datum)} {parts : List (String × Form)}
    (hparts : ∀ p ∈ parts, Shows S h (Heap.part o p.1) p.2) : ShowsParts S h o parts := by
  induction parts with
  | nil => trivial
  | cons p parts ih =>
    obtain ⟨hp, hrest⟩ := List.forall_mem_cons.mp hparts
    exact ⟨hp, ih hrest⟩

/-- An entity is read as its fields, which show its parts. -/
theorem Shows.entity_eq {kind : Kind} {parts : List (String × Form)}
    (hd : Shows S h d (.entity kind parts)) (needed : String) :
    ∃ o, h.entity kind needed d = .ok o ∧ ShowsParts S h o parts := by
  obtain ⟨o, ho, hparts⟩ := hd.fields
  refine ⟨o, ?_, .of_forall hparts⟩
  rw [Heap.entity, Heap.entity?_eq_some.mpr ho]

theorem Shows.isNull_entity {kind : Kind} {parts : List (String × Form)}
    (hd : Shows S h d (.entity kind parts)) : d.isNull = false := by
  cases hd
  rfl

theorem Shows.eq_null (hd : Shows S h d (.value .null)) : d = .null := by
  cases hd.holds
  rfl

/-- A value is read from the field that shows it. -/
theorem Shows.scalar_eq {o : List (String × Datum)} {name : String} {v : Value}
    (hd : Shows S h (Heap.part o name) (.value v)) : h.scalar o name = v :=
  hd.holds.value_eq

section List

variable {α : Type} {form : α → Form} {as : List α}

theorem Shows.iterate_eq (hd : Shows S h d (.list (as.map form))) :
    ∃ items, h.iterate d = .ok items ∧ List.Forall₂ (fun x a => Shows S h x (form a)) items as := by
  obtain ⟨items, hitems, hall⟩ := hd.items
  have hiterate : h.iterate d = .ok items := by
    unfold Heap.iterate
    rw [hitems]
  exact ⟨items, hiterate, List.forall₂_map_right_iff.mp hall⟩

theorem Shows.isTruthy_list (hd : Shows S h d (.list (as.map form))) :
    h.isTruthy d = !as.isEmpty := by
  cases hd with
  | list _ hr hlength =>
    rw [List.length_map] at hlength
    rw [Heap.isTruthy, hr]
    cases as <;> cases ‹List Datum› <;> simp_all

variable {read : Datum → Except Fault α} (hread : ∀ x a, Shows S h x (form a) → read x = .ok a)
include hread

/-- A list is read item by item. -/
theorem Shows.walked_eq (hd : Shows S h d (.list (as.map form))) : h.walked read d = .ok as := by
  obtain ⟨items, hiterate, hall⟩ := hd.iterate_eq
  have hmap : items.mapM read = as.mapM Except.ok :=
    mapM_eq_of_forall₂ (hall.imp fun x a => hread x a)
  rw [Heap.walked, hiterate]
  exact hmap.trans ((Except.mapM_of_forall fun a _ => rfl).trans (by rw [List.map_id']))

theorem Shows.listed_eq (hd : Shows S h d (.list (as.map form))) : h.listed read d = .ok as := by
  have hwalked := hd.walked_eq hread
  rw [Heap.listed, hd.isTruthy_list]
  cases as with
  | nil => rfl
  | cons a as => exact hwalked

end List

/-! ## What entities are read as -/

theorem Shows.keyValue_eq {kv : KeyValue} (hd : Shows S h d kv.form) : h.keyValue d = .ok kv := by
  obtain ⟨o, ho, hname, hvalue, -⟩ := hd.entity_eq "is_valid"
  rw [Heap.keyValue, ho]
  change Except.ok (KeyValue.mk _ _) = _
  rw [hname.scalar_eq, hvalue.scalar_eq]

theorem Shows.listed_keyValues {kvs : List KeyValue}
    (hd : Shows S h d (.list (kvs.map KeyValue.form))) : h.listed h.keyValue d = .ok kvs :=
  hd.listed_eq fun _ _ hx => hx.keyValue_eq

theorem Shows.walked_keyValues {kvs : List KeyValue}
    (hd : Shows S h d (.list (kvs.map KeyValue.form))) : h.walked h.keyValue d = .ok kvs :=
  hd.walked_eq fun _ _ hx => hx.keyValue_eq

theorem Shows.regex_eq {r : RegexAssertion} (hd : Shows S h d r.form) : h.regex d = .ok r := by
  obtain ⟨o, ho, hsubject, hexpression, hdescription, -⟩ := hd.entity_eq "is_valid"
  rw [Heap.regex, ho]
  change Except.ok (RegexAssertion.mk _ _ _) = _
  rw [hsubject.scalar_eq, hexpression.scalar_eq, hdescription.scalar_eq]

theorem Shows.duration_eq {t : Option ResponseTime}
    (hd : Shows S h d (.optional ResponseTime.form t)) : h.duration d = .ok t := by
  cases t with
  | none =>
    rw [hd.eq_null]
    rfl
  | some t =>
    obtain ⟨o, ho, hvalue, -⟩ := Shows.entity_eq hd "value"
    rw [Heap.duration, Shows.isNull_entity hd, ho]
    change Except.ok (some (ResponseTime.mk _)) = _
    rw [hvalue.scalar_eq]

/-! ## Fields that hold values -/

theorem Holds.lookupKey_eq {v : Value} (hd : Holds S h d v) : h.lookupKey d = .ok v := by
  rw [Heap.lookupKey, hd.value_eq]
  cases hd with
  | bare => rfl
  | list _ hr => rw [Heap.object?, hr]
  | mapping _ hr => rw [Heap.object?, hr]

theorem Holds.isGet_eq {o : List (String × Datum)} {v : Value}
    (hd : Holds S h (Heap.part o "method") v) : h.isGet o = isGet v := by
  unfold Heap.part at hd
  unfold Heap.isGet
  generalize (fieldOf? o "method").getD .null = x at hd
  have htruthy := hd.isTruthy_eq
  have hkind := hd.kindName_eq
  cases hd with
  | bare => rfl
  | list =>
    dsimp only
    rw [htruthy, hkind]
    rfl
  | mapping =>
    dsimp only
    rw [htruthy, hkind]
    rfl

theorem Holds.isKeyValue_eq {o : List (String × Datum)} {v : Value}
    (hd : Holds S h (Heap.part o "type") v) : h.isKeyValue o = v.isText "KeyValue" := by
  rw [Heap.isKeyValue, ← hd.value_eq]
  rfl

/-! ## Requests -/

/-- Fields that show the parts of a request that are compiled and checked. -/
structure RequestShown (S : Ref → Prop) (h : Heap) (o : List (String × Datum)) (r : Request) :
    Prop where
  method : Shows S h (Heap.part o "method") (.value r.method)
  parameters : Shows S h (Heap.part o "parameters") (.list (r.parameters.map KeyValue.form))
  headers : Shows S h (Heap.part o "headers") (.list (r.headers.map KeyValue.form))
  body : Shows S h (Heap.part o "body") (.optional Body.form r.body)
  assertions : Shows S h (Heap.part o "assertions") (.optional Assertions.form r.assertions)

theorem RequestShown.isGet_eq {o : List (String × Datum)} {r : Request}
    (ho : RequestShown S h o r) : h.isGet o = r.isGet :=
  ho.method.holds.isGet_eq

theorem Shows.request_eq {r : Request} (hd : Shows S h d r.form) (needed : String) :
    ∃ o, h.entity .request needed d = .ok o ∧ h.requestHead o = r.head ∧
      RequestShown S h o r := by
  obtain ⟨o, ho, hid, hname, hurl, hmethod, hparameters, hheaders, hbody, hassertions, -⟩ :=
    hd.entity_eq needed
  refine ⟨o, ho, ?_, ⟨hmethod, hparameters, hheaders, hbody, hassertions⟩⟩
  rw [Heap.requestHead, hid.scalar_eq, hname.scalar_eq, hurl.scalar_eq, hmethod.scalar_eq,
    Request.head]

/-! ## Compiling -/

theorem Shows.bodyOf_eq {o : List (String × Datum)} {b : Body} {kvs : Except Fault (List KeyValue)}
    (htype : Shows S h (Heap.part o "type") (.value b.type))
    (hraw : Shows S h (Heap.part o "raw") (.value b.raw)) (hkvs : kvs = .ok b.kvs) :
    h.bodyOf o b.type kvs = .ok b.used := by
  rw [Heap.bodyOf, htype.holds.isKeyValue_eq, hkvs, hraw.scalar_eq, Body.used, Body.isKeyValue]
  cases b.type.isText "KeyValue" <;> rfl

theorem Shows.bodyToCompile_eq {b : Option Body} (hd : Shows S h d (.optional Body.form b)) :
    h.bodyToCompile d = .ok (b.map Body.used) := by
  cases b with
  | none =>
    rw [hd.eq_null]
    rfl
  | some b =>
    obtain ⟨o, ho, htype, hraw, hkvs, -⟩ := Shows.entity_eq hd "is_kv"
    rw [Heap.bodyToCompile, Shows.isNull_entity hd, ho]
    change (h.bodyOf o _ _ >>= _) = _
    rw [htype.scalar_eq, Shows.bodyOf_eq htype hraw hkvs.listed_keyValues]
    rfl

/-- What a request sends depends on its parameters if it is a GET, and on what is used of its body
if it is not. -/
theorem payloadOf_congr {r q : Request} (hname : q.name = r.name) (hmethod : q.method = r.method)
    (hparameters : r.isGet = .ok true → q.parameters = r.parameters)
    (hbody : r.isGet = .ok false → q.body = r.body.map Body.used) :
    Plan.payloadOf q = Plan.payloadOf r := by
  have hsame : q.isGet = r.isGet := by rw [Request.isGet, Request.isGet, hmethod]
  unfold Plan.payloadOf
  rw [hmethod, hsame, hname]
  cases hget : r.isGet with
  | error => rfl
  | ok get =>
    cases get with
    | true =>
      rw [hparameters hget]
      rfl
    | false =>
      rw [hbody hget]
      cases r.body with
      | none => rfl
      | some b =>
        rw [Option.map_some]
        dsimp only
        rw [b.isKeyValue_used]
        unfold Body.used
        cases b.isKeyValue <;> rfl

section Request

variable {r : Request} {o : List (String × Datum)}

theorem RequestShown.payloadOf_eq (ho : RequestShown S h o r) :
    h.payloadOf o r.head = Plan.payloadOf r := by
  unfold Heap.payloadOf
  rw [ho.isGet_eq, ho.parameters.listed_keyValues, ho.body.bodyToCompile_eq]
  change (if (!r.method.isTruthy) = true then _ else _) = _
  cases htruthy : r.method.isTruthy with
  | false =>
    unfold Plan.payloadOf
    rw [htruthy]
    change (if (!r.method.isTruthy) = true then _ else _) = _
    rw [htruthy]
    rfl
  | true =>
    rw [if_neg (by simp)]
    cases hget : r.isGet with
    | error fault =>
      unfold Plan.payloadOf
      rw [htruthy, hget]
      rfl
    | ok get =>
      cases get with
      | true =>
        refine payloadOf_congr rfl rfl (fun _ => rfl) fun hnot => ?_
        cases hnot.symm.trans hget
      | false =>
        refine payloadOf_congr rfl rfl (fun hnot => ?_) fun _ => rfl
        cases hnot.symm.trans hget

theorem Shows.assertionsOf_eq (hd : Shows S h d (.optional Assertions.form r.assertions)) :
    h.assertionsOf r.head.name d = Plan.assertionsOf r := by
  unfold Plan.assertionsOf
  cases ha : r.assertions with
  | none =>
    rw [ha] at hd
    rw [hd.eq_null]
    rfl
  | some a =>
    rw [ha] at hd
    obtain ⟨o, ho, -, hregex, hduration, -⟩ := Shows.entity_eq hd "regex"
    rw [Heap.assertionsOf, Shows.isNull_entity hd, ho, if_neg Bool.false_ne_true, Logged.lift_ok,
      pure_bind, hregex.listed_eq fun _ _ hx => hx.regex_eq, hduration.duration_eq]
    rfl

theorem Shows.compileRequest_eq (hd : Shows S h d r.form) :
    h.compileRequest d = Plan.compileRequest r := by
  obtain ⟨o, ho, hhead, hshown⟩ := hd.request_eq "method"
  unfold Heap.compileRequest Plan.compileRequest
  rw [ho, Logged.lift_ok, pure_bind, hhead]
  dsimp only
  rw [hshown.headers.listed_keyValues, hshown.payloadOf_eq,
    hshown.assertions.assertionsOf_eq]
  rfl

end Request

variable (settings : Settings)

theorem Shows.compileScenario_eq {s : Scenario} (hd : Shows S h d s.form) :
    h.compileScenario settings d = Plan.compileScenario settings s := by
  obtain ⟨o, ho, -, hname, -, -, -, hrequests, -⟩ := hd.entity_eq "requests"
  obtain ⟨items, hiterate, hall⟩ := hrequests.iterate_eq
  unfold Heap.compileScenario Plan.compileScenario
  rw [ho, Logged.lift_ok, pure_bind, hiterate, Logged.lift_ok, pure_bind,
    mapM_eq_of_forall₂ (hall.imp fun _ _ hx => hx.compileRequest_eq), hname.scalar_eq]

/-- Objects that show a test are compiled to the text of its plan, or fail like it, with the same
notices. -/
theorem Shows.toXml_eq {t : Test} (hd : Shows S h d t.form) :
    h.toXml settings d = Plan.toXml settings t := by
  obtain ⟨o, ho, -, -, hname, -, hscenarios, -⟩ := hd.entity_eq "scenario_definition"
  obtain ⟨items, hiterate, hall⟩ := hscenarios.iterate_eq
  unfold Heap.toXml Plan.toXml Plan.compile
  rw [ho, Logged.lift_ok, pure_bind, hiterate, Logged.lift_ok, pure_bind,
    mapM_eq_of_forall₂ (hall.imp fun _ _ hx => hx.compileScenario_eq settings), hname.scalar_eq,
    bind_assoc]

/-! ## Checking -/

/-- A body is read for checking unless its type cannot be looked up. -/
theorem Shows.bodyToCheck_eq {b : Body} (hd : Shows S h d b.form) :
    h.bodyToCheck d = (Lint.bodyTypeFindings b.type).map fun _ => some b.used := by
  obtain ⟨o, ho, htype, hraw, hkvs, -⟩ := hd.entity_eq "type"
  rw [Heap.bodyToCheck, hd.isNull_entity, ho]
  change (h.lookupKey (Heap.part o "type") >>= _) = _
  rw [htype.holds.lookupKey_eq]
  change (discard (Lint.bodyTypeFindings b.type) >>= fun _ => h.bodyOf o b.type _ >>= _) = _
  rw [Shows.bodyOf_eq htype hraw hkvs.walked_keyValues]
  cases Lint.bodyTypeFindings b.type <;> rfl

theorem bodyFindings_used {r r' : Request} (hbody : r'.body = r.body.map Body.used)
    (hmethod : r'.method = r.method) : Lint.bodyFindings r' = Lint.bodyFindings r := by
  unfold Lint.bodyFindings
  rw [hbody, hmethod]
  cases r.body with
  | none => rfl
  | some b =>
    have hkeyValue := b.isKeyValue_used
    rw [Option.map_some]
    dsimp only
    rw [hkeyValue, Body.isValid, Body.isValid, hkeyValue]
    unfold Body.used
    cases b.isKeyValue <;> rfl

theorem payloadFindings_eq_of_not_get {r : Request} (hget : r.isGet = .ok false) :
    Lint.payloadFindings r = (Lint.bodyFindings r).map (Lint.ignoredFindings r ++ ·) := by
  rw [Lint.payloadFindings, hget]
  change (Lint.bodyFindings r >>= _) = _
  cases Lint.bodyFindings r <;> rfl

/-- Of parameters that are not sent, it only matters whether there are any. -/
theorem payloadFindings_congr {r q : Request} (hget : r.isGet = .ok false)
    (hmethod : q.method = r.method) (hparameters : q.parameters.isEmpty = r.parameters.isEmpty)
    (hbody : q.body = r.body.map Body.used) : Lint.payloadFindings q = Lint.payloadFindings r := by
  have hget' : q.isGet = .ok false := by rw [Request.isGet, hmethod, ← Request.isGet, hget]
  rw [payloadFindings_eq_of_not_get hget, payloadFindings_eq_of_not_get hget',
    Lint.ignoredFindings, hparameters, hmethod, bodyFindings_used hbody hmethod,
    Lint.ignoredFindings]

section Request

variable {r : Request} {o : List (String × Datum)}

theorem RequestShown.payloadFindings_eq (ho : RequestShown S h o r) :
    h.payloadFindings o r.head = Lint.payloadFindings r := by
  unfold Heap.payloadFindings
  dsimp only
  rw [ho.isGet_eq, ho.parameters.walked_keyValues, ho.parameters.isTruthy_list]
  cases hget : r.isGet with
  | error fault =>
    rw [Lint.payloadFindings, hget]
    rfl
  | ok get =>
    cases get with
    | true =>
      rw [Lint.payloadFindings_of_get hget]
      exact Lint.payloadFindings_of_get hget
    | false =>
      have hsame (body : Option Body) (hused : body = r.body.map Body.used) :=
        payloadFindings_congr (q := { r.head with
          parameters := if !r.parameters.isEmpty then [{}] else [], body := body }) hget rfl
          (by cases r.parameters <;> rfl) hused
      have hbody := ho.body
      cases hb : r.body with
      | none =>
        rw [hb] at hbody
        rw [hbody.eq_null]
        exact hsame none (by rw [hb]; rfl)
      | some b =>
        rw [hb] at hbody
        change (h.bodyToCheck _ >>= _) = _
        rw [Shows.bodyToCheck_eq hbody]
        cases htype : Lint.bodyTypeFindings b.type with
        | ok found => exact hsame (some b.used) (by rw [hb]; rfl)
        | error fault =>
          rw [payloadFindings_eq_of_not_get hget, Lint.bodyFindings, hb]
          dsimp only
          rw [htype]
          rfl

theorem Shows.regexFinding_eq {a : RegexAssertion} (hd : Shows S h d a.form) (index : Nat) :
    h.regexFinding index d = Lint.regexFinding index a := by
  have hread := hd.regex_eq
  obtain ⟨o, ho, hsubject, -⟩ := hd.entity_eq "is_valid"
  rw [Heap.regexFinding, ho, hread]
  change (if a.isValid then discard (h.lookupKey (Heap.part o "subject")) >>= fun _ => _ else _) = _
  rw [hsubject.holds.lookupKey_eq]
  exact ite_self _

theorem regexFindings_eq {items : List Datum} {as : List RegexAssertion}
    (hall : List.Forall₂ (fun x a => Shows S h x a.form) items as) (index : Nat) :
    h.regexFindings index items = Lint.regexFindings index as := by
  induction hall generalizing index with
  | nil => rfl
  | cons hx _ ih => rw [Heap.regexFindings, Lint.regexFindings, hx.regexFinding_eq, ih]

theorem Shows.textFindings_eq {as : List TextAssertion}
    (hd : Shows S h d (.list (as.map TextAssertion.form))) :
    h.textFindings d = .ok (if as.isEmpty then [] else [.textAssertions as.length]) := by
  obtain ⟨items, hiterate, hall⟩ := hd.iterate_eq
  rw [Heap.textFindings, hd.isTruthy_list, Heap.length, hiterate, ← hall.length_eq]
  cases as <;> rfl

theorem Shows.assertionFindings_eq (hd : Shows S h d (.optional Assertions.form r.assertions)) :
    h.assertionFindings d = Lint.assertionFindings r := by
  unfold Lint.assertionFindings
  cases ha : r.assertions with
  | none =>
    rw [ha] at hd
    rw [hd.eq_null]
    rfl
  | some a =>
    rw [ha] at hd
    obtain ⟨o, ho, htext, hregex, hduration, -⟩ := Shows.entity_eq hd "regex"
    obtain ⟨items, hiterate, hall⟩ := hregex.iterate_eq
    rw [Heap.assertionFindings, Shows.isNull_entity hd, ho]
    change (h.iterate (Heap.part o "regex") >>= _) = _
    rw [hiterate]
    change (h.regexFindings 1 items >>= fun _ => h.textFindings _ >>= fun _ =>
      h.duration _ >>= _) = _
    rw [regexFindings_eq hall, htext.textFindings_eq, hduration.duration_eq]
    rfl

theorem Shows.requestIssues_eq (hd : Shows S h d r.form) (label : Value) :
    h.requestIssues label d = Lint.requestIssues label r := by
  obtain ⟨o, ho, hhead, hshown⟩ := hd.request_eq "url"
  unfold Heap.requestIssues Lint.requestIssues Heap.requestFindings Lint.requestFindings
  rw [ho, Logged.lift_ok, pure_bind, hhead]
  dsimp only
  rw [hshown.headers.walked_keyValues, hshown.payloadFindings_eq,
    hshown.assertions.assertionFindings_eq]
  rfl

end Request

theorem Shows.scenarioIssues_eq {s : Scenario} (hd : Shows S h d s.form) :
    h.scenarioIssues d = Lint.scenarioIssues s := by
  obtain ⟨o, ho, hid, hname, -, -, -, hrequests, -⟩ := hd.entity_eq "requests"
  obtain ⟨items, hiterate, hall⟩ := hrequests.iterate_eq
  unfold Heap.scenarioIssues Lint.scenarioIssues
  rw [ho, Logged.lift_ok, pure_bind]
  dsimp only
  rw [hiterate, Logged.lift_ok, pure_bind, hname.scalar_eq, hid.scalar_eq, hrequests.isTruthy_list,
    mapM_eq_of_forall₂ (hall.imp fun _ _ hx => hx.requestIssues_eq _)]
  cases s.requests <;> rfl

/-- Objects that show a test are checked like it: the same issues are reported. -/
theorem Shows.check_eq {t : Test} (hd : Shows S h d t.form) : h.check d = Lint.check t := by
  obtain ⟨o, ho, -, -, hname, -, hscenarios, -⟩ := hd.entity_eq "scenario_definition"
  obtain ⟨items, hiterate, hall⟩ := hscenarios.iterate_eq
  unfold Heap.check Lint.check
  rw [ho, Logged.lift_ok, pure_bind, hiterate, Logged.lift_ok, pure_bind,
    mapM_eq_of_forall₂ (hall.imp fun _ _ hx => hx.scenarioIssues_eq), hname.scalar_eq]

/-! ## Workspaces -/

namespace Session

variable {w : Workspace}

@[simp]
theorem logged_run {α : Type} (x : Logged α) (w : Workspace) :
    (logged x).run w = (x.outcome.1, { w with notices := w.notices ++ x.outcome.2 }) := by
  unfold logged
  rcases x.outcome with ⟨_ | a, notices⟩ <;> rfl

/-- Without a common sequence, ids are drawn from 1 on. -/
theorem drafted_run_of_fresh {α : Type} (x : Drafting α) (w : Workspace) :
    (drafted false x).run w = ((x.run ⟨w.heap, 1, w.notices⟩).1,
      { w with
        heap := (x.run ⟨w.heap, 1, w.notices⟩).2.heap
        notices := (x.run ⟨w.heap, 1, w.notices⟩).2.notices }) := by
  unfold drafted
  rfl

/-- A mapping of options is no test yet. -/
theorem testAt_run_of_holds {o : Entries} (hd : Holds (fun _ => True) w.heap d (.mapping o)) :
    (testAt d).run w = (drafted false (draft .test d)).run w := by
  obtain ⟨r, entries, rfl, hr, -⟩ := hd.entries
  have hobject : w.heap.object? (.object r) = some (.mapping entries) := hr
  unfold testAt
  rw [run_bind, show heap.run w = (.ok w.heap, w) from rfl]
  dsimp only
  rw [hobject]

theorem compile_run_of_test {w' : Workspace} {t : Datum} (h : (testAt d).run w = (.ok t, w')) :
    (compile d).run w = (logged (w'.heap.toXml w'.settings t)).run w' := by
  unfold compile
  rw [run_bind, h]
  dsimp only
  rw [run_bind, show (get : Session Workspace).run w' = (.ok w', w') from rfl]

theorem compile_run_of_fault {w' : Workspace} {fault : Fault}
    (h : (testAt d).run w = (.error fault, w')) : (compile d).run w = (.error fault, w') := by
  unfold compile
  rw [run_bind, h]

/-- A mapping of options is compiled like the test that its value describes: with the same result
and the same notices behind those that were given before. -/
theorem compile_of_holds {o : Entries} (hd : Holds (fun _ => True) w.heap d (.mapping o)) :
    ∃ r s, (Test.ofOptions (.mapping o)).run ⟨1, w.notices⟩ = (r, s) ∧
      match r with
      | .error fault => ((compile d).run w).1 = .error fault ∧
          ((compile d).run w).2.notices = s.notices
      | .ok t => ((compile d).run w).1 = (Plan.toXml w.settings t).outcome.1 ∧
          ((compile d).run w).2.notices = s.notices ++ (Plan.toXml w.settings t).outcome.2 := by
  have htest := testAt_run_of_holds hd
  rw [drafted_run_of_fresh] at htest
  rcases hrun : (draft .test d).run ⟨w.heap, 1, w.notices⟩ with ⟨result, s⟩
  rw [hrun] at htest
  have hagrees : Agrees (draftTo 5) .test Test.ofOptions Test.form := test_agrees
  obtain ⟨-, r, hvalue, hmatch⟩ :=
    EachRun.of_run (hagrees _ w.heap _ _ (fun _ _ => trivial) hd) hrun rfl
  refine ⟨r, _, hvalue, ?_⟩
  cases hmatch with
  | error fault =>
    rw [compile_run_of_fault htest]
    exact ⟨rfl, rfl⟩
  | ok hshows =>
    rw [compile_run_of_test htest, hshows.toXml_eq, logged_run]
    exact ⟨rfl, rfl⟩

end Session

end Workspace

end LoadPlan
