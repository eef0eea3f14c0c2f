import LoadPlan.Plan.Assembly
import LoadPlan.Proofs.Plan.Shape
import Mathlib.Data.List.Forall2

/-!
# Parts and their trees

A part that is made by hand shows exactly what was done with it, however parts are nested and in
whatever order the steps were taken. A test element takes two places: its own node, which holds what
it was made with and then one node for each property that was added, and the tree behind it, in
which each part that was put takes two places again. So in all of these trees a node and the tree of
that node alternate. The root of a whole document has no properties of its own: in the place of a
property it shows its attributes and what was put.
-/

namespace LoadPlan.Plan

open Xml (Node)

/-! ## What steps add -/

/-- The description of an element with a tag, attributes and a text. -/
def Sketch.element (tag : String) (attributes : List (String × Value)) (text : Value)
    (steps : List Step) : Sketch :=
  .mk "Element"
    [("tag", .text tag), ("attributes", .list (attributes.map fun a => .list [.text a.1, a.2])),
     ("text", text)] steps

/-- The parts that a step adds as properties, in order. -/
def Step.added : Step → List Sketch
  | .add part => [part]
  | .addRequestArguments part => [part]
  | .addRequestBody part raw =>
    [.element "boolProp" [("name", .text "HTTPSampler.postBodyRaw")]
      (if raw.isNull then .bool false else raw) [], part]
  | .property tag name value default =>
    [.element tag [("name", name)] (if value.isNull then default else value) []]
  | .collection name steps => [.element "collectionProp" [("name", name)] .null steps]
  | .element name type attributes steps =>
    [.element "elementProp" ([("name", name), ("elementType", type)] ++ attributes) .null steps]
  | _ => []

/-- The part that a step puts to those that are owned. -/
def Step.put? : Step → Option Sketch
  | .put part => some part
  | .putRequestHeader part => some part
  | .putResponseAssertion part => some part
  | .putDurationAssertion name duration =>
    some (.mk "DurationAssertion" [("testname", name), ("duration", duration)] [])
  | _ => none

/-! ## What a description shows -/

/-- The content of a tree: of each part its own node, and behind it the tree of what it owns. -/
def pairs (parts : List (Node × List Node)) : List Node :=
  parts.flatMap fun p => [p.1, hashTree p.2]

/-- An element with more content at the end. -/
def withContent : Node → List Node → Node
  | .element tag attributes content, more => .element tag attributes (content ++ more)
  | .text s, _ => .text s

/-- The node of a part and the content of the tree behind it, when properties and owned parts come
to what it was made with. The root of a document has one tree inside it and no properties. -/
def Part.shown (made : Part) (properties : List Node) (owned : List (Node × List Node)) :
    Node × List Node :=
  match made with
  | .plain e => (withContent e.toNode properties, [])
  | .test t => (withContent t.element.toNode properties, pairs owned)
  | .sampler t => (withContent t.element.toNode properties, pairs owned)
  | .document d => (.element "jmeterTestPlan" d.attributes [hashTree (pairs owned)], [])

/-- The node that a description shows and the content of the tree behind it: each part that a step
adds is one property, and each part that a step puts is one owned part, in the order of the
steps. -/
inductive Sketch.Shows : Sketch → Node × List Node → Prop
  | mk {name : String} {kind : PartKind} {arguments : List (String × Value)} {steps : List Step}
      {made : Part} {properties owned : List (Node × List Node)} :
      PartKind.ofName? name = some kind → makePart kind arguments = .ok made →
      List.Forall₂ Sketch.Shows (steps.flatMap Step.added) properties →
      List.Forall₂ Sketch.Shows (steps.filterMap Step.put?) owned →
      Sketch.Shows (.mk name arguments steps) (made.shown (properties.map (·.1)) owned)

/-- A description shows one node and one tree, no others. -/
theorem Sketch.Shows.unique {s : Sketch} {n : Node × List Node} (h : s.Shows n) :
    ∀ {n' : Node × List Node}, s.Shows n' → n = n' := by
  -- The parts of a description stand in lists, so the second statement is that of the lists.
  refine @Sketch.Shows.rec (fun s n _ => ∀ {n' : Node × List Node}, s.Shows n' → n = n')
    (fun ss ns _ => ∀ {ns' : List (Node × List Node)}, List.Forall₂ Sketch.Shows ss ns' → ns = ns')
    ?mk ?nil ?cons s n h
  case mk =>
    intro name kind arguments steps made properties owned hkind hmade _ _ hadded hput n' h'
    cases h' with
    | mk hkind' hmade' hadded' hput' =>
      obtain rfl := Option.some.inj (hkind.symm.trans hkind')
      obtain rfl := Except.ok.inj (hmade.symm.trans hmade')
      rw [hadded hadded', hput hput']
  case nil =>
    intro ns' h'
    cases h'
    rfl
  case cons =>
    intro s n ss ns _ _ hhead htail ns' h'
    cases h' with
    | cons hhead' htail' => rw [hhead hhead', htail htail']

/-! ## What parts show -/

/-- The node of a part and the content of the tree behind it. -/
def Part.nodes : Part → Node × List Node
  | .plain e => (e.toNode, [])
  | .test t => (t.element.toNode, ownedNodes t.owned)
  | .sampler t => (t.element.toNode, ownedNodes t.owned)
  | .document d => ((Part.document d).asElement.toNode, [])

/-- A part with properties and owned parts added. -/
def Part.grow (p : Part) (properties : List Element) (owned : List TestElement) : Part :=
  match p with
  | .plain e => .plain (e.addAll properties)
  | .test t => .test ⟨t.element.addAll properties, t.owned ++ owned⟩
  | .sampler t => .sampler ⟨t.element.addAll properties, t.owned ++ owned⟩
  | .document d => .document { d with elements := d.elements ++ owned }

/-- A part that owns nothing yet. -/
def Part.IsBare : Part → Prop
  | .plain _ => True
  | .test t => t.owned = []
  | .sampler t => t.owned = []
  | .document d => d.elements = []

@[simp]
theorem Element.addAll_nil (e : Element) : e.addAll [] = e := by
  obtain ⟨tag, attributes, text, properties⟩ := e
  simp [Element.addAll]

@[simp]
theorem Element.addAll_addAll (e : Element) (es es' : List Element) :
    (e.addAll es).addAll es' = e.addAll (es ++ es') := by
  simp [Element.addAll]

namespace Part

@[simp]
theorem nodes_fst (p : Part) : p.nodes.1 = p.asElement.toNode := by
  cases p <;> rfl

theorem nodes_of_asTest {p : Part} {t : TestElement} (h : p.asTest = .ok t) :
    p.nodes = (t.element.toNode, ownedNodes t.owned) := by
  cases p with
  | test | sampler =>
    obtain rfl := Except.ok.inj h
    rfl
  | _ => cases h

theorem shown_of_asTest {p : Part} {t : TestElement} (h : p.asTest = .ok t)
    (properties : List Node) (owned : List (Node × List Node)) :
    p.shown properties owned = (withContent t.element.toNode properties, pairs owned) := by
  cases p with
  | test | sampler =>
    obtain rfl := Except.ok.inj h
    rfl
  | _ => cases h

theorem grow_nil (p : Part) : p.grow [] [] = p := by
  cases p with
  | test t | sampler t =>
    obtain ⟨element, owned⟩ := t
    simp [grow]
  | _ => simp [grow]

@[simp]
theorem grow_grow (p : Part) (es es' : List Element) (ts ts' : List TestElement) :
    (p.grow es ts).grow es' ts' = p.grow (es ++ es') (ts ++ ts') := by
  cases p <;> simp [grow]

theorem add_eq_grow (p : Part) (e : Element) : p.add e = p.grow [e] [] := by
  cases p <;> simp [add, grow, TestElement.add, Element.add, Element.addAll]

theorem grow_of_put {p q : Part} {t : TestElement} (h : p.put t = .ok q) : q = p.grow [] [t] := by
  cases p with
  | plain => cases h
  | _ =>
    obtain rfl := Except.ok.inj h
    simp [grow, TestElement.put]

end Part

theorem toNode_addAll (e : Element) (es : List Element) :
    (e.addAll es).toNode = withContent e.toNode (es.map Element.toNode) := by
  obtain ⟨tag, attributes, text, properties⟩ := e
  simp [Element.addAll, Element.toNode, withContent, nodesOf_eq_map]

theorem toNodes_eq (t : TestElement) :
    t.toNodes = [t.element.toNode, hashTree (ownedNodes t.owned)] := by
  obtain ⟨element, owned⟩ := t
  rw [TestElement.toNodes]

theorem ownedNodes_eq_pairs (ts : List TestElement) :
    ownedNodes ts = pairs (ts.map fun t => (t.element.toNode, ownedNodes t.owned)) := by
  rw [ownedNodes_eq_flatMap, pairs, List.flatMap_map]
  exact congrArg (ts.flatMap ·) (funext toNodes_eq)

mutual

/-- A test element as elements shows the same nodes. -/
theorem nodesOf_flatten : ∀ t : TestElement, nodesOf (Part.flatten t) = t.toNodes
  | ⟨element, owned⟩ => by
    simp [Part.flatten, TestElement.toNodes, nodesOf, Element.toNode, textContent, hashTree,
      nodesOf_flattenAll owned]

theorem nodesOf_flattenAll : ∀ ts : List TestElement, nodesOf (Part.flattenAll ts) = ownedNodes ts
  | [] => rfl
  | t :: ts => by
    rw [Part.flattenAll, ownedNodes, ← nodesOf_flatten t, ← nodesOf_flattenAll ts]
    simp [nodesOf_eq_map]

end

@[simp]
theorem toNode_document (d : Document) : (Part.document d).asElement.toNode =
    .element "jmeterTestPlan" d.attributes [hashTree (ownedNodes d.elements)] := by
  simp [Part.asElement, Element.toNode, nodesOf, textContent, hashTree, nodesOf_flattenAll]

/-- What is added to a part that owns nothing yet is what it shows besides what it was made with. -/
theorem Part.nodes_grow {made : Part} (h : made.IsBare) (es : List Element)
    (ts : List TestElement) : (made.grow es ts).nodes =
      made.shown (es.map Element.toNode)
        (ts.map fun t => (t.element.toNode, ownedNodes t.owned)) := by
  cases made with
  | plain e => exact Prod.ext (toNode_addAll e es) rfl
  | test t | sampler t =>
    have howned : t.owned ++ ts = ts := by rw [show t.owned = [] from h, List.nil_append]
    refine Prod.ext (toNode_addAll t.element es) ?_
    exact (congrArg ownedNodes howned).trans (ownedNodes_eq_pairs ts)
  | document d =>
    have howned : d.elements ++ ts = ts := by rw [show d.elements = [] from h, List.nil_append]
    refine Prod.ext ((toNode_document _).trans ?_) rfl
    dsimp only [shown]
    rw [howned, ownedNodes_eq_pairs]

theorem owned_of_sampler {name domain port protocol path method : Value} {t : TestElement}
    (h : sampler name domain port protocol path method = .ok t) : t.owned = [] := by
  obtain ⟨path, -, h⟩ := Except.bind_eq_ok.mp h
  obtain rfl := Except.ok.inj h
  rfl

theorem isBare_of_makeAssertion {subject : Option Subject} {arguments : List (String × Value)}
    {made : Part} (h : makeAssertion subject arguments = .ok made) : made.IsBare := by
  obtain ⟨name, -, h⟩ := Except.bind_eq_ok.mp h
  obtain ⟨type, -, h⟩ := Except.bind_eq_ok.mp h
  obtain ⟨value, -, h⟩ := Except.bind_eq_ok.mp h
  obtain ⟨number, -, h⟩ := Except.bind_eq_ok.mp h
  obtain rfl := Except.ok.inj h
  rfl

/-- Parts are made without owned ones. -/
theorem isBare_of_makePart {kind : PartKind} {arguments : List (String × Value)} {made : Part}
    (h : makePart kind arguments = .ok made) : made.IsBare := by
  rw [makePart] at h
  split at h
  · cases h
  · cases kind with
    | element =>
      obtain ⟨e, -, h⟩ := Except.bind_eq_ok.mp h
      obtain rfl := Except.ok.inj h
      trivial
    | testElement =>
      obtain ⟨e, -, h⟩ := Except.bind_eq_ok.mp h
      obtain rfl := Except.ok.inj h
      rfl
    | testPlan | threadGroup | document =>
      obtain rfl := Except.ok.inj h
      rfl
    | arguments =>
      obtain ⟨v, -, h⟩ := Except.bind_eq_ok.mp h
      obtain ⟨kvs, -, h⟩ := Except.bind_eq_ok.mp h
      obtain rfl := Except.ok.inj h
      trivial
    | sampler =>
      obtain ⟨t, ht, h⟩ := Except.bind_eq_ok.mp h
      obtain rfl := Except.ok.inj h
      exact owned_of_sampler ht
    | headers | duration | listener =>
      obtain ⟨v, -, h⟩ := Except.bind_eq_ok.mp h
      obtain ⟨w, -, h⟩ := Except.bind_eq_ok.mp h
      obtain rfl := Except.ok.inj h
      rfl
    | response subject => exact isBare_of_makeAssertion h

theorem makePart_element (tag : String) (attributes : List (String × Value)) (text : Value) :
    makePart .element
      [("tag", .text tag), ("attributes", .list (attributes.map fun a => .list [.text a.1, a.2])),
       ("text", text)] = .ok (.plain (.make tag attributes text)) := by
  have hattributes : (attributes.map fun a => Value.list [.text a.1, a.2]).mapM attributeOf =
      .ok attributes := by
    induction attributes with
    | nil => rfl
    | cons a attributes ih =>
      rw [List.map_cons, List.mapM_cons, ih]
      rfl
  have helement : makeElement
      [("tag", .text tag), ("attributes", .list (attributes.map fun a => .list [.text a.1, a.2])),
       ("text", text)] = .ok (.make tag attributes text) := by
    change (attributes.map fun a => Value.list [.text a.1, a.2]).mapM attributeOf >>= _ = _
    rw [hattributes]
    rfl
  change makeElement _ >>= _ = _
  rw [helement]
  rfl

/-! ## What steps do -/

/-- A description that shows an element as a property; what the element owns is not seen there. -/
def Sketch.ShowsElement (s : Sketch) (e : Element) : Prop :=
  ∃ content, s.Shows (e.toNode, content)

/-- A description that shows a test element as an owned part. -/
def Sketch.ShowsTest (s : Sketch) (t : TestElement) : Prop :=
  s.Shows (t.element.toNode, ownedNodes t.owned)

theorem exists_shows_of_elements {ss : List Sketch} {es : List Element}
    (h : List.Forall₂ Sketch.ShowsElement ss es) : ∃ shown : List (Node × List Node),
      List.Forall₂ Sketch.Shows ss shown ∧ es.map Element.toNode = shown.map (·.1) := by
  induction h with
  | nil => exact ⟨[], .nil, rfl⟩
  | cons hhead _ ih =>
    obtain ⟨content, hcontent⟩ := hhead
    obtain ⟨shown, hshown, hnodes⟩ := ih
    exact ⟨_ :: shown, .cons hcontent hshown, congrArg (_ :: ·) hnodes⟩

/-- One part comes from another by properties and owned parts, which descriptions show in order. -/
def Part.Grows (p q : Part) (added put : List Sketch) : Prop :=
  ∃ es ts, q = p.grow es ts ∧ List.Forall₂ Sketch.ShowsElement added es ∧
    List.Forall₂ Sketch.ShowsTest put ts

namespace Part.Grows

theorem refl (p : Part) : p.Grows p [] [] :=
  ⟨[], [], p.grow_nil.symm, .nil, .nil⟩

theorem trans {p q r : Part} {added added' put put' : List Sketch} (h : p.Grows q added put)
    (h' : q.Grows r added' put') : p.Grows r (added ++ added') (put ++ put') := by
  obtain ⟨es, ts, rfl, hes, hts⟩ := h
  obtain ⟨es', ts', rfl, hes', hts'⟩ := h'
  exact ⟨es ++ es', ts ++ ts', p.grow_grow es es' ts ts', List.rel_append hes hes',
    List.rel_append hts hts'⟩

theorem add {s : Sketch} {e : Element} (h : s.ShowsElement e) (p : Part) :
    p.Grows (p.add e) [s] [] :=
  ⟨[e], [], p.add_eq_grow e, .cons h .nil, .nil⟩

theorem put {s : Sketch} {t : TestElement} {p q : Part} (h : s.ShowsTest t)
    (hput : p.put t = .ok q) : p.Grows q [] [s] :=
  ⟨[], [t], grow_of_put hput, .nil, .cons h .nil⟩

/-- What comes to a part that owns nothing yet is what it shows besides what it was made with. -/
theorem exists_shown {made p : Part} {added put : List Sketch} (hbare : made.IsBare)
    (h : made.Grows p added put) : ∃ properties owned : List (Node × List Node),
      p.nodes = made.shown (properties.map (·.1)) owned ∧
      List.Forall₂ Sketch.Shows added properties ∧ List.Forall₂ Sketch.Shows put owned := by
  obtain ⟨es, ts, rfl, hes, hts⟩ := h
  obtain ⟨properties, hproperties, hnodes⟩ := exists_shows_of_elements hes
  have hgrow := nodes_grow hbare es ts
  rw [hnodes] at hgrow
  exact ⟨properties, _, hgrow, hproperties, List.forall₂_map_right_iff.mpr hts⟩

/-- What is made, with what the steps add, shows what is described. -/
theorem shows {name : String} {kind : PartKind} {arguments : List (String × Value)}
    {steps : List Step} {made p : Part} (hkind : PartKind.ofName? name = some kind)
    (hmade : makePart kind arguments = .ok made)
    (h : made.Grows p (steps.flatMap Step.added) (steps.filterMap Step.put?)) :
    (Sketch.mk name arguments steps).Shows p.nodes := by
  obtain ⟨properties, owned, hnodes, hproperties, howned⟩ :=
    h.exists_shown (isBare_of_makePart hmade)
  rw [hnodes]
  exact .mk hkind hmade hproperties howned

/-- A part that can be owned was one from the start. -/
theorem exists_asTest {made p : Part} {added put : List Sketch} {t : TestElement}
    (h : made.Grows p added put) (ht : p.asTest = .ok t) : ∃ m, made.asTest = .ok m := by
  obtain ⟨es, ts, rfl, -, -⟩ := h
  cases made with
  | test m | sampler m => exact ⟨m, rfl⟩
  | _ => cases ht

end Part.Grows

namespace Sketch

theorem Shows.showsElement {s : Sketch} {p : Part} (h : s.Shows p.nodes) :
    s.ShowsElement p.asElement := by
  rw [ShowsElement, ← p.nodes_fst]
  exact ⟨p.nodes.2, h⟩

theorem Shows.showsTest {s : Sketch} {p : Part} {t : TestElement} (h : s.Shows p.nodes)
    (ht : p.asTest = .ok t) : s.ShowsTest t := by
  rwa [Part.nodes_of_asTest ht] at h

/-- The element that a step makes for itself, with what its own steps add. -/
theorem shows_element {tag : String} {attributes : List (String × Value)} {text : Value}
    {steps : List Step} {p : Part}
    (h : Part.Grows (.plain (.make tag attributes text)) p (steps.flatMap Step.added)
      (steps.filterMap Step.put?)) :
    (element tag attributes text steps).Shows p.nodes :=
  have hkind : PartKind.ofName? "Element" = some .element := rfl
  h.shows hkind (makePart_element tag attributes text)

theorem showsElement_make (tag : String) (attributes : List (String × Value)) (text : Value) :
    (element tag attributes text []).ShowsElement (.make tag attributes text) := by
  have hshows : (element tag attributes text []).Shows
      (Part.nodes (.plain (.make tag attributes text))) := shows_element (.refl _)
  exact hshows.showsElement

theorem showsTest_duration (name duration : Value) :
    (mk "DurationAssertion" [("testname", name), ("duration", duration)] []).ShowsTest
      (durationAssertion name duration) := by
  have hkind : PartKind.ofName? "DurationAssertion" = some .duration := rfl
  have hmade : makePart .duration [("testname", name), ("duration", duration)] =
      .ok (.test (durationAssertion name duration)) := rfl
  have hshows : Shows (mk "DurationAssertion" _ []) _ := (Part.Grows.refl _).shows hkind hmade
  exact hshows.showsTest rfl

end Sketch

/-- A part that is built is made, and then takes its steps. -/
theorem Sketch.exists_made_of_build {name : String} {arguments : List (String × Value)}
    {steps : List Step} {p : Part} (h : (Sketch.mk name arguments steps).build = .ok p) :
    ∃ kind made, PartKind.ofName? name = some kind ∧ makePart kind arguments = .ok made ∧
      runAll steps made = .ok p := by
  rw [Sketch.build] at h
  cases hkind : PartKind.ofName? name with
  | none =>
    rw [hkind] at h
    cases h
  | some kind =>
    rw [hkind] at h
    obtain ⟨made, hmade, h⟩ := Except.bind_eq_ok.mp h
    exact ⟨kind, made, rfl, hmade, h⟩

mutual

/-- A part that is built shows what is described. -/
theorem Sketch.shows_of_build : ∀ {s : Sketch} {p : Part}, s.build = .ok p → s.Shows p.nodes
  | .mk name arguments steps, p, h => by
    obtain ⟨kind, made, hkind, hmade, hsteps⟩ := Sketch.exists_made_of_build h
    exact (runAll_grows hsteps).shows hkind hmade

theorem Step.run_grows : ∀ {step : Step} {p q : Part}, step.run p = .ok q →
    p.Grows q step.added step.put?.toList
  | .add s, p, q, h => by
    rw [Step.run] at h
    obtain ⟨part, hpart, h⟩ := Except.bind_eq_ok.mp h
    obtain rfl := Except.ok.inj h
    exact .add (Sketch.shows_of_build hpart).showsElement p
  | .put s, p, q, h => by
    rw [Step.run] at h
    obtain ⟨part, hpart, h⟩ := Except.bind_eq_ok.mp h
    obtain ⟨t, ht, h⟩ := Except.bind_eq_ok.mp h
    exact .put ((Sketch.shows_of_build hpart).showsTest ht) h
  | .addRequestArguments s, p, q, h => by
    rw [Step.run] at h
    obtain ⟨part, hpart, h⟩ := Except.bind_eq_ok.mp h
    obtain ⟨-, -, h⟩ := Except.bind_eq_ok.mp h
    obtain rfl := Except.ok.inj h
    exact .add (Sketch.shows_of_build hpart).showsElement p
  | .addRequestBody s raw, p, q, h => by
    rw [Step.run] at h
    obtain ⟨part, hpart, h⟩ := Except.bind_eq_ok.mp h
    obtain ⟨-, -, h⟩ := Except.bind_eq_ok.mp h
    obtain rfl := Except.ok.inj h
    have hraw : p.Grows (p.add (rawBodyProp raw)) _ [] := .add (Sketch.showsElement_make _ _ _) p
    exact hraw.trans (.add (Sketch.shows_of_build hpart).showsElement _)
  | .putRequestHeader s, p, q, h | .putResponseAssertion s, p, q, h => by
    rw [Step.run] at h
    obtain ⟨part, hpart, h⟩ := Except.bind_eq_ok.mp h
    obtain ⟨-, -, h⟩ := Except.bind_eq_ok.mp h
    obtain ⟨t, ht, h⟩ := Except.bind_eq_ok.mp h
    exact .put ((Sketch.shows_of_build hpart).showsTest ht) h
  | .putDurationAssertion name duration, p, q, h => by
    rw [Step.run] at h
    obtain ⟨-, -, h⟩ := Except.bind_eq_ok.mp h
    exact .put (Sketch.showsTest_duration name duration) h
  | .property tag name value default, p, q, h => by
    rw [Step.run] at h
    obtain rfl := Except.ok.inj h
    exact .add (Sketch.showsElement_make _ _ _) p
  | .collection name steps, p, q, h => by
    rw [Step.run] at h
    obtain ⟨inner, hinner, h⟩ := Except.bind_eq_ok.mp h
    obtain rfl := Except.ok.inj h
    exact .add (Sketch.shows_element (runAll_grows hinner)).showsElement p
  | .element name type attributes steps, p, q, h => by
    rw [Step.run] at h
    split at h
    · cases h
    · obtain ⟨inner, hinner, h⟩ := Except.bind_eq_ok.mp h
      obtain rfl := Except.ok.inj h
      exact .add (Sketch.shows_element (runAll_grows hinner)).showsElement p
  | .other name, p, q, h => by
    rw [Step.run] at h
    cases h

theorem runAll_grows : ∀ {steps : List Step} {p q : Part}, runAll steps p = .ok q →
    p.Grows q (steps.flatMap Step.added) (steps.filterMap Step.put?)
  | [], p, q, h => by
    rw [runAll] at h
    obtain rfl := Except.ok.inj h
    exact .refl p
  | step :: steps, p, q, h => by
    rw [runAll] at h
    obtain ⟨next, hnext, h⟩ := Except.bind_eq_ok.mp h
    have hput : (step :: steps).filterMap Step.put? =
        step.put?.toList ++ steps.filterMap Step.put? := by
      rw [List.filterMap_cons]
      cases step.put? <;> rfl
    rw [hput, List.flatMap_cons]
    exact (Step.run_grows hnext).trans (runAll_grows h)

end

/-- A test element that is made by hand takes exactly two places: its node, which holds what it was
made with and then the node of each part that was added, and one tree, in which the node of each
part that was put and the tree of that part alternate. What the added and the put parts show is
again what was done with them, all the way down; only a document among them has no properties. -/
theorem Sketch.toNodes_of_build {name : String} {arguments : List (String × Value)}
    {steps : List Step} {p : Part} {t : TestElement}
    (hbuild : (Sketch.mk name arguments steps).build = .ok p) (ht : p.asTest = .ok t) :
    ∃ (kind : PartKind) (part : Part) (made : TestElement)
      (properties owned : List (Node × List Node)),
      PartKind.ofName? name = some kind ∧ makePart kind arguments = .ok part ∧
      part.asTest = .ok made ∧
      t.toNodes = [withContent made.element.toNode (properties.map (·.1)),
        hashTree (owned.flatMap fun o => [o.1, hashTree o.2])] ∧
      List.Forall₂ Sketch.Shows (steps.flatMap Step.added) properties ∧
      List.Forall₂ Sketch.Shows (steps.filterMap Step.put?) owned := by
  obtain ⟨kind, part, hkind, hpart, hsteps⟩ := Sketch.exists_made_of_build hbuild
  have hgrows := runAll_grows hsteps
  obtain ⟨made, hmade⟩ := hgrows.exists_asTest ht
  obtain ⟨properties, owned, hnodes, hproperties, howned⟩ :=
    hgrows.exists_shown (isBare_of_makePart hpart)
  rw [Part.nodes_of_asTest ht, Part.shown_of_asTest hmade] at hnodes
  obtain ⟨hnode, htree⟩ := Prod.mk.inj hnodes
  refine ⟨kind, part, made, properties, owned, hkind, hpart, hmade, ?_, hproperties, howned⟩
  rw [toNodes_eq, hnode, htree, pairs]

/-- Steps that put an element with headers and a collection of its own, add a property, and put a
listener. -/
def nestedSteps : List Step :=
  [.put (.mk "TestElement" [("tag", .text "Inner")]
    [.put (.mk "HeaderManager" [("headers", .list [])] []),
     .collection (.text "items") [.property "stringProp" (.text "a") (.int 1) .null]]),
   .property "boolProp" (.text "b") .null (.bool true),
   .put (.mk "BackendListener" [("testname", .text "l"), ("classname", .text "c")] [])]

theorem Sketch.toNodes_of_build_nestedSteps : ∃ (p : Part) (t : TestElement),
    (Sketch.mk "TestElement" [("tag", .text "Outer")] nestedSteps).build = .ok p ∧
    p.asTest = .ok t ∧
    ∃ (kind : PartKind) (part : Part) (made : TestElement)
      (properties owned : List (Node × List Node)),
      PartKind.ofName? "TestElement" = some kind ∧
      makePart kind [("tag", .text "Outer")] = .ok part ∧ part.asTest = .ok made ∧
      t.toNodes = [withContent made.element.toNode (properties.map (·.1)),
        hashTree (owned.flatMap fun o => [o.1, hashTree o.2])] ∧
      List.Forall₂ Sketch.Shows (nestedSteps.flatMap Step.added) properties ∧
      List.Forall₂ Sketch.Shows (nestedSteps.filterMap Step.put?) owned := by
  have hbuild : (Sketch.mk "TestElement" [("tag", .text "Outer")] nestedSteps).build =
      .ok (.test _) := rfl
  exact ⟨_, _, hbuild, rfl, Sketch.toNodes_of_build hbuild rfl⟩

/-- An element that a document with a property of its own is added to. -/
def documentInside : Sketch :=
  .mk "TestElement" [("tag", .text "a")]
    [.add (.mk "JMeterTestPlan" [] [.add (.mk "Element" [("tag", .text "x")] [])])]

/-- A document among the properties does not show the one that was added to it. -/
theorem Sketch.documentInside_not_added : ∃ (p : Part) (t : TestElement),
    documentInside.build = .ok p ∧ p.asTest = .ok t ∧
    t.toNodes = [.element "a" [] [.element "jmeterTestPlan"
      [("version", "1.2"), ("properties", "5.0"), ("jmeter", "5.2.1")] [hashTree []]],
      hashTree []] ∧
    Node.withTagIn "x" t.toNodes = [] := by
  have hbuild : documentInside.build = .ok (.test _) := rfl
  exact ⟨_, _, hbuild, rfl, rfl, rfl⟩

end LoadPlan.Plan
