import LoadPlan.Proofs.Plan.Shape
import LoadPlan.Proofs.Url.Parts

/-!
# Paths of samplers

The address of a request has the ampersands of its query written as entities, and a sampler decodes
the entities of the whole path. On the query the two cancel, whatever the path before it ends with,
since no entity has a question mark in it. The path itself was not written with entities, so what
looks like one in it is decoded too.
-/

namespace LoadPlan.Plan

open Address (escapeAmpersands pathOf pathText)
open Xml (isChar)

/-! ## Entities -/

/-- The entities that are decoded in a path. -/
def pathEntities : List (List Char) :=
  ["&gt;".toList, "&lt;".toList, "&amp;".toList]

/-- Characters in which no entity occurs. -/
def HasNoEntity (cs : List Char) : Prop :=
  ∀ entity ∈ pathEntities, ¬ entity <:+: cs

instance (cs : List Char) : Decidable (HasNoEntity cs) :=
  inferInstanceAs (Decidable (∀ entity ∈ pathEntities, ¬ entity <:+: cs))

/-- A character at which no entity starts is kept. -/
theorem decodeEntities_cons {c : Char} {cs : List Char}
    (h : ∀ entity ∈ pathEntities, ¬ entity <+: c :: cs) :
    decodeEntities (c :: cs) = c :: decodeEntities cs := by
  rw [decodeEntities]
  · rintro rest rfl rfl
    exact h "&gt;".toList (.head _) ⟨rest, rfl⟩
  · rintro rest rfl rfl
    exact h "&lt;".toList (.tail _ (.head _)) ⟨rest, rfl⟩
  · rintro rest rfl rfl
    exact h "&amp;".toList (.tail _ (.tail _ (.head _))) ⟨rest, rfl⟩

theorem decodeEntities_cons_of_ne {c : Char} (hc : c ≠ '&') (cs : List Char) :
    decodeEntities (c :: cs) = c :: decodeEntities cs := by
  apply decodeEntities_cons
  intro entity hentity hprefix
  simp only [pathEntities, List.mem_cons, List.not_mem_nil, or_false] at hentity
  rcases hentity with rfl | rfl | rfl <;> exact hc (List.cons_prefix_cons.mp hprefix).1.symm

/-- The characters at a place where none of the patterns of an entity match start with none. -/
theorem not_prefix_of_not_matched {c : Char} {cs : List Char}
    (hgt : ∀ rest, c = '&' → cs = 'g' :: 't' :: ';' :: rest → False)
    (hlt : ∀ rest, c = '&' → cs = 'l' :: 't' :: ';' :: rest → False)
    (hamp : ∀ rest, c = '&' → cs = 'a' :: 'm' :: 'p' :: ';' :: rest → False) :
    ∀ entity ∈ pathEntities, ¬ entity <+: c :: cs := by
  rintro entity hentity ⟨rest, hrest⟩
  simp only [pathEntities, List.mem_cons, List.not_mem_nil, or_false] at hentity
  rcases hentity with rfl | rfl | rfl
  · obtain ⟨rfl, rfl⟩ := List.cons.inj hrest
    exact hgt rest rfl rfl
  · obtain ⟨rfl, rfl⟩ := List.cons.inj hrest
    exact hlt rest rfl rfl
  · obtain ⟨rfl, rfl⟩ := List.cons.inj hrest
    exact hamp rest rfl rfl

theorem prefix_of_prefix_append {mark : Char} {es cs ds : List Char} (hmark : mark ∉ es)
    (h : es <+: cs ++ mark :: ds) : es <+: cs := by
  induction cs generalizing es with
  | nil =>
    cases es with
    | nil => exact List.nil_prefix
    | cons e es =>
      obtain ⟨rfl, -⟩ := List.cons_prefix_cons.mp h
      exact absurd List.mem_cons_self hmark
  | cons c cs ih =>
    cases es with
    | nil => exact List.nil_prefix
    | cons e es =>
      obtain ⟨rfl, hrest⟩ := List.cons_prefix_cons.mp h
      exact List.cons_prefix_cons.mpr
        ⟨rfl, ih (fun hmem => hmark (List.mem_cons_of_mem e hmem)) hrest⟩

/-- Nothing is decoded across a question mark. -/
theorem decodeEntities_append_question (cs ds : List Char) :
    decodeEntities (cs ++ '?' :: ds) = decodeEntities cs ++ '?' :: decodeEntities ds := by
  fun_induction decodeEntities cs with
  | case1 rest ih => simp [decodeEntities, ih]
  | case2 rest ih => simp [decodeEntities, ih]
  | case3 rest ih => simp [decodeEntities, ih]
  | case4 c rest hgt hlt hamp ih =>
    have hnone := not_prefix_of_not_matched hgt hlt hamp
    have hquestion : ∀ entity ∈ pathEntities, '?' ∉ entity := by decide
    rw [List.cons_append, List.cons_append, decodeEntities_cons, ih]
    intro entity hentity hprefix
    rw [← List.cons_append] at hprefix
    exact hnone entity hentity (prefix_of_prefix_append (hquestion entity hentity) hprefix)
  | case5 => exact decodeEntities_cons_of_ne (by decide) ds

/-- Decoding gives characters back whose ampersands were written as entities. -/
theorem decodeEntities_escapeAmpersands (cs : List Char) :
    decodeEntities (escapeAmpersands cs) = cs := by
  induction cs with
  | nil => rfl
  | cons c cs ih =>
    rw [escapeAmpersands, List.flatMap_cons]
    by_cases hc : c = '&'
    · subst hc
      rw [if_pos rfl]
      exact congrArg ('&' :: ·) ih
    · rw [if_neg hc, List.singleton_append, decodeEntities_cons_of_ne hc]
      exact congrArg (c :: ·) ih

theorem length_decodeEntities_le (cs : List Char) : (decodeEntities cs).length ≤ cs.length := by
  fun_induction decodeEntities cs <;> simp only [List.length_cons, List.length_nil] <;> omega

/-- What starts with an entity is changed. -/
theorem changed_of_entity {entity : List Char} (h : entity ∈ pathEntities) (rest : List Char) :
    decodeEntities (entity ++ rest) ≠ entity ++ rest ∧ ¬ HasNoEntity (entity ++ rest) := by
  constructor
  · have hle := length_decodeEntities_le rest
    intro heq
    have hlength := congrArg List.length heq
    simp only [pathEntities, List.mem_cons, List.not_mem_nil, or_false] at h
    rcases h with rfl | rfl | rfl <;>
    · simp [decodeEntities] at hlength
      omega
  · intro hnone
    exact hnone entity h (List.prefix_append entity rest).isInfix

/-- Decoding changes characters exactly if an entity occurs in them. -/
theorem decodeEntities_eq_self (cs : List Char) : decodeEntities cs = cs ↔ HasNoEntity cs := by
  fun_induction decodeEntities cs with
  | case1 rest ih =>
    have hmem : "&gt;".toList ∈ pathEntities := by decide
    obtain ⟨hchanged, hentity⟩ := changed_of_entity hmem rest
    exact iff_of_false hchanged hentity
  | case2 rest ih =>
    have hmem : "&lt;".toList ∈ pathEntities := by decide
    obtain ⟨hchanged, hentity⟩ := changed_of_entity hmem rest
    exact iff_of_false hchanged hentity
  | case3 rest ih =>
    have hmem : "&amp;".toList ∈ pathEntities := by decide
    obtain ⟨hchanged, hentity⟩ := changed_of_entity hmem rest
    exact iff_of_false hchanged hentity
  | case4 c rest hgt hlt hamp ih =>
    have hnone := not_prefix_of_not_matched hgt hlt hamp
    rw [List.cons.injEq, ih]
    constructor
    · rintro ⟨-, hrest⟩ entity hentity hinfix
      obtain hprefix | hinfix := List.infix_cons_iff.mp hinfix
      · exact hnone entity hentity hprefix
      · exact hrest entity hentity hinfix
    · intro h
      refine ⟨rfl, fun entity hentity hinfix => ?_⟩
      exact h entity hentity (List.infix_cons_iff.mpr (.inr hinfix))
  | case5 => decide

/-! ## Endpoints -/

/-- The query that follows the path of a request: none for a GET, and none if it is empty. -/
def appendedQuery (url : Url) (get : Bool) : List Char :=
  if get || url.query.isEmpty then [] else '?' :: url.query

/-- Of the path and the query of an address only the path is decoded. -/
theorem decodeEntities_pathText (url : Url) (get : Bool) :
    decodeEntities (pathText url (!get)) = decodeEntities (pathOf url) ++ appendedQuery url get := by
  unfold pathText appendedQuery
  by_cases hquery : get = true ∨ url.query = []
  · rw [if_neg, if_pos, List.append_nil]
    · rcases hquery with rfl | hempty <;> simp [*]
    · rcases hquery with rfl | hempty <;> simp [*]
  · obtain ⟨hget, hempty⟩ := not_or.mp hquery
    rw [if_pos, if_neg, decodeEntities_append_question, decodeEntities_escapeAmpersands]
    · simp [hget, hempty]
    · simp [hget, hempty]

theorem property?_samplerPath (name : Value) {e : Endpoint} {a : Address} (h : e.address = some a) :
    property? (endpointSampler name e).element.toNode "stringProp" "HTTPSampler.path" =
      some (stringProp "HTTPSampler.path" (samplerPath a)).toNode := by
  unfold endpointSampler
  rw [h]
  rfl

@[simp]
theorem planText_samplerPath (a : Address) :
    planText (samplerPath a) =
      String.ofList ((decodeEntities a.pathname.toList).filter isChar) := by
  unfold samplerPath
  split
  · have hempty : a.pathname = "" := by simpa using ‹a.pathname.isEmpty = true›
    rw [hempty]
    rfl
  · change String.ofList ((String.ofList (decodeEntities a.pathname.toList)).toList.filter isChar) = _
    rw [String.toList_ofList]

theorem absolute_eq_ok {s : String} {url : Url} {port : Option Nat}
    (h : Url.absolute s = .ok (url, port)) : Url.ofChars s.toList = .ok url :=
  (Url.parts_of_absolute h).1

/-- An address is made of the parts of a URL. -/
theorem exists_absolute_of_address {r : Request} {get : Bool} {a : Address}
    (h : r.address? get = some a) : ∃ url port,
      Url.absolute r.url.display = .ok (url, port) ∧ a = .ofUrl url port (!get) := by
  rw [Request.address?, Option.ite_none_right_eq_some] at h
  cases habsolute : Url.absolute r.url.display with
  | error problem => simp [habsolute] at h
  | ok parts =>
    simp only [habsolute, Option.some.injEq] at h
    exact ⟨parts.1, parts.2, rfl, h.2.symm⟩

/-- An endpoint with an address has it from the parts of the URL. -/
theorem exists_url_of_endpoint {r : Request} {get : Bool} (hget : r.isGet = .ok get) {u : String}
    (hurl : r.url = .text u) {e : Endpoint} (h : (Endpoint.ofRequest r).result = .ok e)
    (hgiven : e.isEmpty = false) :
    ∃ url port, Url.ofChars u.toList = .ok url ∧ e.address = some (.ofUrl url port (!get)) := by
  rw [Endpoint.ofRequest_result hget, Except.ok.injEq] at h
  subst h
  rw [Endpoint.isEmpty, Option.isNone_eq_false_iff, Option.isSome_iff_exists] at hgiven
  obtain ⟨a, ha⟩ := hgiven
  obtain ⟨url, port, habsolute, rfl⟩ := exists_absolute_of_address ha
  rw [hurl] at habsolute
  exact ⟨url, port, absolute_eq_ok habsolute, ha⟩

/-- The sampler of a request whose URL gives an address has for its path that of the URL with its
entities decoded, and behind it, unless the method is GET, the query as it is. A path in which no
entity occurs is not changed. -/
theorem samplerOf_path {r : Request} {m u : String} (hmethod : r.method = .text m)
    (hurl : r.url = .text u) {e : Endpoint} {notices : List Notice}
    (hendpoint : (Endpoint.ofRequest r).outcome = (.ok e, notices)) (hgiven : e.isEmpty = false)
    (name : Value) :
    ∃ url sampler, Url.ofChars u.toList = .ok url ∧ samplerOf name e = .ok sampler ∧
      propertyText sampler.element.toNode "HTTPSampler.path" =
        String.ofList
          ((decodeEntities (pathOf url) ++ appendedQuery url (m.toUpper == "GET")).filter isChar) ∧
      (decodeEntities (pathOf url) = pathOf url ↔ HasNoEntity (pathOf url)) := by
  have hget : r.isGet = .ok (m.toUpper == "GET") := by
    rw [Request.isGet, hmethod]
    rfl
  obtain ⟨url, port, hsplit, haddress⟩ :=
    exists_url_of_endpoint hget hurl (Logged.result_of_outcome hendpoint) hgiven
  refine ⟨url, endpointSampler name e, hsplit, samplerOf_eq name e, ?_, decodeEntities_eq_self _⟩
  calc propertyText (endpointSampler name e).element.toNode "HTTPSampler.path"
      = planText (samplerPath (.ofUrl url port (!(m.toUpper == "GET")))) :=
        propertyText_of_stringProp (property?_samplerPath name haddress)
    _ = String.ofList ((decodeEntities (pathText url (!(m.toUpper == "GET")))).filter isChar) := by
        rw [planText_samplerPath, Address.ofUrl, String.toList_ofList]
    _ = _ := by rw [decodeEntities_pathText]

/-! ## A request with entities -/

/-- A request with an entity in its path and one in its query. -/
def entityRequest : Request where
  url := .text "http://h/a&lt;b?x=1&amp;y=2"
  method := .text "POST"

/-- The parts of its URL. -/
def entityUrl : Url where
  scheme := "http".toList
  netloc := "h".toList
  path := "/a&lt;b".toList
  query := "x=1&amp;y=2".toList
  fragment := []

/-- Its endpoint. -/
def entityEndpoint : Endpoint where
  method := .text "POST"
  address := some (.ofUrl entityUrl none true)

theorem absolute_entityUrl :
    Url.absolute "http://h/a&lt;b?x=1&amp;y=2" = .ok (entityUrl, none) := by
  decide +kernel

theorem ofRequest_entityRequest : (Endpoint.ofRequest entityRequest).result = .ok entityEndpoint := by
  have hpost : entityRequest.isGet = .ok false := isGet_text "POST"
  have hdisplay : entityRequest.url.display = "http://h/a&lt;b?x=1&amp;y=2" := rfl
  have haddress : entityRequest.address? false = some (.ofUrl entityUrl none true) := by
    rw [Request.address?, if_pos (by decide), hdisplay, absolute_entityUrl]
    rfl
  rw [Endpoint.ofRequest_result hpost, haddress]
  rfl

theorem samplerOf_path_entityRequest : ∃ notices,
    entityRequest.method = .text "POST" ∧
      entityRequest.url = .text "http://h/a&lt;b?x=1&amp;y=2" ∧
      (Endpoint.ofRequest entityRequest).outcome = (.ok entityEndpoint, notices) ∧
      entityEndpoint.isEmpty = false ∧
      ∃ url sampler, Url.ofChars "http://h/a&lt;b?x=1&amp;y=2".toList = .ok url ∧
        samplerOf .null entityEndpoint = .ok sampler ∧
        propertyText sampler.element.toNode "HTTPSampler.path" =
          String.ofList ((decodeEntities (pathOf url) ++
            appendedQuery url ("POST".toUpper == "GET")).filter isChar) ∧
        (decodeEntities (pathOf url) = pathOf url ↔ HasNoEntity (pathOf url)) :=
  have hendpoint := Logged.outcome_eq_ok ofRequest_entityRequest
  ⟨_, rfl, rfl, hendpoint, rfl, samplerOf_path rfl rfl hendpoint rfl .null⟩

/-- The path of a URL is not the path of its sampler if an entity occurs in it. -/
theorem samplerOf_path_not_kept : ∃ notices url sampler,
    (Endpoint.ofRequest entityRequest).outcome = (.ok entityEndpoint, notices) ∧
      entityEndpoint.isEmpty = false ∧
      Url.ofChars "http://h/a&lt;b?x=1&amp;y=2".toList = .ok url ∧
      samplerOf .null entityEndpoint = .ok sampler ∧
      propertyText sampler.element.toNode "HTTPSampler.path" = "/a<b?x=1&amp;y=2" ∧
      String.ofList ((pathOf url ++ appendedQuery url false).filter isChar) =
        "/a&lt;b?x=1&amp;y=2" := by
  have hpath := propertyText_of_stringProp (property?_samplerPath .null
    (show entityEndpoint.address = some (.ofUrl entityUrl none true) from rfl))
  refine ⟨_, entityUrl, endpointSampler .null entityEndpoint,
    Logged.outcome_eq_ok ofRequest_entityRequest, rfl, absolute_eq_ok absolute_entityUrl,
    samplerOf_eq _ _, ?_, by decide⟩
  rw [hpath, planText_samplerPath]
  decide

end LoadPlan.Plan
