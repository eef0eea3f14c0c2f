import LoadPlan.Proofs.Lint.UrlWarnings
import LoadPlan.Proofs.Plan.Endpoint

/-!
# The notice of a query

A check looks for a question mark in the text of a URL, and the compiler for a query among the parts
of the URL. So a query that is put behind the path of a sampler is always reported, but there are
two more texts for which one is reported: those in which the question mark has nothing behind it,
and those in which it stands in the fragment.
-/

namespace LoadPlan

/-- A text of a URL whose question mark has nothing behind it, or only a fragment. -/
def Url.EmptyQuery (cs : List Char) : Prop :=
  ∃ front fragment, HasNoMark front ∧ kept cs = front ++ '?' :: behind '#' fragment

/-- A question mark in the text of a URL stands before its query, in its fragment, or before
nothing. -/
theorem Url.mark_mem_iff {cs : List Char} {url : Url} (h : ofChars cs = .ok url) :
    '?' ∈ cs ↔ url.query ≠ [] ∨ '?' ∈ url.fragment ∨ EmptyQuery cs := by
  obtain ⟨front, query, fragment, hspells⟩ := exists_spells h
  have hbefore : HasNoMark (front ++ url.path) := hspells.front.append hspells.path
  have hbehind : '?' ∈ behind '#' fragment ↔ '?' ∈ url.fragment := by
    rw [hspells.fragment]
    cases fragment <;> simp [behind]
  -- what stands before the query has no mark, so it is the one of the query or in the fragment
  have htext : '?' ∈ cs ↔ query.isSome ∨ '?' ∈ url.fragment := by
    rw [← mark_mem_kept, hspells.text, List.mem_append, List.mem_append, hbehind]
    cases query <;> simp [behind, hbefore.1]
  constructor
  · intro hmark
    obtain hquery | hfragment := htext.mp hmark
    · obtain ⟨query, rfl⟩ := Option.isSome_iff_exists.mp hquery
      by_cases hnil : query = []
      · refine .inr (.inr ⟨_, fragment, hbefore, ?_⟩)
        rw [hspells.text, hnil, List.append_assoc]
        rfl
      · exact .inl (hspells.query ▸ hnil)
    · exact .inr (.inl hfragment)
  · rintro (hquery | hfragment | ⟨before, rest, -, hkept⟩)
    · refine htext.mpr (.inl ?_)
      cases query with
      | none => exact absurd hspells.query hquery
      | some query => rfl
    · exact htext.mpr (.inr hfragment)
    · rw [← mark_mem_kept, hkept]
      simp

namespace Address

/-- An address whose path is the path of a URL with a query appended to it. -/
def AppendsQuery (url : Url) (a : Address) : Prop :=
  ∃ query ≠ [], a.pathname = String.ofList (pathOf url ++ '?' :: query)

theorem appendsQuery_ofUrl (url : Url) (port : Option Nat) :
    AppendsQuery url (ofUrl url port true) ↔ url.query ≠ [] := by
  have hpathname : (ofUrl url port true).pathname = String.ofList (pathText url true) := rfl
  by_cases hquery : url.query = []
  · have hnone : pathText url true = pathOf url := by simp [pathText, hquery]
    rw [iff_false_right (not_not.mpr hquery), AppendsQuery, hpathname, hnone]
    rintro ⟨query, -, heq⟩
    simpa using String.ofList_injective heq
  · have hsome : pathText url true = pathOf url ++ '?' :: escapeAmpersands url.query := by
      simp [pathText, hquery]
    refine iff_of_true ⟨_, ?_, hpathname.trans (congrArg _ hsome)⟩ hquery
    obtain ⟨c, rest, hcons⟩ := List.exists_cons_of_ne_nil hquery
    rw [hcons, escapeAmpersands, List.flatMap_cons]
    split <;> simp

end Address

namespace Lint

open Logged
open Address (AppendsQuery)

/-! ## Where the notice comes from -/

theorem payloadFindings_category_ne_url {r : Request} {found : List Finding}
    (h : payloadFindings r = .ok found) : ∀ x ∈ found, x.category ≠ .url := by
  intro x hx
  cases hbody : r.body with
  | some body =>
    rcases payloadFindings_category ⟨body, hbody⟩ h x hx with hcategory | hcategory <;>
      simp [hcategory]
  | none =>
    obtain ⟨get, hget⟩ := isGet_of_payloadFindings h
    cases get with
    | true =>
      obtain rfl := Except.ok.inj ((payloadFindings_of_get hget).symm.trans h)
      obtain ⟨i, rfl⟩ := exists_of_mem_dropped hx
      simp [Finding.category]
    | false =>
      rw [payloadFindings, hget] at h
      have hignored : found = ignoredFindings r ++ [] := by
        rw [bodyFindings, hbody] at h
        exact (Except.ok.inj h).symm
      rw [hignored, List.append_nil] at hx
      simp [ignoredFindings_category r x hx]

theorem assertionFindings_category_ne_url {r : Request} {found : List Finding}
    (h : assertionFindings r = .ok found) : ∀ x ∈ found, x.category ≠ .url := by
  intro x hx
  cases ha : r.assertions with
  | some a => simp [assertionFindings_category ha h x hx]
  | none =>
    rw [assertionFindings, ha] at h
    obtain rfl := Except.ok.inj h
    cases hx

/-- What is found about a URL is found by the check of the URL. -/
theorem mem_of_category_url {r : Request} {get : Bool} (hget : r.isGet = .ok get)
    {findings : List Finding} (h : (requestFindings r).result = .ok findings) {x : Finding}
    (hx : x.category = .url) : x ∈ findings ↔ x ∈ urlFindingsOf r get := by
  obtain ⟨url, payload, assertions, hurl, hpayload, hassertions, rfl⟩ :=
    exists_of_requestFindings h
  obtain rfl := Except.ok.inj (hurl.symm.trans (urlFindings_result hget))
  have hheaders : x ∉ dropped .headers r.headers := fun hmem =>
    absurd (droppedHeaders_category r x hmem) (by simp [hx])
  have hsent : x ∉ payload := fun hmem => payloadFindings_category_ne_url hpayload x hmem hx
  have hasserted : x ∉ assertions := fun hmem =>
    assertionFindings_category_ne_url hassertions x hmem hx
  simp [hheaders, hsent, hasserted]

/-- A query is reported for a request whose URL gives an address exactly if the request is not a GET
and there is a question mark in its URL. -/
theorem mem_urlFindingsOf {r : Request} {get : Bool} {a : Address} (ha : r.address? get = some a)
    (hgiven : r.url.isTruthy = true) : .queryAppended r.method ∈ urlFindingsOf r get ↔
      get = false ∧ '?' ∈ r.url.display.toList := by
  rw [urlFindingsOf, if_neg (by simp [hgiven]), ha, if_neg (by simp)]
  split <;> simp_all

/-- For a request other than a GET whose URL gives an address, a query is appended to the path of the
URL exactly if the URL has one. It is reported then, and besides only if a question mark stands in
the fragment or has nothing behind it. -/
theorem queryAppended_mem_iff {r : Request} {m u : String} (hmethod : r.method = .text m)
    (hget : m.toUpper ≠ "GET") (hurl : r.url = .text u) {e : Endpoint}
    (hendpoint : (Endpoint.ofRequest r).result = .ok e) (hgiven : e.isEmpty = false)
    {findings : List Finding} (hfindings : (requestFindings r).result = .ok findings) :
    ∃ url a, Url.ofChars u.toList = .ok url ∧ e.address = some a ∧
      (AppendsQuery url a ↔ url.query ≠ []) ∧
      (.queryAppended r.method ∈ findings ↔
        AppendsQuery url a ∨ '?' ∈ url.fragment ∨ Url.EmptyQuery u.toList) := by
  have hpost : r.isGet = .ok false := by
    rw [Request.isGet, hmethod, isGet, beq_eq_false_iff_ne.mpr hget]
  obtain ⟨url, port, hsplit, haddress⟩ :=
    Plan.exists_url_of_endpoint hpost hurl hendpoint hgiven
  have happends := Address.appendsQuery_ofUrl url port
  refine ⟨url, _, hsplit, haddress, happends, ?_⟩
  have hsome : r.address? false = e.address := by
    rw [Endpoint.ofRequest_result hpost] at hendpoint
    rw [← Except.ok.inj hendpoint]
  have htruthy : r.url.isTruthy = true := by
    by_contra hnot
    simp [Request.address?, hnot, haddress] at hsome
  have hdisplay : r.url.display = u := by rw [hurl]; rfl
  rw [mem_of_category_url hpost hfindings rfl,
    mem_urlFindingsOf (hsome.trans haddress) htruthy, hdisplay, Url.mark_mem_iff hsplit]
  simp only [true_and, Bool.not_false, happends]

/-! ## Requests with a raw body -/

/-- A request that sends a raw body to a URL. -/
def postRequest (url : String) : Request where
  url := .text url
  method := .text "POST"
  body := some { type := .text "Raw", raw := .text "x" }
  assertions := some { duration := some {} }

/-- Its endpoint, if the URL is absolute with some parts. -/
def postEndpoint (url : Url) (port : Option Nat) : Endpoint where
  method := .text "POST"
  address := some (.ofUrl url port true)

@[simp]
theorem isGet_postRequest (s : String) : (postRequest s).isGet = .ok false :=
  isGet_text "POST"

theorem requestFindings_postRequest (s : String) :
    (requestFindings (postRequest s)).result = .ok (urlFindingsOf (postRequest s) false) := by
  have hpayload : payloadFindings (postRequest s) = .ok [] := by
    rw [payloadFindings, isGet_postRequest]
    rfl
  rw [requestFindings_result (urlFindings_result (isGet_postRequest s)) hpayload rfl]
  simp [postRequest, dropped, durationFindings, Value.isNull]

section PostRequest

variable {s : String} {url : Url} {port : Option Nat} (hgiven : s.isEmpty = false)
  (h : Url.absolute s = .ok (url, port))

include hgiven h

theorem gives_postRequest : Endpoint.Gives (postRequest s).url (url, port) :=
  ⟨by simp [postRequest, Value.isTruthy, hgiven], h⟩

theorem ofRequest_postRequest :
    (Endpoint.ofRequest (postRequest s)).result = .ok (postEndpoint url port) := by
  rw [Endpoint.ofRequest_result (isGet_postRequest s),
    Endpoint.address?_of_gives (gives_postRequest hgiven h)]
  rfl

/-- A query is reported if there is a question mark, although none is appended if there is no
query. -/
theorem reported_postRequest (hmark : '?' ∈ s.toList) (hquery : url.query = []) :
    ∃ findings, (requestFindings (postRequest s)).result = .ok findings ∧
      .queryAppended (.text "POST") ∈ findings ∧ ¬AppendsQuery url (.ofUrl url port true) := by
  have hgives := gives_postRequest hgiven h
  refine ⟨_, requestFindings_postRequest s, ?_, ?_⟩
  · exact (mem_urlFindingsOf (Endpoint.address?_of_gives hgives false) hgives.1).mpr ⟨rfl, hmark⟩
  · rwa [Address.appendsQuery_ofUrl, not_not]

end PostRequest

theorem queryAppended_mem_iff_postRequest : ∃ findings,
    (postRequest "http://h/a?x=1").method = .text "POST" ∧ "POST".toUpper ≠ "GET" ∧
      (postRequest "http://h/a?x=1").url = .text "http://h/a?x=1" ∧
      (Endpoint.ofRequest (postRequest "http://h/a?x=1")).result =
        .ok (postEndpoint sharedUrl none) ∧
      (postEndpoint sharedUrl none).isEmpty = false ∧
      (requestFindings (postRequest "http://h/a?x=1")).result = .ok findings ∧
      ∃ url a, Url.ofChars "http://h/a?x=1".toList = .ok url ∧
        (postEndpoint sharedUrl none).address = some a ∧
        (AppendsQuery url a ↔ url.query ≠ []) ∧
        (.queryAppended (.text "POST") ∈ findings ↔
          AppendsQuery url a ∨ '?' ∈ url.fragment ∨ Url.EmptyQuery "http://h/a?x=1".toList) :=
  have hpost : "POST".toUpper ≠ "GET" :=
    beq_eq_false_iff_ne.mp (Except.ok.inj (isGet_postRequest "http://h/a?x=1"))
  have hendpoint := ofRequest_postRequest (by decide) absolute_sharedUrl
  have hfindings := requestFindings_postRequest "http://h/a?x=1"
  ⟨_, rfl, hpost, rfl, hendpoint, rfl, hfindings,
    queryAppended_mem_iff rfl hpost rfl hendpoint rfl hfindings⟩

/-- The parts of a URL with a question mark in its fragment. -/
def fragmentUrl : Url :=
  { sharedUrl with query := [], fragment := "b?c".toList }

theorem absolute_fragmentUrl : Url.absolute "http://h/a#b?c" = .ok (fragmentUrl, none) := by
  decide +kernel

/-- A query is reported although the URL has none and the path is the one of the URL. -/
theorem queryAppended_without_query : ∃ a findings,
    Url.ofChars "http://h/a#b?c".toList = .ok fragmentUrl ∧
      (Endpoint.ofRequest (postRequest "http://h/a#b?c")).result =
        .ok { method := .text "POST", address := some a } ∧
      a.pathname = "/a" ∧
      (requestFindings (postRequest "http://h/a#b?c")).result = .ok findings ∧
      .queryAppended (.text "POST") ∈ findings ∧ ¬AppendsQuery fragmentUrl a := by
  have habsolute := absolute_fragmentUrl
  obtain ⟨findings, hfindings, hreported, hnot⟩ :=
    reported_postRequest (by decide) habsolute (by decide) rfl
  exact ⟨.ofUrl fragmentUrl none true, findings, Plan.absolute_eq_ok habsolute,
    ofRequest_postRequest (by decide) habsolute, rfl, hfindings, hreported, hnot⟩

/-- A question mark with nothing behind it is reported as well. -/
example : let url : Url := { fragmentUrl with fragment := [] }
    ∃ findings, (requestFindings (postRequest "http://h/a?")).result = .ok findings ∧
      .queryAppended (.text "POST") ∈ findings ∧ ¬AppendsQuery url (.ofUrl url none true) := by
  intro url
  have habsolute : Url.absolute "http://h/a?" = .ok (url, none) := by decide +kernel
  exact reported_postRequest (by decide) habsolute (by decide) rfl

end Lint

end LoadPlan
