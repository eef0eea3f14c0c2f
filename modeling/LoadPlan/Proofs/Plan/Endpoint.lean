import LoadPlan.Proofs.Plan.Compiled
import LoadPlan.Proofs.Url.Parts

/-!
# Where requests go

The endpoint of a request has its method, and either no address or a whole one: a protocol, a host,
a path that starts with a slash, and a port only if it is not the usual one. Which of the two it is,
and all of the address but a query behind the path, depends on the URL alone. The query is behind
the path of every request that is not a GET, if there is one.
-/

namespace LoadPlan

namespace Address

/-- An address with everything that is needed to send a request to it. -/
structure IsWhole (a : Address) : Prop where
  protocol : a.protocol ≠ ""
  hostname : a.hostname ≠ ""
  /-- The port is the usual one, or a number of at most 16 bits that is not. -/
  port : a.port = "" ∨ ∃ n ≤ 65535, a.port = toString n ∧
    ¬(a.protocol = "http" ∧ n = 80) ∧ ¬(a.protocol = "https" ∧ n = 443)
  pathname : a.pathname.toList.head? = some '/'

/-- What is behind the path of a URL for a method: the query, with its ampersands as entities,
unless the method is GET or there is no query. -/
def behindPath (url : Url) (method : String) : List Char :=
  if method.toUpper = "GET" ∨ url.query = [] then [] else '?' :: escapeAmpersands url.query

/-- Addresses that a URL has for two methods: they differ at most in what is behind the path. -/
structure Alike (url : Url) (method method' : String) (a a' : Address) : Prop where
  protocol : a.protocol = a'.protocol
  hostname : a.hostname = a'.hostname
  port : a.port = a'.port
  pathname : ∃ path, '?' ∉ path ∧ '#' ∉ path ∧
    a.pathname = String.ofList (path ++ behindPath url method) ∧
    a'.pathname = String.ofList (path ++ behindPath url method')

/-! ## The parts of an address -/

theorem pathText_eq (url : Url) (method : String) :
    pathText url (!(method.toUpper == "GET")) = pathOf url ++ behindPath url method := by
  unfold pathText behindPath
  by_cases hget : method.toUpper = "GET"
  · simp [hget]
  · by_cases hquery : url.query = [] <;> simp [hget, hquery]

/-- The path of a URL has neither a query nor a fragment in it. -/
theorem pathOf_hasNoMark {cs : List Char} {url : Url} (h : Url.ofChars cs = .ok url) :
    Url.HasNoMark (pathOf url) := by
  obtain ⟨_, _, _, hspells⟩ := Url.exists_spells h
  unfold pathOf
  split
  · decide
  · exact hspells.path

theorem head?_pathOf {cs : List Char} {url : Url} (h : Url.ofChars cs = .ok url)
    (hnetloc : url.netloc ≠ []) : (pathOf url).head? = some '/' := by
  unfold pathOf
  split
  · rfl
  · rename_i hpath
    obtain ⟨c, rest, hcons⟩ := List.exists_cons_of_ne_nil (by simpa using hpath)
    have hslash := Url.head?_path h hnetloc
    rw [hcons] at hslash ⊢
    exact congrArg some (hslash c rfl)

theorem usualPort?_eq_some {protocol : List Char} {n : Nat} :
    usualPort? protocol = some n ↔
      String.ofList protocol = "http" ∧ n = 80 ∨ String.ofList protocol = "https" ∧ n = 443 := by
  have hname (s : String) : String.ofList protocol = s ↔ protocol = s.toList := by
    rw [← String.toList_inj, String.toList_ofList]
  unfold usualPort?
  rw [hname, hname]
  split
  · subst protocol
    simp [eq_comm]
  · split <;> simp_all [eq_comm]

theorem portText_eq {protocol : List Char} {port : Option Nat} (h : ∀ n ∈ port, n ≤ 65535) :
    portText protocol port = "" ∨ ∃ n ≤ 65535, portText protocol port = toString n ∧
      usualPort? protocol ≠ some n := by
  cases port with
  | none => exact .inl rfl
  | some n =>
    unfold portText
    dsimp only
    split
    · exact .inl rfl
    · exact .inr ⟨n, h n rfl, rfl, ‹_›⟩

/-- The port of a URL has at most 16 bits. -/
theorem port?_le {url : Url} {port : Option Nat} (h : url.port? = .ok port) :
    ∀ n ∈ port, n ≤ 65535 := by
  unfold Url.port? at h
  dsimp only at h
  split at h
  · cases h
    simp
  · split at h
    · cases h
    · split at h
      · cases h
      · split at h
        · cases h
          simpa
        · cases h

/-- The address of an absolute URL is whole. -/
theorem ofUrl_isWhole {s : String} {url : Url} {port : Option Nat}
    (h : Url.absolute s = .ok (url, port)) (method : String) :
    (ofUrl url port (!(method.toUpper == "GET"))).IsWhole := by
  obtain ⟨hsplit, hport, hscheme, hhost⟩ := Url.parts_of_absolute h
  refine ⟨?_, hhost, ?_, ?_⟩
  · simpa [ofUrl] using hscheme
  · refine (portText_eq (port?_le hport)).imp_right ?_
    rintro ⟨n, hle, htext, husual⟩
    rw [ne_eq, usualPort?_eq_some, not_or] at husual
    exact ⟨n, hle, htext, husual⟩
  · rw [ofUrl, String.toList_ofList, pathText_eq, List.head?_append,
      head?_pathOf hsplit (Url.netloc_ne_nil hhost), Option.some_or]

end Address

namespace Endpoint

open Address

/-- A value that gives no address: it is not given, or it is no absolute URL. -/
def GivesNone (url : Value) : Prop :=
  url.isTruthy = false ∨ ∃ problem, Url.absolute url.display = .error problem

/-- A value that gives an address: it is an absolute URL. -/
def Gives (url : Value) (parts : Url × Option Nat) : Prop :=
  url.isTruthy = true ∧ Url.absolute url.display = .ok parts

theorem givesNone_or_gives (url : Value) : GivesNone url ∨ ∃ parts, Gives url parts := by
  by_cases hgiven : url.isTruthy = true
  · cases habsolute : Url.absolute url.display with
    | error problem => exact .inl (.inr ⟨problem, habsolute⟩)
    | ok parts => exact .inr ⟨parts, hgiven, habsolute⟩
  · exact .inl (.inl (Bool.eq_false_iff.mpr hgiven))

theorem address?_of_givesNone {r : Request} (h : GivesNone r.url) (get : Bool) :
    r.address? get = none := by
  unfold Request.address?
  rcases h with hnot | ⟨problem, hproblem⟩
  · simp [hnot]
  · simp [hproblem]

theorem address?_of_gives {r : Request} {parts : Url × Option Nat} (h : Gives r.url parts)
    (get : Bool) : r.address? get = some (.ofUrl parts.1 parts.2 (!get)) := by
  rw [Request.address?, if_pos h.1, h.2]

theorem result_of_text {r : Request} {m : String} (hmethod : r.method = .text m) :
    (ofRequest r).result =
      .ok { method := r.method, address := r.address? (m.toUpper == "GET") } :=
  ofRequest_result (by rw [Request.isGet, hmethod]; rfl)

/-- Two requests with the same URL have endpoints with their methods. Either neither has an address,
because the URL is not given or not absolute, or both have whole ones, which differ at most in the
query behind the path. -/
theorem ofRequest_alike {r r' : Request} {m m' : String} (hmethod : r.method = .text m)
    (hmethod' : r'.method = .text m') (hurl : r'.url = r.url) :
    ∃ e e', (ofRequest r).result = .ok e ∧ (ofRequest r').result = .ok e' ∧
      e.method = r.method ∧ e'.method = r'.method ∧
      (GivesNone r.url ∧ e.address = none ∧ e'.address = none ∨
        ∃ url port a a', Gives r.url (url, port) ∧ e.address = some a ∧ e'.address = some a' ∧
          a.IsWhole ∧ a'.IsWhole ∧ Alike url m m' a a') := by
  refine ⟨_, _, result_of_text hmethod, result_of_text hmethod', rfl, rfl, ?_⟩
  obtain hnone | ⟨⟨url, port⟩, hgives⟩ := givesNone_or_gives r.url
  · have hnone' : GivesNone r'.url := hurl ▸ hnone
    exact .inl ⟨hnone, address?_of_givesNone hnone _, address?_of_givesNone hnone' _⟩
  · have hgives' : Gives r'.url (url, port) := hurl ▸ hgives
    have hsplit := (Url.parts_of_absolute hgives.2).1
    obtain ⟨hmark, hhash⟩ := pathOf_hasNoMark hsplit
    have hpath (method : String) := congrArg String.ofList (pathText_eq url method)
    exact .inr ⟨url, port, _, _, hgives, address?_of_gives hgives _, address?_of_gives hgives' _,
      ofUrl_isWhole hgives.2 m, ofUrl_isWhole hgives.2 m',
      ⟨rfl, rfl, rfl, pathOf url, hmark, hhash, hpath m, hpath m'⟩⟩

/-! ## A URL with a query -/

/-- A request for a URL with a port, a query and a fragment. -/
def queryRequest (method : String) : Request where
  url := .text "HTTP://u@h:080?x=1&y=2#f?g"
  method := .text method

/-- The parts of its URL. -/
def queryUrl : Url where
  scheme := "http".toList
  netloc := "u@h:080".toList
  path := []
  query := "x=1&y=2".toList
  fragment := "f?g".toList

theorem gives_queryUrl : Gives (queryRequest "get").url (queryUrl, some 80) :=
  ⟨rfl, show Url.absolute "HTTP://u@h:080?x=1&y=2#f?g" = _ by decide +kernel⟩

theorem ofRequest_alike_queryRequest :
    (queryRequest "get").method = .text "get" ∧ (queryRequest "PUT").method = .text "PUT" ∧
      (queryRequest "PUT").url = (queryRequest "get").url ∧
      Gives (queryRequest "get").url (queryUrl, some 80) ∧
      ∃ e e', (ofRequest (queryRequest "get")).result = .ok e ∧
        (ofRequest (queryRequest "PUT")).result = .ok e' ∧
        e.method = .text "get" ∧ e'.method = .text "PUT" ∧
        (GivesNone (queryRequest "get").url ∧ e.address = none ∧ e'.address = none ∨
          ∃ url port a a', Gives (queryRequest "get").url (url, port) ∧ e.address = some a ∧
            e'.address = some a' ∧ a.IsWhole ∧ a'.IsWhole ∧ Alike url "get" "PUT" a a') :=
  ⟨rfl, rfl, rfl, gives_queryUrl, ofRequest_alike rfl rfl rfl⟩

/-- The query is behind the path of the request that is not a GET, and the usual port is left
out. -/
example : (queryRequest "PUT").address? false =
    some ⟨"http", "h", "", "/?x=1&amp;y=2"⟩ := by
  rw [address?_of_gives (r := queryRequest "PUT") gives_queryUrl]
  decide +kernel

end Endpoint

end LoadPlan
