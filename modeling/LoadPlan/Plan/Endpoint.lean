import LoadPlan.Notice
import LoadPlan.Scenario.Basic
import LoadPlan.Url.Basic

/-!
# Endpoints

Where a request goes: its method, and the address that its URL gives. A URL that is missing, cannot
be split or is not absolute gives no address; the endpoint then has only the method.
-/

namespace LoadPlan

/-- The parts of a URL that a sampler needs. -/
structure Address where
  protocol : String
  hostname : String
  /-- The port in decimal, empty if the URL has none or the usual one of its protocol. -/
  port : String
  /-- The path, with the query of a request that is not a GET behind it. An ampersand of the query
  is written as an entity. -/
  pathname : String
  deriving DecidableEq, Repr

/-- Where a request goes. -/
structure Endpoint where
  method : Value := .null
  address : Option Address := none
  deriving Inhabited, Repr

namespace Address

/-- The usual port of a protocol. -/
def usualPort? (protocol : List Char) : Option Nat :=
  if protocol = "http".toList then some 80
  else if protocol = "https".toList then some 443
  else none

/-- Characters with each ampersand written as an entity. -/
def escapeAmpersands (cs : List Char) : List Char :=
  cs.flatMap fun c => if c = '&' then "&amp;".toList else [c]

/-- The port of an address, as it is written. -/
def portText (protocol : List Char) : Option Nat → String
  | none => ""
  | some port => if usualPort? protocol = some port then "" else toString port

/-- The path of a URL, a slash if it is empty. -/
def pathOf (url : Url) : List Char :=
  if url.path.isEmpty then ['/'] else url.path

/-- The path of a URL, with the query behind it if one is wanted and there. -/
def pathText (url : Url) (withQuery : Bool) : List Char :=
  if withQuery && !url.query.isEmpty then pathOf url ++ '?' :: escapeAmpersands url.query
  else pathOf url

/-- The address of an absolute URL. -/
def ofUrl (url : Url) (port : Option Nat) (withQuery : Bool) : Address where
  protocol := String.ofList url.scheme
  hostname := url.host
  port := portText url.scheme port
  pathname := String.ofList (pathText url withQuery)

end Address

/-- The absolute URL that a text writes, with its port. -/
def Url.absolute (s : String) : Except Url.Problem (Url × Option Nat) := do
  let url ← Url.ofChars s.toList
  let port ← url.port?
  if url.scheme.isEmpty || url.host.isEmpty then throw .notAbsolute
  return (url, port)

namespace Endpoint

/-- Whether the endpoint has no address. -/
def isEmpty (e : Endpoint) : Bool :=
  e.address.isNone

/-- The endpoint of a request, with a notice if its URL gives no address. -/
def ofRequest (r : Request) : Logged Endpoint := do
  if !r.url.isTruthy then return { method := r.method }
  match Url.absolute r.url.display with
  | .error problem =>
    note (.malformedUrl r.url r.name problem)
    return { method := r.method }
  | .ok (url, port) =>
    let get ← r.isGet
    return { method := r.method, address := some (.ofUrl url port (!get)) }

end Endpoint

end LoadPlan
