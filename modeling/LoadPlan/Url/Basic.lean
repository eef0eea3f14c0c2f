import LoadPlan.Number.Reader
import LoadPlan.Text.Compatibility
import LoadPlan.Text.Lowercase
import LoadPlan.Text.Quoted
import LoadPlan.Url.Host

/-!
# URLs

A URL is split into scheme, network location, path, query and fragment, without decoding any of
them. Controls and spaces at its start and tabs and line ends anywhere are dropped first. Only what
follows the double slash is checked: its brackets, its port, and that it holds no character which
stands for a delimiter in disguise.
-/

namespace LoadPlan

/-- The parts of a URL, as they are written in it; the scheme is in lower case. -/
structure Url where
  scheme : List Char
  netloc : List Char
  path : List Char
  query : List Char
  fragment : List Char
  deriving DecidableEq, Repr

namespace Url

open Text

/-- Why a text cannot be taken as a URL. -/
inductive Problem where
  | brackets
  | futureHost
  | address4InBrackets
  | noAddress (host : String)
  | disguised (netloc : String)
  | badPort (port : String)
  | portDigits (count : Nat)
  | portRange
  /-- The URL has no scheme or no host. -/
  | notAbsolute
  deriving DecidableEq, Repr

/-- The wording of a problem. -/
def Problem.message : Problem → String
  | .brackets => "Invalid IPv6 URL"
  | .futureHost => "IPvFuture address is invalid"
  | .address4InBrackets => "An IPv4 address cannot be in brackets"
  | .noAddress host => quoted host ++ " does not appear to be an IPv4 or IPv6 address"
  | .disguised netloc =>
    s!"netloc '{netloc}' contains invalid characters under NFKC normalization"
  | .badPort port => "Port could not be cast to integer value as " ++ quoted port
  | .portDigits count =>
    s!"Exceeds the limit (4300 digits) for integer string conversion: value has {count} digits; " ++
      "use sys.set_int_max_str_digits() to increase the limit"
  | .portRange => "Port out of range 0-65535"
  | .notAbsolute => "not absolute"

/-- The characters before the first occurrence of `c` and those after it, if there is one. -/
def cut (c : Char) (cs : List Char) : List Char × Option (List Char) :=
  (cs.takeWhile (· != c), (cs.dropWhile (· != c)).tail?)

/-- A letter of ASCII. -/
def isLetter (c : Char) : Bool :=
  ('a' ≤ c && c ≤ 'z') || ('A' ≤ c && c ≤ 'Z')

/-- A character of a scheme. -/
def isSchemeChar (c : Char) : Bool :=
  isLetter c || isAsciiDigit c || c = '+' || c = '-' || c = '.'

/-- A character that is dropped wherever it stands. -/
def isDropped (c : Char) : Bool :=
  c = '\t' || c = '\r' || c = '\n'

/-- The scheme that characters start with, in lower case, and what follows its colon. -/
def takeScheme (cs : List Char) : List Char × List Char :=
  match cut ':' cs with
  | (c :: name, some rest) =>
    if isLetter c && name.all isSchemeChar then ((c :: name).map Char.toLower, rest) else ([], cs)
  | _ => ([], cs)

/-- The network location that characters start with after a double slash, and what follows it. -/
def takeNetloc : List Char → List Char × List Char
  | '/' :: '/' :: rest =>
    let inside (c : Char) := c != '/' && c != '?' && c != '#'
    (rest.takeWhile inside, rest.dropWhile inside)
  | cs => ([], cs)

/-- The host and port of a network location: what follows the last at sign. -/
def hostPart (netloc : List Char) : List Char :=
  (netloc.reverse.takeWhile (· != '@')).reverse

/-- Checks a host that stands in brackets. -/
def checkBracketed (host : List Char) : Except Problem Unit :=
  if host.head? = some 'v' then
    if isFutureHost host then .ok () else .error .futureHost
  else if isAddress4 host then .error .address4InBrackets
  else if isAddress6 host then .ok ()
  else .error (.noAddress (String.ofList host))

/-- Checks the brackets of a network location that has any. -/
def checkBrackets (netloc : List Char) : Except Problem Unit :=
  if netloc.contains '[' != netloc.contains ']' then .error .brackets
  else if netloc.contains '[' then
    match cut '[' (hostPart netloc) with
    | (before, some inside) =>
      if !before.isEmpty then .error .brackets
      else
        match cut ']' inside with
        | (host, some (c :: _)) => if c = ':' then checkBracketed host else .error .brackets
        | (host, _) => checkBracketed host
    | (host, none) => checkBracketed (cut ':' host).1
  else .ok ()

/-- Splits a text into the parts of a URL. -/
def ofChars (cs : List Char) : Except Problem Url :=
  let cs := (cs.dropWhile isControlOrSpace).filter (!isDropped ·)
  let (scheme, cs) := takeScheme cs
  let (netloc, cs) := takeNetloc cs
  match checkBrackets netloc with
  | .error problem => .error problem
  | .ok () =>
    let (cs, fragment) := cut '#' cs
    let (path, query) := cut '?' cs
    if netloc.any isDisguisedDelimiter then .error (.disguised (String.ofList netloc))
    else .ok ⟨scheme, netloc, path, query.getD [], fragment.getD []⟩

/-- The host of a network location as it is written, and its port, empty if there is none. -/
def hostAndPort (netloc : List Char) : List Char × List Char :=
  match cut '[' (hostPart netloc) with
  | (_, some inside) =>
    let (host, rest) := cut ']' inside
    (host, ((cut ':' (rest.getD [])).2).getD [])
  | (host, none) => let (host, port) := cut ':' host; (host, port.getD [])

/-- The host of a URL, in lower case up to a percent sign; empty if there is none. -/
def host (u : Url) : String :=
  let host := (hostAndPort u.netloc).1
  lower (String.ofList (host.takeWhile (· != '%'))) ++ String.ofList (host.dropWhile (· != '%'))

/-- The port of a URL, if it has one. -/
def port? (u : Url) : Except Problem (Option Nat) :=
  let port := (hostAndPort u.netloc).2
  if port.isEmpty then .ok none
  else if !port.all isAsciiDigit then .error (.badPort (String.ofList port))
  else if Number.maxDigits < port.length then .error (.portDigits port.length)
  else
    let n := Number.ofDigits port
    if n ≤ 65535 then .ok (some n) else .error .portRange

end Url

end LoadPlan
