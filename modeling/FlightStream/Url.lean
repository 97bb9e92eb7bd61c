import FlightStream.Number.Reading
import FlightStream.Text.LetterCase
import FlightStream.Url.Name
import FlightStream.Url.Number
import FlightStream.Url.Percent

/-!
Addresses of resources. An address is read into its parts, each of which is brought into one form:
scheme and host in lower case, names in plain characters, usual ports left out, steps within the
path taken, and characters that a part does not keep given by number. An address without a scheme
or without a host is relative to another one.

The main definitions are `Url.read`, `Url.text` and `Url.resolve`.
-/

namespace FlightStream

/-- An address in its parts. A query or a fragment can be there and yet be empty. -/
structure Url where
  scheme : List Char := []
  user : List Char := []
  host : List Char := []
  port : Option Int := none
  path : List Char := []
  query : Option (List Char) := none
  fragment : Option (List Char) := none
  deriving DecidableEq, Repr

namespace Url

/-- The fault of a text that is no address. -/
def invalid {ρ : Type} (detail : String) : Except Fault ρ := .error (.badAddress detail)

/-! ## Splitting -/

/-- The parts of an address as they stand in a text. -/
structure Parts where
  scheme : List Char
  authority : List Char
  path : List Char
  query : Option (List Char)
  fragment : Option (List Char)

/-- Whether a character may follow the first letter of a scheme. -/
def isSchemeChar (c : Char) : Bool := c.isAlphanum || c == '+' || c == '.' || c == '-'

/-- The scheme before a colon, which may be empty, and what follows it. -/
def splitScheme (cs : List Char) : List Char × List Char :=
  let scheme := if cs.head?.any Char.isAlpha then cs.takeWhile isSchemeChar else []
  match cs.drop scheme.length with
  | ':' :: rest => (scheme, rest)
  | _ => ([], cs)

/-- What stands between two slashes and the path. -/
def splitAuthority : List Char → List Char × List Char
  | '/' :: '/' :: rest => rest.span fun c => c != '/' && c != '?' && c != '#'
  | cs => ([], cs)

/-- Splits a text into the parts of an address. -/
def split (cs : List Char) : Parts :=
  let (scheme, rest) := splitScheme cs
  let (authority, rest) := splitAuthority rest
  let (path, rest) := rest.span fun c => c != '?' && c != '#'
  let (query, rest) : Option (List Char) × List Char :=
    match rest with
    | '?' :: more => let (query, rest) := more.span (· != '#'); (some query, rest)
    | _ => (none, rest)
  let fragment :=
    match rest with
    | '#' :: more => some more
    | _ => none
  ⟨scheme, authority, path, query, fragment⟩

/-- What comes before the last character of some kind, if there is one, and what comes after it. -/
def splitLast (mark : Char) (cs : List Char) : Option (List Char) × List Char :=
  let after := (cs.reverse.takeWhile (· != mark)).reverse
  if after.length = cs.length then (none, cs)
  else (some (cs.take (cs.length - after.length - 1)), after)

/-- The host at the front, and what follows it; a host in brackets ends at the last bracket. -/
def splitHost (cs : List Char) : List Char × List Char :=
  match cs with
  | '[' :: _ =>
    match splitLast ']' cs with
    | (some inside, after) => (inside ++ [']'], after)
    | (none, _) => cs.span (· != ':')
  | _ => cs.span (· != ':')

/-! ## The form of each part -/

/-- The host in one form. -/
def readHost (host : List Char) : Except Fault (List Char) :=
  let shown := Text.quoted (String.ofList host)
  if host.isEmpty then .ok []
  else if looksLikeNumbers host then
    if isFourNumbers host then .ok host else invalid ("Invalid IPv4 address: " ++ shown)
  else if host.head? = some '[' ∧ host.getLast? = some ']' then
    let inside := (host.drop 1).dropLast
    if isEightNumbers inside then .ok inside else invalid ("Invalid IPv6 address: " ++ shown)
  else if host.all fun c => c.toNat < 128 then
    .ok (escape keptInHost (Text.lower host))
  else
    match Name.toPlain (Text.lower host) with
    | .ok plain => .ok plain
    | .error _ => invalid ("Invalid IDNA hostname: " ++ shown)

/-- The usual port of a scheme, which has to be written in lower case. -/
def usualPort? (scheme : String) : Option Int :=
  match scheme with
  | "ftp" => some 21
  | "http" | "ws" => some 80
  | "https" | "wss" => some 443
  | _ => none

/-- The port, unless it is the usual one. -/
def readPort (scheme port : List Char) : Except Fault (Option Int) :=
  let text := String.ofList port
  if port.isEmpty then .ok none
  else
    match Reading.int? text with
    | none => invalid ("Invalid port: " ++ Text.quoted text)
    | some n => .ok (if usualPort? (String.ofList scheme) = some n then none else some n)

/-- Takes the steps of a path: a point stays, two points go back, but not beyond the start. The
steps that were taken are reversed. -/
def takeSteps (taken : List (List Char)) : List (List Char) → List (List Char)
  | [] => taken.reverse
  | ['.'] :: rest => takeSteps taken rest
  | ['.', '.'] :: rest => takeSteps (if taken = [[]] then taken else taken.drop 1) rest
  | step :: rest => takeSteps (step :: taken) rest

/-- A path whose steps are taken. -/
def straighten (path : List Char) : List Char :=
  ['/'].intercalate (takeSteps [] (path.splitOn '/'))

/-- Puts an address together from a scheme, a user, a host, a port and the rest of the parts. -/
def assemble (scheme user host : List Char) (port : Option Int) (p : Parts) :
    Except Fault Url :=
  let hasStart := !scheme.isEmpty || !user.isEmpty || !host.isEmpty || port.isSome
  if !hasStart && ['/', '/'].isPrefixOf p.path then
    invalid "Relative URLs cannot have a path starting with '//'"
  else if !hasStart && p.path.head? = some ':' then
    invalid "Relative URLs cannot have a path starting with ':'"
  else
    let path := if hasStart then straighten p.path else p.path
    .ok
      { scheme := scheme
        user := user
        host := host
        port := port
        path := escape keptInPath path
        query := p.query.map (escape keptInQuery)
        fragment := p.fragment.map (escape keptInFragment) }

/-! ## Reading and writing -/

/-- The greatest number of characters in an address. -/
def lengthLimit : Nat := 65536

/-- Whether a character is a control character. -/
def isControl (c : Char) : Bool := c.toNat < 0x20 || c.toNat == 0x7f

/-- The address that a text is. -/
def read (text : String) : Except Fault Url := do
  let cs := text.toList
  if lengthLimit < cs.length then invalid "URL too long"
  else
    match cs.find? isControl with
    | some c =>
      let place := (cs.takeWhile (· != c)).length
      invalid ("Invalid non-printable ASCII character in URL, " ++
        s!"{Text.quoted (String.singleton c)} at position {place}.")
    | none => do
      let p := split cs
      let (user, place) := splitLast '@' p.authority
      let (host, after) := splitHost place
      let port := if after.head? = some ':' then after.drop 1 else after
      let plainHost ← readHost host
      let number ← readPort p.scheme port
      assemble (p.scheme.map Char.toLower) (escape keptInUser (user.getD [])) plainHost number p

/-- Whether an address names a scheme and a host. -/
def isAbsolute (u : Url) : Bool := !u.scheme.isEmpty && !u.host.isEmpty

/-- Host and port of an address. -/
def place (u : Url) : List Char :=
  let host := if u.host.contains ':' then '[' :: u.host ++ [']'] else u.host
  host ++ u.port.elim [] fun n => ':' :: (toString n).toList

/-- User, host and port of an address. -/
def authority (u : Url) : List Char :=
  (if u.user.isEmpty then [] else u.user ++ ['@']) ++ u.place

/-- An address as a text. -/
def text (u : Url) : String :=
  let scheme := if u.scheme.isEmpty then [] else u.scheme ++ [':']
  let authority := if u.authority.isEmpty then [] else '/' :: '/' :: u.authority
  String.ofList (scheme ++ authority ++ u.path ++ u.query.elim [] ('?' :: ·) ++
    u.fragment.elim [] ('#' :: ·))

/-- An address that is resolved against a base without a path: a relative address keeps its path,
from the root, and its query. -/
def resolve (base u : Url) : Url :=
  if u.isAbsolute then u
  else
    let path := '/' :: u.path.dropWhile (· == '/')
    { base with
      path := if base.isAbsolute then straighten path else path
      query := u.query
      fragment := none }

/-- The fault of an address whose host is not in plain characters, or is written in them for a name
that is none. -/
def checkHost (u : Url) : Except Fault Unit :=
  if !u.place.all fun c => c.toNat < 128 then .error (.notPlain (String.ofList u.place))
  else if Name.mark.isPrefixOf u.host then Name.check u.host
  else .ok ()

end Url

end FlightStream
