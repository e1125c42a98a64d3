import Promotion.Http.Host
import Promotion.Number.Numeral

/-! Addresses: reading one, setting a path behind a base address, and writing it. -/
namespace Promotion.Http

/-- An address in its written form: every part is percent-encoded, and dot segments are resolved
behind a scheme or an authority. -/
structure Url where
  scheme : List Char
  authority : List Char
  path : List Char
  query : Option (List Char)
  fragment : Option (List Char)
  deriving DecidableEq, Repr

namespace Url

def isControl (c : Char) : Bool := c.toNat < 0x20 || c.toNat = 0x7f

def maxLength : Nat := 65536

/-- Splits a text at the first character that satisfies a test; that character is left out. -/
def cutAt (p : Char → Bool) (cs : List Char) : List Char × Option (List Char) :=
  match cs.dropWhile fun c => !p c with
  | [] => (cs.takeWhile fun c => !p c, none)
  | _ :: rest => (cs.takeWhile fun c => !p c, some rest)

/-- The pieces of a text between slashes. -/
def segments : List Char → List (List Char)
  | [] => [[]]
  | c :: cs =>
    match segments cs with
    | [] => [[c]]
    | piece :: pieces => if c = '/' then [] :: piece :: pieces else (c :: piece) :: pieces

/-- Takes one more segment onto a path. `.` stays where it is, `..` goes back one segment but not
behind the root. -/
def resolveStep (done : List (List Char)) (segment : List Char) : List (List Char) :=
  if segment = ['.'] then done
  else if segment = ['.', '.'] then (if done = [] ∨ done = [[]] then done else done.dropLast)
  else done ++ [segment]

/-- A path with its dot segments resolved. -/
def resolveDots (path : List Char) : List Char :=
  List.intercalate ['/'] ((segments path).foldl resolveStep [])

/-- The port that goes without saying. -/
def defaultPort? (scheme : List Char) : Option Int :=
  match String.ofList scheme with
  | "ftp" => some 21
  | "http" => some 80
  | "https" => some 443
  | "ws" => some 80
  | "wss" => some 443
  | _ => none

/-- A port behind its colon; nothing for none and for the default one. -/
def portText (scheme port : List Char) : Option (List Char) :=
  if port.isEmpty then some []
  else
    match Number.readArgument (String.ofList port) with
    | .ok n => some (if defaultPort? scheme = some n then [] else ':' :: (toString n).toList)
    | .error _ => none

/-- Host and port of an authority. A host in brackets may hold colons. -/
def splitPort (cs : List Char) : List Char × List Char :=
  let (host, rest) :=
    if cs.head? = some '[' ∧ cs.contains ']' then
      ((cs.reverse.dropWhile (· != ']')).reverse, (cs.reverse.takeWhile (· != ']')).reverse)
    else (cs.takeWhile (· != ':'), cs.dropWhile (· != ':'))
  match rest with
  | ':' :: port => (host, port)
  | port => (host, port)

/-- The user in front of a host, up to the last `@`, and the rest. -/
def splitUser (cs : List Char) : List Char × List Char :=
  let (host, user) := cutAt (· == '@') cs.reverse
  match user with
  | some user => (user.reverse, host.reverse)
  | none => ([], cs)

/-- An authority in its written form: the host as it is written, the default port left out. -/
def authorityText (scheme cs : List Char) : Option (List Char) := do
  let (user, rest) := splitUser cs
  let (host, port) := splitPort rest
  let host ← Host.text? host
  let port ← portText scheme port
  let user := percentEncode userSafe user
  pure ((if user.isEmpty then [] else user ++ ['@']) ++ host ++ port)

/-- The scheme in front of an address, and the rest. -/
def splitScheme (cs : List Char) : List Char × List Char :=
  let isSchemeChar (c : Char) : Bool := c.isAlphanum || c == '+' || c == '.' || c == '-'
  match cs.takeWhile isSchemeChar, cs.dropWhile isSchemeChar with
  | [], ':' :: rest => ([], rest)
  | c :: name, ':' :: rest => if c.isAlpha then ((c :: name).map Text.small, rest) else ([], cs)
  | _, _ => ([], cs)

/-- The authority of an address behind its scheme, if there is one, and the rest. -/
def splitAuthority (cs : List Char) : List Char × List Char :=
  match cs with
  | '/' :: '/' :: rest =>
    let isEnd (c : Char) : Bool := c == '/' || c == '?' || c == '#'
    (rest.takeWhile fun c => !isEnd c, rest.dropWhile fun c => !isEnd c)
  | _ => ([], cs)

/-- An address from its parts, of which the authority and the fragment are in their written form. On
its own, a path must not look like another part. -/
def ofParts (scheme authority path : List Char) (query fragment : Option (List Char)) :
    Option Url :=
  let absolute := !scheme.isEmpty || !authority.isEmpty
  let path := percentEncode pathSafe (if absolute then resolveDots path else path)
  if !absolute && ("//".toList.isPrefixOf path || ":".toList.isPrefixOf path) then none
  else some ⟨scheme, authority, path, query.map (percentEncode querySafe), fragment⟩

/-- Reads an address. Control characters are refused everywhere. -/
def ofChars? (cs : List Char) : Option Url :=
  if cs.any isControl || maxLength < cs.length then none
  else
    let (scheme, rest) := splitScheme cs
    let (authority, rest) := splitAuthority rest
    let (rest, fragment) := cutAt (· == '#') rest
    let (path, query) := cutAt (· == '?') rest
    (authorityText scheme authority).bind fun authority =>
      ofParts scheme authority path query (fragment.map (percentEncode fragmentSafe))

/-- The address with another path and query. No part may be too long, and the authority is read
again. -/
def withParts (u : Url) (path : List Char) (query : Option (List Char)) : Option Url :=
  let parts := [u.scheme, u.authority, path, query.getD [], u.fragment.getD []]
  if parts.any fun part => maxLength < part.length then none
  else
    (authorityText u.scheme u.authority).bind fun authority =>
      ofParts u.scheme authority path query u.fragment

/-- Path and query as they stand in a request. -/
def rawPath (u : Url) : List Char :=
  (if u.path.isEmpty then ['/'] else u.path) ++
    match u.query with
    | some query => '?' :: query
    | none => []

/-- The address with another path and query, given in one. -/
def withRawPath (u : Url) (raw : List Char) : Option Url :=
  let (path, query) := cutAt (· == '?') raw
  u.withParts path query

/-- A base address: its path ends with a slash. -/
def asBase (u : Url) : Option Url :=
  if "/".toList.isSuffixOf u.rawPath then some u else u.withRawPath (u.rawPath ++ ['/'])

/-- The address of a path behind a base address. -/
def join (base : Url) (reference : List Char) : Option Url :=
  (ofChars? reference).bind fun reference =>
    base.withRawPath (base.rawPath ++ reference.rawPath.dropWhile (· == '/'))

/-- The address with a query of encoded fields. -/
def withQuery (u : Url) (query : List Char) : Option Url := u.withParts u.path (some query)

/-- User and password, as bytes, if an address shows any. -/
def credentials? (u : Url) : Option (List UInt8 × List UInt8) :=
  let (user, password) := cutAt (· == ':') (splitUser u.authority).1
  let password := password.getD []
  let bytes (cs : List Char) : List UInt8 := (percentDecode cs).flatMap String.utf8EncodeChar
  if user.isEmpty && password.isEmpty then none else some (bytes user, bytes password)

def chars (u : Url) : List Char :=
  (if u.scheme.isEmpty then [] else u.scheme ++ [':']) ++
    (if u.authority.isEmpty then [] else '/' :: '/' :: u.authority) ++ u.path ++
    (match u.query with
      | some query => '?' :: query
      | none => []) ++
    match u.fragment with
    | some fragment => '#' :: fragment
    | none => []

def text (u : Url) : String := String.ofList u.chars

/-- The text of an address in front of the last number sign; all of it if there is none. -/
def trunk (cs : List Char) : List Char :=
  if cs.contains '#' then ((cs.reverse.dropWhile (· != '#')).drop 1).reverse else cs

/-- The text of an address that nothing like a scheme stands in front of, without a number sign at
its end. -/
def schemeFault? (u : Url) : Option String :=
  let cs := u.chars
  let isEnd (c : Char) : Bool := c == ':' || c == '/'
  let named :=
    match (trunk cs).takeWhile (fun c => !isEnd c), (trunk cs).dropWhile (fun c => !isEnd c) with
    | _ :: _, ':' :: _ => true
    | _, _ => false
  if named then none
  else some (String.ofList (if cs.getLast? = some '#' then cs.dropLast else cs))

end Url
end Promotion.Http
