import Promotion.Http.Encoding
import Promotion.Http.Url
import Promotion.Json.Reader

/-! Requests, what comes back for them, and their headers. -/
namespace Promotion.Http

/-- Headers in order. Names are compared without regard to case. -/
abbrev Headers := List (String × String)

namespace Headers

def sameName (a b : String) : Bool := Text.lower a == Text.lower b

/-- The values of a header, joined, if there is one. -/
def get? (headers : Headers) (name : String) : Option String :=
  match headers.filter fun header => sameName header.1 name with
  | [] => none
  | found => some (String.intercalate ", " (found.map (·.2)))

/-- Puts headers in the place of those with the same names. -/
def override (headers others : Headers) : Headers :=
  headers.filter (fun header => !others.any fun other => sameName other.1 header.1) ++ others

end Headers

inductive Method where
  | get
  | post
  | delete
  deriving DecidableEq, Repr

def Method.word : Method → String
  | .get => "GET"
  | .post => "POST"
  | .delete => "DELETE"

structure Request where
  method : Method
  url : Url
  headers : Headers
  body : String
  deriving DecidableEq, Repr

/-- What comes of a request: a response, or the kind and words of a failure on the way. -/
inductive Reply where
  | response (status : Nat) (body : ByteArray)
  | failure (kind message : String)

/-- Whether a status tells of an error. -/
def isError (status : Nat) : Bool := 400 ≤ status && status ≤ 599

/-- The status of a response that has no content. -/
def noContent : Nat := 204

/-- The value that a body holds, or nothing if the body is no JSON. Only one that is nested too deep
is a fault. -/
def bodyJson (limits : Json.Limits) (body : ByteArray) : Except Json.ReadFault (Option Json) :=
  match (jsonText? body.data.toList).map (Json.readWithin limits) with
  | some (.ok json) => .ok (some json)
  | some (.error .tooDeep) => .error .tooDeep
  | _ => .ok none

end Promotion.Http
