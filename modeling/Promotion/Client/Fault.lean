import Promotion.Check.Issue
import Promotion.Client.Endpoint

/-! Why calls of the rules API fail. -/
namespace Promotion

/-- The API was not reached, or did not do what it was asked for. -/
inductive ApiFault where
  | unreachable (method : Http.Method) (path kind message : String)
  | refused (status : Nat) (message : Option Json) (fallback url : String)
  | declined (status : Nat) (message fallback : String)
  | unexpected (status : Nat) (issues : List Issue)
  | unexpectedCart (status : Nat)
  deriving DecidableEq

namespace ApiFault

/-- The words of the fault; what the API says comes before our own words, if it says anything. -/
def message : ApiFault → Json
  | .unreachable _ _ _ message => .str s!"Could not reach the promotion rules API: {message}"
  | .refused _ (some message) fallback _ => if message.truthy then message else .str fallback
  | .refused _ none fallback _ => .str fallback
  | .declined _ message fallback => .str (if message = "" then fallback else message)
  | .unexpected .. => .str "Unexpected response from the promotion rules API"
  | .unexpectedCart _ => .str "Unexpected response from the evaluation engine"

def status? : ApiFault → Option Nat
  | .unreachable .. => none
  | .refused status .. => some status
  | .declined status .. => some status
  | .unexpected status _ => some status
  | .unexpectedCart status => some status

/-- The details of a fault, its issues apart. -/
def details : ApiFault → Fields
  | .unreachable method path _ _ => [("method", .str method.word), ("path", .str path)]
  | .refused _ _ _ url => [("url", .str url)]
  | _ => []

/-- The issues with what was received. -/
def issues : ApiFault → List Issue
  | .unexpected _ issues => issues
  | _ => []

end ApiFault

/-- Why a request cannot be put together or handed over, or what comes back cannot be taken. -/
inductive RequestFault where
  | addressNotText
  | invalidUrl
  | tokenNotText
  | headerNotKey
  | headerNotText
  | headerValueNotText
  | headerNotAscii
  | closed
  | noScheme (url : String)
  deriving DecidableEq, Repr

namespace RequestFault

def message? : RequestFault → Option String
  | .noScheme url => some s!"unknown url type: {Text.quoted url}"
  | _ => none

end RequestFault

end Promotion
