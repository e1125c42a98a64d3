import Promotion.Http.Exchange
import Promotion.Json.Shown

/-! The endpoints of the rules API. -/
namespace Promotion

inductive Endpoint where
  | createRule
  | listRules
  | deleteRule
  | evaluate
  deriving DecidableEq, Repr

namespace Endpoint

def all : List Endpoint := [.createRule, .listRules, .deleteRule, .evaluate]

def word : Endpoint → String
  | .createRule => "create_rule"
  | .listRules => "list_rules"
  | .deleteRule => "delete_rule"
  | .evaluate => "evaluate"

def method : Endpoint → Http.Method
  | .createRule => .post
  | .listRules => .get
  | .deleteRule => .delete
  | .evaluate => .post

end Endpoint

def rulesPath : String := "/admin/promotion-rules"

def evaluatePath : String := "/evaluate"

/-- The path of a stored rule. -/
def rulePath (id : Json) : String := rulesPath ++ "/" ++ id.plain

/-- How a request went. -/
inductive Outcome where
  | ok
  | error
  | transportError
  deriving DecidableEq, Repr

namespace Outcome

def all : List Outcome := [.ok, .error, .transportError]

def word : Outcome → String
  | .ok => "ok"
  | .error => "error"
  | .transportError => "transport_error"

def ofReply : Http.Reply → Outcome
  | .failure .. => .transportError
  | .response status _ => if Http.isError status then .error else .ok

end Outcome

/-- What a form makes of a value inside a list or on its own. -/
def formValue : Json → String
  | .bool true => "true"
  | .bool false => "false"
  | .null => ""
  | json => json.plain

/-- The query that searches the stored rules. A list stands for several values. -/
def searchQuery (search : Json) : List Char :=
  let values := match search with
    | .arr items => items.map formValue
    | json => [formValue json]
  List.intercalate ['&'] (values.map fun s =>
    Http.percentEncode Http.querySafe ("search=".toList ++ Http.formEncode s.toList))

end Promotion
