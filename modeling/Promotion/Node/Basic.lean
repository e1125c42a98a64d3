import Promotion.Json.Shown
import Promotion.Node.Key
import Promotion.Node.Vocabulary
import Promotion.Text.Blank
import Promotion.Text.Unit

/-! Nodes of a rule graph: rule nodes, which keep the rules for their kind, and loose nodes, which
were put together without a check. -/
namespace Promotion

/-- What a node says, apart from its id. -/
inductive Body where
  | condition (subtype : ConditionSubtype) (operator : Operator) (value : Json)
  | action (subtype : ActionSubtype) (value : Json)
  | logical (subtype : LogicalSubtype)
  deriving DecidableEq

/-- How the parts of a body do not fit together. -/
inductive BodyFault where
  | operatorNotAllowed (subtype : ConditionSubtype) (operator : Operator)
  | needsList (operator : Operator)
  | takesNoList (operator : Operator)
  | conditionValue (subtype : ConditionSubtype) (value : Json)
  | actionValue (subtype : ActionSubtype) (value : Json)

namespace ConditionSubtype

/-- Whether a single value can be compared with. -/
def admits : ConditionSubtype → Json → Bool
  | .productId, .int n => 1 ≤ n
  | .category, .int n => 1 ≤ n
  | .quantity, .int n => 0 ≤ n
  | .email, .str s => !Text.isBlank s
  | .customerTier, .str s => !Text.isBlank s
  | _, _ => false

/-- The words for what is admitted. -/
def expected : ConditionSubtype → String
  | .productId => "a positive integer"
  | .category => "a positive integer"
  | .quantity => "a non-negative integer"
  | .email => "a non-empty string"
  | .customerTier => "a non-empty string"

/-- The value of a new condition. -/
def initial? : ConditionSubtype → Option Json
  | .productId => some (.int 1)
  | .category => some (.int 1)
  | .quantity => some (.int 1)
  | _ => none

end ConditionSubtype

namespace ActionSubtype

/-- Whether a value is a size of the action. -/
def admits : ActionSubtype → Json → Bool
  | .percentageDiscount, .int n => 0 < n && n ≤ 100
  | .percentageDiscount, .float x => x.isPositiveUpTo 100
  | .freeUnits, .int n => 1 ≤ n
  | _, _ => false

/-- The words for what is admitted. -/
def expected : ActionSubtype → String
  | .percentageDiscount => "a number in (0, 100]"
  | .freeUnits => "a positive integer"

/-- The value of a new action. -/
def initial : ActionSubtype → Json
  | .percentageDiscount => .int 10
  | .freeUnits => .int 1

end ActionSubtype

namespace Body

def kind : Body → Kind
  | .condition .. => .condition
  | .action .. => .action
  | .logical .. => .logical

/-- The first value of a list that a subtype does not admit. -/
def badItem? (subtype : ConditionSubtype) (items : List Json) : Option BodyFault :=
  (items.find? fun item => !subtype.admits item).map (.conditionValue subtype)

/-- What does not fit in a body. Operators for lists take a list with something in it, all others a
single value. -/
def fault? : Body → Option BodyFault
  | .condition subtype operator value =>
    if !(Operator.allowed subtype).contains operator then
      some (.operatorNotAllowed subtype operator)
    else if operator.takesList then
      match value with
      | .arr [] => some (.needsList operator)
      | .arr items => badItem? subtype items
      | _ => some (.needsList operator)
    else
      match value with
      | .arr _ => some (.takesNoList operator)
      | value => badItem? subtype [value]
  | .action subtype value =>
    if subtype.admits value then none else some (.actionValue subtype value)
  | .logical _ => none

/-- The fields of a body. -/
def fields : Body → Fields
  | .condition subtype operator value =>
    [("kind", .str Kind.condition.word), ("subtype", .str subtype.word),
      ("operator", .str operator.word), ("value", value)]
  | .action subtype value =>
    [("kind", .str Kind.action.word), ("subtype", .str subtype.word), ("value", value)]
  | .logical subtype => [("kind", .str Kind.logical.word), ("subtype", .str subtype.word)]

end Body

namespace BodyFault

def message : BodyFault → String
  | .operatorNotAllowed subtype operator =>
    let allowed := Json.strings (Operator.sortedWords (Operator.allowed subtype))
    s!"Operator '{operator.word}' is not allowed for {subtype.word} conditions " ++
      s!"(allowed: {allowed.shown})"
  | .needsList operator => s!"Operator '{operator.word}' requires a non-empty list of values"
  | .takesNoList operator => s!"Operator '{operator.word}' does not accept lists"
  | .conditionValue subtype value =>
    s!"{subtype.word} value must be {subtype.expected}, got {value.shown}"
  | .actionValue subtype value =>
    s!"{subtype.word} value must be {subtype.expected}, got {value.shown}"

end BodyFault

/-- Whether a text can be the id of a node: it is not blank, and no half of a pair stands on its own
in it. -/
def isNodeId (s : String) : Bool := !Text.isBlank s && !Text.holdsHalf s

/-- A node that keeps the rules: its id can be one and the parts of its body fit. -/
structure RuleNode where
  id : String
  body : Body
  idFits : isNodeId id = true
  bodyFits : body.fault? = none
  deriving DecidableEq

namespace RuleNode

def kind (n : RuleNode) : Kind := n.body.kind

def fields (n : RuleNode) : Fields := ("id", .str n.id) :: n.body.fields

theorem ext {n m : RuleNode} (hid : n.id = m.id) (hbody : n.body = m.body) : n = m := by
  cases n; cases m; simp_all

end RuleNode

/-- A node that was put together without a check. Its form is the kind whose rules an edit will hold
it to; with no form, an edit may set any field. Its id is any value that gives a key. -/
structure LooseNode where
  form : Option Kind
  id : Json
  fields : Fields
  key : NodeKey
  keyed : NodeKey.ofJson? id = some key
  deriving DecidableEq

inductive Node where
  | rule (node : RuleNode)
  | loose (node : LooseNode)
  deriving DecidableEq

namespace Node

def id : Node → Json
  | .rule n => .str n.id
  | .loose n => n.id

/-- What the node is looked up by. -/
def key : Node → NodeKey
  | .rule n => .text n.id
  | .loose n => n.key

theorem ofJson?_id (n : Node) : NodeKey.ofJson? n.id = some n.key := by
  cases n with
  | rule n => rfl
  | loose n => exact n.keyed

/-- A node that is looked up by a text has that text as its id. -/
theorem key_eq_text_iff {n : Node} {s : String} : n.key = .text s ↔ n.id = .str s := by
  rw [← NodeKey.ofJson?_eq_text_iff, ofJson?_id, Option.some.injEq]

/-- The kind whose rules an edit holds the node to. -/
def form : Node → Option Kind
  | .rule n => some n.kind
  | .loose n => n.form

/-- All fields of the node as they are stored. -/
def fields : Node → Fields
  | .rule n => n.fields
  | .loose n => ("id", n.id) :: n.fields

def payload (n : Node) : Json := .obj n.fields

/-- A field of the node, if it has it. -/
def get? (n : Node) (key : String) : Option Json := n.fields.get? key

/-- What the node gives as its kind. -/
def kindValue (n : Node) : Json := (n.get? "kind").getD .null

/-- What the node gives as its subtype. -/
def subtypeValue (n : Node) : Json := (n.get? "subtype").getD .null

/-- Whether what the node gives as its kind can be looked up at all. -/
def kindIsKey (n : Node) : Bool := (NodeKey.ofJson? n.kindValue).isSome

/-- The kind of the node, if it is a known one. -/
def kind? (n : Node) : Option Kind := n.kindValue.str?.bind Kind.ofWord?

def sockets? (n : Node) : Option Sockets := n.kind?.map Kind.sockets

/-- Equality of nodes by the values of their fields. -/
def alike (n m : Node) : Bool := n.form == m.form && n.payload.alike m.payload

@[simp] theorem kind?_rule (n : RuleNode) : (Node.rule n).kind? = some n.kind := by
  obtain ⟨id, body, _, _⟩ := n
  cases body <;>
    simp [kind?, kindValue, get?, fields, RuleNode.fields, Body.fields, RuleNode.kind, Body.kind,
      Json.str?]

end Node
end Promotion
