import Promotion.Check.Field
import Promotion.Graph.Connection
import Promotion.Node.Vocabulary

/-! The entries of a compiled rule: conditions, actions, logical nodes and links. -/
namespace Promotion

structure ConditionEntry where
  type : ConditionType
  operator : String
  value : Json
  id : String
  deriving DecidableEq

structure ActionEntry where
  type : ActionSubtype
  value : Amount
  id : String
  deriving DecidableEq

structure LogicalEntry where
  type : LogicalSubtype
  id : String
  deriving DecidableEq

/-- A connection of a compiled rule. -/
structure Link where
  source : String
  target : String
  output : String
  input : String
  deriving DecidableEq

inductive Entry where
  | condition (entry : ConditionEntry)
  | action (entry : ActionEntry)
  | logical (entry : LogicalEntry)
  deriving DecidableEq

namespace ConditionEntry

def toJson (e : ConditionEntry) : Json :=
  .obj [("type", .str e.type.word), ("operator", .str e.operator), ("value", e.value),
    ("id", .str e.id)]

def ofFields (fields : Fields) : Checked ConditionEntry :=
  ConditionEntry.mk
    <$> Check.required fields "type" (Check.word ConditionType.ofWord?)
    <*> Check.required fields "operator" Check.text
    <*> Check.required fields "value" Check.anything
    <*> Check.required fields "id" Check.text

def ofJson : Json → Checked ConditionEntry := Check.model ofFields

end ConditionEntry

namespace ActionEntry

def toJson (e : ActionEntry) : Json :=
  .obj [("type", .str e.type.word), ("value", e.value.toJson), ("id", .str e.id)]

def ofFields (fields : Fields) : Checked ActionEntry :=
  ActionEntry.mk
    <$> Check.required fields "type" (Check.word ActionSubtype.ofWord?)
    <*> Check.required fields "value" Check.amount
    <*> Check.required fields "id" Check.text

def ofJson : Json → Checked ActionEntry := Check.model ofFields

end ActionEntry

namespace LogicalEntry

def toJson (e : LogicalEntry) : Json := .obj [("type", .str e.type.word), ("id", .str e.id)]

def ofFields (fields : Fields) : Checked LogicalEntry :=
  LogicalEntry.mk
    <$> Check.required fields "type" (Check.word LogicalSubtype.ofWord?)
    <*> Check.required fields "id" Check.text

def ofJson : Json → Checked LogicalEntry := Check.model ofFields

end LogicalEntry

namespace Link

def ofConnection (c : Connection) : Link := ⟨c.source, c.target, c.output, c.input⟩

def toJson (l : Link) : Json :=
  .obj [("from", .str l.source), ("to", .str l.target), ("fromOutput", .str l.output),
    ("toInput", .str l.input)]

/-- Each field goes by the name it has in a document, or else by a longer one. -/
def ofFields (fields : Fields) : Checked Link :=
  let fields := Check.withAlias "from" "source" (Check.withAlias "to" "target"
    (Check.withAlias "fromOutput" "from_output" (Check.withAlias "toInput" "to_input" fields)))
  Link.mk
    <$> Check.required fields "from" Check.text
    <*> Check.required fields "to" Check.text
    <*> Check.required fields "fromOutput" Check.text
    <*> Check.required fields "toInput" Check.text

def ofJson : Json → Checked Link := Check.model ofFields

end Link

namespace Entry

def toJson : Entry → Json
  | .condition e => e.toJson
  | .action e => e.toJson
  | .logical e => e.toJson

def id : Entry → String
  | .condition e => e.id
  | .action e => e.id
  | .logical e => e.id

def kind : Entry → Kind
  | .condition _ => .condition
  | .action _ => .action
  | .logical _ => .logical

end Entry
end Promotion
