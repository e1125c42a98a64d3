import Promotion.Check.Field

/-! What the rules API answers with: an envelope around every answer, and stored rules. -/
namespace Promotion

structure Envelope where
  success : Bool
  message : String
  data : Json
  deriving DecidableEq

namespace Envelope

def ofFields (fields : Fields) : Checked Envelope :=
  Envelope.mk
    <$> Check.required fields "success" Check.truth
    <*> Check.optional fields "message" "" Check.text
    <*> Check.optional fields "data" .null Check.anything

def ofJson : Json → Checked Envelope := Check.model ofFields

def toJson (e : Envelope) : Json :=
  .obj [("success", .bool e.success), ("message", .str e.message), ("data", e.data)]

end Envelope

/-- A rule as the API keeps it. -/
structure StoredRule where
  id : Int
  name : String
  salience : Int
  stackable : Bool
  active : Bool
  validFrom : Option DateTime
  validUntil : Option DateTime
  conditions : List Fields
  actions : List Fields
  visualData : Option String
  createdAt : Option DateTime
  updatedAt : Option DateTime
  deriving DecidableEq

namespace StoredRule

def ofFields (fields : Fields) : Checked StoredRule :=
  StoredRule.mk
    <$> Check.required fields "id" Check.whole
    <*> Check.required fields "name" Check.text
    <*> Check.required fields "salience" Check.whole
    <*> Check.required fields "stackable" Check.truth
    <*> Check.required fields "active" Check.truth
    <*> Check.optional fields "valid_from" none (Check.orNull Check.dateTime)
    <*> Check.optional fields "valid_until" none (Check.orNull Check.dateTime)
    <*> Check.optional fields "conditions" [] (Check.list Check.object)
    <*> Check.optional fields "actions" [] (Check.list Check.object)
    <*> Check.optional fields "visual_data" none (Check.orNull Check.text)
    <*> Check.optional fields "created_at" none (Check.orNull Check.dateTime)
    <*> Check.optional fields "updated_at" none (Check.orNull Check.dateTime)

def ofJson : Json → Checked StoredRule := Check.model ofFields

def time : Option DateTime → Json := Json.ofOption fun t => .str t.text

def toJson (r : StoredRule) : Json :=
  .obj [("id", .int r.id), ("name", .str r.name), ("salience", .int r.salience),
    ("stackable", .bool r.stackable), ("active", .bool r.active),
    ("valid_from", time r.validFrom), ("valid_until", time r.validUntil),
    ("conditions", .arr (r.conditions.map .obj)), ("actions", .arr (r.actions.map .obj)),
    ("visual_data", Json.ofOption .str r.visualData), ("created_at", time r.createdAt),
    ("updated_at", time r.updatedAt)]

end StoredRule

structure StoredRules where
  rules : List StoredRule
  total : Int
  deriving DecidableEq

namespace StoredRules

def ofFields (fields : Fields) : Checked StoredRules :=
  StoredRules.mk
    <$> Check.optional fields "data" [] (Check.list StoredRule.ofJson)
    <*> Check.optional fields "total" 0 Check.whole

def ofJson : Json → Checked StoredRules := Check.model ofFields

def toJson (r : StoredRules) : Json :=
  .obj [("data", .arr (r.rules.map StoredRule.toJson)), ("total", .int r.total)]

end StoredRules
end Promotion
