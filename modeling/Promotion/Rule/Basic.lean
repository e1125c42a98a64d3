import Promotion.Rule.Entry

/-! Compiled rules as documents: flat lists of entries with the connections between them. -/
namespace Promotion

structure Rule where
  name : String
  salience : Int
  stackable : Bool
  active : Bool
  validFrom : Option Date
  validUntil : Option Date
  conditions : List ConditionEntry
  actions : List ActionEntry
  logicals : List LogicalEntry
  links : List Link
  createdAt : DateTime
  deriving DecidableEq

namespace Rule

/-- A rule from the fields of a document. Two of them also go by a second name. -/
def ofFields (fields : Fields) : Checked Rule :=
  let fields := Check.withAlias "logicalNodes" "logical_nodes"
    (Check.withAlias "createdAt" "created_at" fields)
  Rule.mk
    <$> Check.required fields "name" Check.text
    <*> Check.required fields "salience" Check.whole
    <*> Check.required fields "stackable" Check.truth
    <*> Check.required fields "active" Check.truth
    <*> Check.optional fields "valid_from" none (Check.orNull Check.date)
    <*> Check.optional fields "valid_until" none (Check.orNull Check.date)
    <*> Check.optional fields "conditions" [] (Check.tuple ConditionEntry.ofJson)
    <*> Check.optional fields "actions" [] (Check.tuple ActionEntry.ofJson)
    <*> Check.optional fields "logicalNodes" [] (Check.tuple LogicalEntry.ofJson)
    <*> Check.optional fields "connections" [] (Check.tuple Link.ofJson)
    <*> Check.required fields "createdAt" Check.dateTime

def ofJson : Json → Checked Rule := Check.model ofFields

/-- The document of a rule with a text for the time it was made. -/
def document (r : Rule) (stamp : String) : Json :=
  .obj [("name", .str r.name), ("salience", .int r.salience), ("stackable", .bool r.stackable),
    ("active", .bool r.active), ("valid_from", Json.ofOption (fun d => .str d.text) r.validFrom),
    ("valid_until", Json.ofOption (fun d => .str d.text) r.validUntil),
    ("conditions", .arr (r.conditions.map ConditionEntry.toJson)),
    ("actions", .arr (r.actions.map ActionEntry.toJson)),
    ("logicalNodes", .arr (r.logicals.map LogicalEntry.toJson)),
    ("connections", .arr (r.links.map Link.toJson)), ("createdAt", .str stamp)]

/-- The document of a rule; nothing if the time it was made falls outside the years 1 to 9999 in
UTC. -/
def toJson? (r : Rule) : Option Json := r.createdAt.stamp?.map r.document

end Rule
end Promotion
