import Promotion.Check.Field
import Promotion.Node.Basic

/-! Reading nodes from data, and changing their fields. -/
namespace Promotion

open Checked

/-- The id of a node: text of whole characters that is neither empty nor blank. -/
def nodeId (json : Json) : Checked String :=
  match json with
  | .str s =>
    if Text.holdsHalf s then reject .notUnicode
    else if s = "" then reject .textTooShort
    else if Text.isBlank s then reject (.rejected "node id cannot be blank")
    else .valid s
  | _ => reject .notText

/-- The kind of a node whose kind is settled already. -/
def fixedKind (kind : Kind) (fields : Fields) : Checked Unit :=
  Check.optional fields "kind" () fun json =>
    if json.str? = some kind.word then .valid () else reject .notLiteral

/-- The fields that nodes of a kind have. -/
def fieldNames : Kind → List String
  | .condition => ["id", "kind", "subtype", "operator", "value"]
  | .action => ["id", "kind", "subtype", "value"]
  | .logical => ["id", "kind", "subtype"]

/-- Refuses every field that is not on a list. -/
def onlyFields (names : List String) (fields : Fields) : Checked Unit :=
  match fields.keys.filter fun key => !names.contains key with
  | [] => .valid ()
  | extra => .invalid (extra.map fun key => ⟨.unexpected, [key]⟩)

/-- The value that a missing or null value stands for. -/
def initialValue? (kind : Kind) (fields : Fields) : Option Json :=
  let subtype? := (fields.get? "subtype").bind Json.str?
  match kind with
  | .condition => (subtype?.bind ConditionSubtype.ofWord?).bind ConditionSubtype.initial?
  | .action => (subtype?.bind ActionSubtype.ofWord?).map ActionSubtype.initial
  | .logical => none

/-- Puts the initial value in the place of a missing or null one. -/
def fillValue (kind : Kind) (fields : Fields) : Fields :=
  match (fields.get? "value").getD .null, initialValue? kind fields with
  | .null, some value => fields.put "value" value
  | _, _ => fields

/-- The body that fields describe, each field on its own. -/
def readBody (kind : Kind) (fields : Fields) : Checked Body :=
  match kind with
  | .condition =>
    Body.condition
      <$> Check.required fields "subtype" (Check.word ConditionSubtype.ofWord?)
      <*> Check.optional fields "operator" .equals (Check.word Operator.ofWord?)
      <*> Check.optional fields "value" .null Check.anything
  | .action =>
    Body.action
      <$> Check.required fields "subtype" (Check.word ActionSubtype.ofWord?)
      <*> Check.optional fields "value" .null Check.anything
  | .logical =>
    Body.logical <$> Check.required fields "subtype" (Check.word LogicalSubtype.ofWord?)

/-- Id and body from fields; whether the parts of the body fit is left open. -/
def readParts (kind : Kind) (fields : Fields) : Checked (String × Body) :=
  (fun id _ body _ => (id, body))
    <$> Check.required fields "id" nodeId
    <*> fixedKind kind fields
    <*> readBody kind fields
    <*> onlyFields (fieldNames kind) fields

namespace RuleNode

/-- A node from an id and a body. What does not fit in the body is told last. -/
def of (id : String) (body : Body) : Checked RuleNode :=
  if hid : isNodeId id = true then
    match hfit : body.fault? with
    | none => .valid ⟨id, body, hid, hfit⟩
    | some fault => reject (.rejected fault.message)
  else reject (.rejected "node id cannot be blank")

/-- A node of a kind from its fields. -/
def ofFields (kind : Kind) (fields : Fields) : Checked RuleNode :=
  (readParts kind (fillValue kind fields)).andThen fun (id, body) => of id body

/-- A node from data, by the kind the data names. -/
def parse : Json → Checked RuleNode
  | .obj fields =>
    match Fields.get? fields "kind" with
    | none => reject .noTag
    | some tag =>
      match tag.str?.bind Kind.ofWord? with
      | some kind => (ofFields kind fields).under kind.word
      | none => reject .unknownTag
  | _ => reject .notAttributes

end RuleNode

/-- Why an edit of a node fails. -/
inductive NodeFault where
  | reservedName
  | fixedField (name : String)
  | noSuchSetter
  | invalid (issues : List Issue)
  deriving DecidableEq, Repr

/-- The fields of a node that no edit may change. -/
def fixedFields : List String := ["id", "kind"]

/-- A node without a form from its fields; only its id and kind have to be text. -/
def LooseNode.ofFields (fields : Fields) : Checked LooseNode :=
  (fun id _ => ⟨none, .str id, fields.filter fun field => field.1 != "id", .text id, rfl⟩)
    <$> Check.required fields "id" nodeId
    <*> Check.optional fields "kind" "" Check.text

/-- Why a loose node cannot be put together. -/
inductive AssemblyFault where
  | noId
  | noKey
  | noSubtype
  | unknownSubtype (value : Json) (kind : Kind)
  deriving DecidableEq

namespace LooseNode

/-- The fields that a loose node has even if nothing is said about them. -/
def initialFields : Option Kind → Fields
  | some .condition =>
    [("kind", .str Kind.condition.word), ("operator", .str Operator.equals.word), ("value", .null)]
  | some .action => [("kind", .str Kind.action.word), ("value", .null)]
  | some .logical => [("kind", .str Kind.logical.word)]
  | none => [("kind", .str "bundle")]

/-- The fields of a form, out of all that are given. -/
def ownFields (form : Option Kind) (fields : Fields) : Fields :=
  fields.filter fun field => field.1 != "id" &&
    match form with
    | some kind => (fieldNames kind).contains field.1
    | none => true

/-- A loose node from fields, none of which is checked. Its id has to give a key. -/
def assemble (form : Option Kind) (fields : Fields) : Except AssemblyFault LooseNode :=
  match Fields.get? fields "id" with
  | none => .error .noId
  | some id =>
    match h : NodeKey.ofJson? id with
    | none => .error .noKey
    | some key => .ok ⟨form, id, (initialFields form).putAll (ownFields form fields), key, h⟩

/-- Whether fields give a subtype that is on the list for a form. -/
def checkSubtype (form : Option Kind) (fields : Fields) : Except AssemblyFault Unit :=
  match form, Fields.get? fields "subtype" with
  | some kind, some subtype =>
    match subtype.str? with
    | some word => if kind.knowsSubtype word then .ok () else .error (.unknownSubtype subtype kind)
    | none => .error (.unknownSubtype subtype kind)
  | _, _ => .error .noSubtype

end LooseNode

namespace Node

/-- The node with some fields put over its own, checked anew by the rules of its form. -/
def revised (n : Node) (changes : Fields) : Checked Node :=
  let fields := Fields.putAll n.fields changes
  match n.form with
  | some kind => (RuleNode.ofFields kind fields).map .rule
  | none => (LooseNode.ofFields fields).map .loose

/-- The node with some fields changed. One name is taken by the node itself. -/
def updated (n : Node) (changes : Fields) : Except NodeFault Node :=
  if Fields.has changes "self" then .error .reservedName
  else
    match fixedFields.find? fun name => Fields.has changes name with
    | some name => .error (.fixedField name)
    | none =>
      match n.revised changes with
      | .valid n => .ok n
      | .invalid issues => .error (.invalid issues)

/-- The node with another value, if nodes of its form have one. -/
def withValue (n : Node) (value : Json) : Except NodeFault Node :=
  match n.form with
  | some .condition => n.updated [("value", value)]
  | some .action => n.updated [("value", value)]
  | _ => .error .noSuchSetter

/-- The node with another operator, if nodes of its form have one. -/
def withOperator (n : Node) (operator : Json) : Except NodeFault Node :=
  match n.form with
  | some .condition => n.updated [("operator", operator)]
  | _ => .error .noSuchSetter

/-- Sets a field in place, which is refused. A name that starts with an underscore is no field: it
is taken, and changes nothing. -/
def assign (n : Node) (field : String) : Except NodeFault Node :=
  if field.toList.head? = some '_' then .ok n else .error (.invalid [⟨.frozen, [field]⟩])

end Node
end Promotion
