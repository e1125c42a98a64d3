import Promotion.Graph.Basic
import Promotion.Rule.Basic
import Promotion.Rule.Metadata

/-! Compiling a graph into a rule: each node becomes an entry on the list for its kind, and a node
of an unknown kind or subtype stops the whole. -/
namespace Promotion

/-- Why a graph cannot be compiled. -/
inductive CompileFault where
  | unknownType (id kind subtype : Json)
  | unusableSubtype
  | missingField
  | invalid (issues : List Issue)
  deriving DecidableEq

/-- Data that go into a rule. -/
def CompileFault.ofChecked {α : Type} : Checked α → Except CompileFault α
  | .valid a => .ok a
  | .invalid issues => .error (.invalid issues)

namespace Node

def unknownType (n : Node) : CompileFault := .unknownType n.id n.kindValue n.subtypeValue

/-- The subtype of a node, if it is a known word; an array or object cannot be looked up. -/
def knownSubtype {α : Type} (n : Node) (ofWord? : String → Option α) : Except CompileFault α :=
  match n.subtypeValue with
  | .arr _ => .error .unusableSubtype
  | .obj _ => .error .unusableSubtype
  | json =>
    match json.str?.bind ofWord? with
    | some a => .ok a
    | none => .error n.unknownType

/-- A field that an entry needs. -/
def needed (n : Node) (key : String) : Except CompileFault Json :=
  match n.get? key with
  | some json => .ok json
  | none => .error .missingField

/-- The id of a node, which has to be text in an entry. -/
def checkId (n : Node) : Checked String := (Check.text n.id).under "id"

/-- An entry, if its fields have no issues. -/
def entryOf {α : Type} (f : α → Entry) (checked : Checked α) : Except CompileFault Entry :=
  CompileFault.ofChecked (checked.map f)

/-- The entry that a node becomes. -/
def compile (n : Node) : Except CompileFault Entry :=
  match n.kind? with
  | some .condition => do
    let subtype ← n.knownSubtype ConditionSubtype.ofWord?
    let operator ← n.needed "operator"
    let value ← n.needed "value"
    entryOf .condition
      ((fun operator id => ⟨subtype.compiled, operator, value, id⟩)
        <$> (Check.text operator).under "operator" <*> n.checkId)
  | some .action => do
    let subtype ← n.knownSubtype ActionSubtype.ofWord?
    let value ← n.needed "value"
    entryOf .action
      ((fun value id => ⟨subtype, value, id⟩)
        <$> (Check.amount value).under "value" <*> n.checkId)
  | some .logical => do
    let subtype ← n.knownSubtype LogicalSubtype.ofWord?
    entryOf .logical ((fun id => ⟨subtype, id⟩) <$> n.checkId)
  | none => throw n.unknownType

end Node

namespace Entry

def condition? : Entry → Option ConditionEntry
  | .condition e => some e
  | _ => none

def action? : Entry → Option ActionEntry
  | .action e => some e
  | _ => none

def logical? : Entry → Option LogicalEntry
  | .logical e => some e
  | _ => none

end Entry

/-- The name of a rule that was given none. -/
def defaultName (now : DateTime) : String :=
  "Rule_" ++ String.ofList (Json.intText now.nameMillis)

namespace Graph

/-- The rule of a graph, with the time it was made at. A time without offset is UTC, and the
salience has to stand for a whole number. -/
def compile (g : Graph) (metadata : RuleMetadata) (now : DateTime) : Except CompileFault Rule := do
  let entries ← g.nodes.mapM Node.compile
  let now := now.orUtc
  let salience ← CompileFault.ofChecked ((Check.whole metadata.salience).under "salience")
  pure {
    name := if metadata.name = "" then defaultName now else metadata.name
    salience
    stackable := metadata.stackable
    active := metadata.active
    validFrom := metadata.validFrom
    validUntil := metadata.validUntil
    conditions := entries.filterMap Entry.condition?
    actions := entries.filterMap Entry.action?
    logicals := entries.filterMap Entry.logical?
    links := g.connections.map Link.ofConnection
    createdAt := now }

end Graph
end Promotion
