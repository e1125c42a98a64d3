import Promotion.Graph.Basic
import Promotion.Log.Line

/-! Graphs as documents: writing one out, and building one up again node by node and connection by
connection. What happens to a graph is noted in the log. -/
namespace Promotion

/-- What was done to a graph. -/
inductive GraphEvent where
  | added (node : Node)
  | updated (ref : Json) (names : List String)
  | removed (ref : Json) (connections : Nat)
  | connected (connection : Connection)
  | loaded (nodes connections : Nat)

namespace GraphEvent

def message : GraphEvent → String
  | .added n => s!"Added {n.kindValue.plain} node {n.id.plain}"
  | .updated ref names =>
    s!"Updated node {ref.plain}: {(Json.strings (names.mergeSort fun a b => a ≤ b)).shown}"
  | .removed ref connections => s!"Removed node {ref.plain} and {connections} connection(s)"
  | .connected c => s!"Connected {c.source}.{c.output} -> {c.target}.{c.input}"
  | .loaded nodes connections =>
    s!"Loaded graph with {nodes} node(s) and {connections} connection(s)"

def line (event : GraphEvent) : LogLine :=
  ⟨.debug, "promo_builder.graph.rule_graph", event.message⟩

end GraphEvent

namespace Graph

/-- The document of a graph. -/
def payload (g : Graph) : Json :=
  .obj [("nodes", .arr (g.nodes.map Node.payload)),
    ("connections", .arr (g.connections.map Connection.payload))]

/-- A list under a key of a document; a missing one is empty. -/
def listIn? (payload : Json) (key : String) : Option (List Json) :=
  match payload with
  | .obj fields => ((Fields.get? fields key).getD (.arr [])).items?
  | _ => none

/-- Adds a node from data. -/
def insertJson (g : Graph) (json : Json) : Except EditFault (Graph × Node) := do
  let n ← EditFault.ofChecked (RuleNode.parse json)
  let g ← g.insert (.rule n)
  pure (g, .rule n)

/-- Adds a connection from data. -/
def connectJson (g : Graph) (json : Json) : Except EditFault (Graph × Connection) := do
  let c ← EditFault.ofChecked (Connection.ofJson json)
  g.connect (.str c.source) (.str c.output) (.str c.target) (.str c.input)

/-- Adds data one after the other, up to the first that fails, and tells of each. -/
def replay {α : Type} (step : Graph → Json → Except EditFault (Graph × α))
    (event : α → GraphEvent) : Graph → List Json → List GraphEvent × Except EditFault Graph
  | g, [] => ([], .ok g)
  | g, x :: xs =>
    match step g x with
    | .error fault => ([], .error fault)
    | .ok (g, a) =>
      let (events, outcome) := replay step event g xs
      (event a :: events, outcome)

/-- A graph from a document. What was done up to a failure is told, too. -/
def load (limit : Json) (payload : Json) : List GraphEvent × Except EditFault Graph :=
  match listIn? payload "nodes", listIn? payload "connections" with
  | some nodes, some connections =>
    match replay insertJson .added (empty limit) nodes with
    | (events, .error fault) => (events, .error fault)
    | (events, .ok g) =>
      match replay connectJson .connected g connections with
      | (more, .error fault) => (events ++ more, .error fault)
      | (more, .ok g) =>
        (events ++ more ++ [.loaded g.size g.connections.length], .ok g)
  | _, _ => ([], .error (.graph (.malformedPayload payload.typeName)))

/-- A graph from a document, without a word of how it went. -/
def ofPayload (limit : Json) (payload : Json) : Except EditFault Graph := (load limit payload).2

end Graph
end Promotion
