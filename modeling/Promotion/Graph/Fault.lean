import Promotion.Graph.Connection
import Promotion.Node.Reading

/-! Why edits of a graph fail, in words and in the details that go with the words. -/
namespace Promotion

/-- Why an edit of a graph fails. Ids and sockets that were asked for may be any value. -/
inductive GraphFault where
  | duplicateId (id : Json)
  | full (id limit : Json)
  | unknownNode (ref : Json)
  | unknownEndpoint (ref source target : Json)
  | unknownKind (id kind : Json)
  | noOutput (ref : Json) (kind : Kind) (socket : Json)
  | noInput (ref : Json) (kind : Kind) (socket : Json)
  | occupied (id input source : String)
  | cycle (source target : Json)
  | fixedFields (ref : Json) (names : List String)
  | noConnection (connection : Connection)
  | malformedPayload (typeName : String)
  | noOutputSocket (ref : Json)
  | noFreeInput (id : Json) (inputs : List String)
  deriving DecidableEq

namespace GraphFault

/-- The words of a fault. A kind or a limit that is a whole number is taken to have no more digits
than are written; nodes that were checked have no such kind. -/
def message : GraphFault → String
  | .duplicateId id => s!"A node with id '{id.plain}' already exists in this rule"
  | .full _ limit => s!"A rule cannot contain more than {limit.plain} nodes"
  | .unknownNode ref => s!"Node '{ref.plain}' does not exist in this rule"
  | .unknownEndpoint ref _ _ => s!"Cannot connect: node '{ref.plain}' does not exist in this rule"
  | .unknownKind id kind => s!"Node '{id.plain}' has unrecognized kind '{kind.plain}'"
  | .noOutput ref kind socket =>
    s!"Node '{ref.plain}' ({kind.word}) has no output socket '{socket.plain}'"
  | .noInput ref kind socket =>
    s!"Node '{ref.plain}' ({kind.word}) has no input socket '{socket.plain}'"
  | .occupied id input source =>
    s!"Input '{input}' of node '{id}' is already connected to '{source}'"
  | .cycle source target =>
    s!"Connecting '{source.plain}' to '{target.plain}' would create a cycle"
  | .fixedFields _ names => "Node " ++ String.intercalate ", " names ++ " cannot be changed"
  | .noConnection c =>
    s!"No connection from '{c.source}.{c.output}' to '{c.target}.{c.input}'"
  | .malformedPayload _ => "Graph payload must contain 'nodes' and 'connections' lists"
  | .noOutputSocket ref => s!"Node '{ref.plain}' has no output socket"
  | .noFreeInput id _ => s!"Node '{id.plain}' has no free input socket"

def details : GraphFault → Fields
  | .duplicateId id => [("node_id", id)]
  | .full id limit => [("node_id", id), ("max_nodes", limit)]
  | .unknownNode ref => [("node_id", ref)]
  | .unknownEndpoint ref source target =>
    [("node_id", ref), ("source", source), ("target", target)]
  | .unknownKind id kind => [("node_id", id), ("kind", kind)]
  | .noOutput ref kind socket =>
    [("node_id", ref), ("socket", socket),
      ("available_outputs", Json.strings kind.sockets.outputs)]
  | .noInput ref kind socket =>
    [("node_id", ref), ("socket", socket),
      ("available_inputs", Json.strings kind.sockets.inputs)]
  | .occupied id input source =>
    [("node_id", .str id), ("socket", .str input), ("connected_source", .str source)]
  | .cycle source target => [("source", source), ("target", target)]
  | .fixedFields ref names => [("node_id", ref), ("fields", Json.strings names)]
  | .noConnection c => c.fields
  | .malformedPayload typeName => [("payload_type", .str typeName)]
  | .noOutputSocket ref => [("node_id", ref)]
  | .noFreeInput id inputs => [("node_id", id), ("inputs", Json.strings inputs)]

end GraphFault

/-- Why an edit fails: the graph does not take it, its data are at fault, or a value is of a type
that cannot be looked up, compared or used as a name. -/
inductive EditFault where
  | graph (fault : GraphFault)
  | invalid (issues : List Issue)
  | noKey
  | noNumber
  | reservedName
  deriving DecidableEq

namespace EditFault

/-- Data, among all edits. -/
def ofChecked {α : Type} : Checked α → Except EditFault α
  | .valid a => .ok a
  | .invalid issues => .error (.invalid issues)

end EditFault
end Promotion
