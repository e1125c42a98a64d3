import Promotion.Client.Basic
import Promotion.Graph.Document

/-! Editing sessions: a graph with a counter for new ids, edits that are logged, and handing the
compiled graph in. -/
namespace Promotion

/-- The graph in hand, and the number that the next new id tries first. -/
structure Editor where
  graph : Graph
  counter : Nat
  deriving DecidableEq

/-- An edit: what it makes of an editor even if it fails, and what happened to the graph. -/
structure Edit (α : Type) where
  editor : Editor
  events : List GraphEvent
  outcome : Except Fault α

namespace Editor

def ofGraph (g : Graph) : Editor := ⟨g, 1⟩

/-- The front part of new ids: a subtype with dashes. -/
def idStem (subtype : String) : String := subtype.map fun c => if c = '_' then '-' else c

/-- The id with a number. -/
def numberedId (stem : String) (n : Nat) : String := stem ++ "-" ++ toString n

/-- The first number, from a given one on, whose id is free. One of the next `tries` ones is, when
there are fewer nodes than that. -/
def freeNumber (g : Graph) (stem : String) : (tries : Nat) → Nat → Nat
  | 0, n => n
  | tries + 1, n => if g.has (.text (numberedId stem n)) then freeNumber g stem tries (n + 1) else n

/-- A new id, and the number to go on with. -/
def newId (e : Editor) (stem : String) : String × Nat :=
  let n := freeNumber e.graph stem e.graph.size e.counter
  (numberedId stem n, n + 1)

/-- An edit that changes nothing. -/
def fail {α : Type} (e : Editor) (fault : Fault) : Edit α := ⟨e, [], .error fault⟩

/-- An edit of the graph that tells of itself. -/
def ofGraphEdit {α : Type} (e : Editor) (outcome : Except EditFault (Graph × α))
    (event : α → GraphEvent) : Edit α :=
  match outcome with
  | .ok (g, a) => ⟨{ e with graph := g }, [event a], .ok a⟩
  | .error fault => e.fail (.ofEdit fault)

/-- Adds a node under a new id. The number is spent even if the node is refused. -/
def addNew (e : Editor) (kind : Kind) (subtype : String) (more : Fields) : Edit Node :=
  let (id, counter) := e.newId (idStem subtype)
  let e := { e with counter }
  let fields := [("id", .str id), ("kind", .str kind.word), ("subtype", .str subtype)] ++ more
  match RuleNode.ofFields kind fields with
  | .invalid issues => e.fail (.invalid issues)
  | .valid n =>
    e.ofGraphEdit ((e.graph.insert (.rule n)).map fun g => (g, .rule n)) .added

/-- Adds a node of a subtype that has to be on the list for its kind. -/
def addKnown (e : Editor) (kind : Kind) (subtype : Json) (more : Fields) : Edit Node :=
  match subtype with
  | .str s =>
    if kind.knowsSubtype s then e.addNew kind s more else e.fail (.unknownSubtype subtype kind)
  | _ => e.fail (.unknownSubtype subtype kind)

def addCondition (e : Editor) (subtype operator value : Json) : Edit Node :=
  e.addKnown .condition subtype [("operator", operator), ("value", value)]

def addAction (e : Editor) (subtype value : Json) : Edit Node :=
  e.addKnown .action subtype [("value", value)]

def addLogical (e : Editor) (subtype : Json) : Edit Node :=
  e.addKnown .logical subtype []

/-- Adds a node as it is. -/
def insert (e : Editor) (n : Node) : Edit Node :=
  e.ofGraphEdit ((e.graph.insert n).map fun g => (g, n)) .added

/-- Refuses to add a value that is no node. -/
def insertValue (e : Editor) (value : Json) : Edit Node := e.fail (.notANode value.typeName)

/-- Adds a node from data. -/
def insertJson (e : Editor) (json : Json) : Edit Node :=
  e.ofGraphEdit (e.graph.insertJson json) .added

def update (e : Editor) (ref : Json) (changes : Fields) : Edit Node :=
  e.ofGraphEdit (e.graph.update ref changes) fun _ => .updated ref (Fields.keys changes)

def setOperator (e : Editor) (ref operator : Json) : Edit Node :=
  e.update ref [("operator", operator)]

def setValue (e : Editor) (ref value : Json) : Edit Node := e.update ref [("value", value)]

def remove (e : Editor) (ref : Json) : Edit Node :=
  e.ofGraphEdit (e.graph.remove ref) fun n =>
    .removed ref (e.graph.connections.filter (Graph.touches n)).length

def link (e : Editor) (source output target input : Json) : Edit Connection :=
  e.ofGraphEdit (e.graph.connect source output target input) .connected

/-- Takes a connection out; nothing is logged. -/
def unlink (e : Editor) (source output target input : Json) : Edit Connection :=
  match e.graph.disconnectValues source output target input with
  | .ok (g, c) => ⟨{ e with graph := g }, [], .ok c⟩
  | .error fault => e.fail (.ofEdit fault)

/-- The inputs of a node; a node of an unknown kind has none. -/
def inputsOf (n : Node) : Except EditFault (List String) := do
  return ((← Graph.socketsOf? n).map Sockets.inputs).getD []

/-- The outputs of a node. -/
def outputsOf (n : Node) : Except EditFault (List String) := do
  return ((← Graph.socketsOf? n).map Sockets.outputs).getD []

/-- The first input of a node that nothing is connected to. -/
def freeInput (g : Graph) (n : Node) : Except EditFault String := do
  let inputs ← inputsOf n
  match inputs.find? fun input => (g.into? n.key input).isNone with
  | some input => pure input
  | none => throw (.graph (.noFreeInput n.id inputs))

/-- The connection from the only output of a node to an input of another, by default its first free
one. -/
def connectOutput (g : Graph) (source target : Json) (input : Option Json) :
    Except EditFault (Graph × Connection) := do
  let s ← g.get source
  let t ← g.get target
  match ← outputsOf s with
  | [] => throw (.graph (.noOutputSocket source))
  | output :: _ =>
    let input ← match input with
      | some input => pure input
      | none => (freeInput g t).map .str
    g.connect source (.str output) target input

def connect (e : Editor) (source target : Json) (input : Option Json) : Edit Connection :=
  e.ofGraphEdit (connectOutput e.graph source target input) .connected

/-- Puts the graph of a document in the place of the one in hand; new ids go on as before. -/
def load (e : Editor) (limit : Json) (payload : Json) : Edit Unit :=
  match Graph.load limit payload with
  | (events, .ok g) => ⟨{ e with graph := g }, events, .ok ()⟩
  | (events, .error fault) => ⟨e, events, .error (.ofEdit fault)⟩

def editorLogger : String := "promo_builder.services.rule_editor"

/-- Compiles the graph, checks the rule and hands it in. Meanwhile log lines and requests share one
id: the current one, or a fresh one that is dropped afterwards. -/
def submit (e : Editor) (client : Client) (metadata : RuleMetadata) : Work Envelope := do
  let before ← Work.requestId
  let id ← Work.requestIdOrFresh
  Work.setRequestId id
  Work.andFinally
    (do
      let rule ← e.graph.compileLogged metadata none
      rule.checkReady none
      let envelope ← client.createRule rule
      Work.log ⟨.info, editorLogger,
        s!"Submitted rule {Text.quoted rule.name} ({rule.conditions.length} conditions, " ++
          s!"{rule.actions.length} actions)"⟩
      pure envelope)
    (Work.setRequestId before)

end Editor
end Promotion
