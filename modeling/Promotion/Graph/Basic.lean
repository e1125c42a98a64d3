import Promotion.Graph.Fault
import Promotion.Graph.Reachability

/-! Rule graphs: nodes under distinct keys, the connections between them, and a limit on their
number. -/
namespace Promotion

/-- Nodes and connections are kept in the order in which they came. The limit is a number, or a
value that no number can be compared with. -/
structure Graph where
  nodes : List Node
  connections : List Connection
  limit : Json
  deriving DecidableEq

namespace Graph

def empty (limit : Json) : Graph := ⟨[], [], limit⟩

def ids (g : Graph) : List Json := g.nodes.map Node.id

def keys (g : Graph) : List NodeKey := g.nodes.map Node.key

def size (g : Graph) : Nat := g.nodes.length

def node? (g : Graph) (key : NodeKey) : Option Node := g.nodes.find? fun n => n.key == key

def has (g : Graph) (key : NodeKey) : Bool := g.nodes.any fun n => n.key == key

/-- The node that a value names, if any. -/
def named? (g : Graph) (ref : Json) : Except EditFault (Option Node) :=
  match NodeKey.ofJson? ref with
  | some key => .ok (g.node? key)
  | none => .error .noKey

def get (g : Graph) (ref : Json) : Except EditFault Node := do
  match ← g.named? ref with
  | some n => pure n
  | none => throw (.graph (.unknownNode ref))

/-- Whether a limit is reached by a number of nodes; nothing if it is no number. -/
def reached? (size : Nat) : (limit : Json) → Option Bool
  | .int n => some (n ≤ size)
  | .bool b => some ((if b then 1 else 0) ≤ size)
  | .float x =>
    if x.isNaN then some false
    else if x.isFinite then some (x.signedRatio.1 ≤ size * x.signedRatio.2)
    else some x.negative
  | _ => none

/-- Adds a node at the end. -/
def insert (g : Graph) (n : Node) : Except EditFault Graph :=
  if g.has n.key then .error (.graph (.duplicateId n.id))
  else
    match reached? g.size g.limit with
    | none => .error .noNumber
    | some true => .error (.graph (.full n.id g.limit))
    | some false => .ok { g with nodes := g.nodes ++ [n] }

theorem has_iff {g : Graph} {key : NodeKey} : g.has key = true ↔ key ∈ g.keys := by
  simp [has, keys]

/-- A node that is found has the key that it was looked for under. -/
theorem node?_eq_some {g : Graph} {key : NodeKey} {n : Node} (h : g.node? key = some n) :
    n ∈ g.nodes ∧ n.key = key := by
  unfold node? at h
  exact ⟨List.mem_of_find?_eq_some h, by simpa using List.find?_some h⟩

theorem insert_eq_ok_iff {g h : Graph} {n : Node} :
    g.insert n = .ok h ↔
      n.key ∉ g.keys ∧ reached? g.size g.limit = some false ∧
        h = { g with nodes := g.nodes ++ [n] } := by
  unfold insert
  by_cases hkey : g.has n.key = true
  · simp [hkey, has_iff.1 hkey]
  · have hmem : n.key ∉ g.keys := fun hm => hkey (has_iff.2 hm)
    cases hr : reached? g.size g.limit with
    | none => simp [hkey]
    | some b => cases b <;> simp [hkey, hmem, eq_comm]

/-- Puts a node in the place of the node with its key. -/
def replace (g : Graph) (n : Node) : Graph :=
  { g with nodes := g.nodes.map fun m => if m.key == n.key then n else m }

@[simp] theorem keys_replace (g : Graph) (n : Node) : (g.replace n).keys = g.keys := by
  simp only [keys, replace, List.map_map]
  apply List.map_congr_left
  intro m _
  by_cases h : m.key = n.key <;> simp [h]

/-- The names that changes cannot go by, because an update takes them for itself. -/
def reservedNames : List String := ["node_id", "self"]

/-- Changes fields of a node; it keeps its place, its id and its kind. -/
def update (g : Graph) (ref : Json) (changes : Fields) : Except EditFault (Graph × Node) :=
  if reservedNames.any fun name => Fields.has changes name then .error .reservedName
  else do
    let n ← g.get ref
    match fixedFields.filter fun name => Fields.has changes name with
    | [] => do
      let n ← EditFault.ofChecked (n.revised changes)
      pure (g.replace n, n)
    | names => throw (.graph (.fixedFields ref names))

/-- Whether a connection starts or ends at a node. -/
def touches (n : Node) (c : Connection) : Bool :=
  n.key == .text c.source || n.key == .text c.target

/-- Takes a node out, together with its connections. -/
def remove (g : Graph) (ref : Json) : Except EditFault (Graph × Node) := do
  let n ← g.get ref
  pure ({ g with
    nodes := g.nodes.filter fun m => m.key != n.key
    connections := g.connections.filter fun c => !touches n c }, n)

/-- The connection that ends in an input. -/
def into? (g : Graph) (target : NodeKey) (input : String) : Option Connection :=
  g.connections.find? fun c => .text c.target == target && c.input == input

/-- A name on a list that a value gives. -/
def socketOf? (names : List String) (socket : Json) : Option String :=
  names.find? fun name => Json.str name = socket

/-- The sockets of a node, if its kind is a known one. -/
def socketsOf? (n : Node) : Except EditFault (Option Sockets) :=
  if n.kindIsKey then .ok n.sockets? else .error .noKey

/-- The kind that the sockets of a node go by. -/
def kindOf (n : Node) : Except EditFault Kind :=
  if n.kindIsKey then
    match n.kind? with
    | some kind => .ok kind
    | none => .error (.graph (.unknownKind n.id n.kindValue))
  else .error .noKey

/-- The output that a value names, of the node that another value names. -/
def outputOf (ref : Json) (n : Node) (socket : Json) : Except EditFault String := do
  let kind ← kindOf n
  match socketOf? kind.sockets.outputs socket with
  | some name => pure name
  | none => throw (.graph (.noOutput ref kind socket))

/-- The input that a value names, of the node that another value names. -/
def inputOf (ref : Json) (n : Node) (socket : Json) : Except EditFault String := do
  let kind ← kindOf n
  match socketOf? kind.sockets.inputs socket with
  | some name => pure name
  | none => throw (.graph (.noInput ref kind socket))

/-- An end of a new connection between two values. -/
def endpoint (g : Graph) (source target ref : Json) : Except EditFault Node := do
  match ← g.named? ref with
  | some n => pure n
  | none => throw (.graph (.unknownEndpoint ref source target))

/-- Whether there is a way from one node to another along connections; no step is a way too. -/
def leads (g : Graph) : (start goal : NodeKey) → Bool
  | .text start, .text goal => Connection.reaches g.connections start goal
  | start, goal => start == goal

/-- A connection between two nodes as the last two rules want it: its input is free, and it closes
no cycle. -/
def fits (g : Graph) (source target : Json) (s t : Node) (input : String) : Except EditFault Unit :=
  match g.into? t.key input with
  | some taken => .error (.graph (.occupied taken.target input taken.source))
  | none => if g.leads t.key s.key then .error (.graph (.cycle source target)) else .ok ()

/-- The connection that four values ask for, if the graph has room for it. Both ends are looked up
before any socket, the output is looked at before the input, and both before the connections that
are there. Last, both ends have to be texts. -/
def connectionFor (g : Graph) (source output target input : Json) :
    Except EditFault Connection := do
  let s ← g.endpoint source target source
  let t ← g.endpoint source target target
  let output ← outputOf source s output
  let input ← inputOf target t input
  g.fits source target s t input
  EditFault.ofChecked (Connection.ofValues source (.str output) target (.str input))

/-- Adds a connection at the end. -/
def connect (g : Graph) (source output target input : Json) :
    Except EditFault (Graph × Connection) := do
  let c ← g.connectionFor source output target input
  pure ({ g with connections := g.connections ++ [c] }, c)

theorem connect_eq_ok_iff {g h : Graph} {source output target input : Json} {c : Connection} :
    g.connect source output target input = .ok (h, c) ↔
      g.connectionFor source output target input = .ok c ∧
        h = { g with connections := g.connections ++ [c] } := by
  unfold connect
  cases hc : g.connectionFor source output target input with
  | error fault => simp [bind, Except.bind]
  | ok d =>
    simp only [bind, Except.bind, pure, Except.pure, Except.ok.injEq, Prod.mk.injEq]
    constructor
    · rintro ⟨rfl, rfl⟩
      exact ⟨rfl, rfl⟩
    · rintro ⟨rfl, rfl⟩
      exact ⟨rfl, rfl⟩

/-- Takes the first of the connections that equal a given one out. -/
def disconnect (g : Graph) (c : Connection) : Except EditFault Graph :=
  if g.connections.contains c then .ok { g with connections := g.connections.erase c }
  else .error (.graph (.noConnection c))

theorem disconnect_eq_ok_iff {g h : Graph} {c : Connection} :
    g.disconnect c = .ok h ↔
      c ∈ g.connections ∧ h = { g with connections := g.connections.erase c } := by
  unfold disconnect
  by_cases hc : c ∈ g.connections <;> simp [hc, eq_comm]

/-- Takes the connection out that four values describe. -/
def disconnectValues (g : Graph) (source output target input : Json) :
    Except EditFault (Graph × Connection) := do
  let c ← EditFault.ofChecked (Connection.ofValues source output target input)
  let g ← g.disconnect c
  pure (g, c)

end Graph
end Promotion
