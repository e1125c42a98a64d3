import Promotion.Proofs.Editor.Attainable

/-! Edits as programs that write to a graph piece by piece. A program that fails keeps what it has
written by then, so a failed edit leaves the graph alone only if it looks first and writes last. -/
namespace Promotion

/-- A program that reads and writes a state. What it wrote before it fails stays written. -/
abbrev InPlace (ε σ α : Type) := EStateM ε σ α

namespace InPlace
variable {ε σ τ α β : Type} {view : σ → τ} {p : InPlace ε σ α} {f : α → InPlace ε σ β}

/-- Looks at the state, and fails if it is not right. -/
def look (f : σ → Except ε α) : InPlace ε σ α := fun s =>
  match f s with
  | .ok a => .ok a s
  | .error fault => .error fault s

/-- However the program ends, the part of the state that is viewed stays the same. -/
structure Spares (view : σ → τ) (p : InPlace ε σ α) : Prop where
  ok : ∀ {s a s'}, p.run s = .ok a s' → view s' = view s
  error : ∀ {s fault s'}, p.run s = .error fault s' → view s' = view s

/-- The program does not fail. -/
def Succeeds (p : InPlace ε σ α) : Prop := ∀ s, ∃ a s', p.run s = .ok a s'

/-- If the program fails, the part of the state that is viewed stays the same. -/
def Atomic (view : σ → τ) (p : InPlace ε σ α) : Prop :=
  ∀ s fault s', p.run s = .error fault s' → view s' = view s

lemma run_bind (p : InPlace ε σ α) (f : α → InPlace ε σ β) (s : σ) : (p >>= f).run s =
    match p.run s with
    | .ok a t => (f a).run t
    | .error fault t => .error fault t := rfl

lemma run_look (f : σ → Except ε α) (s : σ) : (look f).run s =
    match f s with
    | .ok a => .ok a s
    | .error fault => .error fault s := rfl

lemma run_bind_eq_error_iff {s s' : σ} {fault : ε} : (p >>= f).run s = .error fault s' ↔
    p.run s = .error fault s' ∨ ∃ a t, p.run s = .ok a t ∧ (f a).run t = .error fault s' := by
  rw [run_bind]
  cases p.run s <;> simp

lemma spares_look (f : σ → Except ε α) : (look f).Spares view := by
  constructor <;> intro s _ s' h <;> rw [run_look] at h <;> split at h <;> cases h <;> rfl

lemma Succeeds.bind (hp : p.Succeeds) (hf : ∀ a, (f a).Succeeds) : (p >>= f).Succeeds := by
  intro s
  obtain ⟨a, t, hrun⟩ := hp s
  obtain ⟨b, s', hrun'⟩ := hf a t
  exact ⟨b, s', by rw [run_bind, hrun, ← hrun']⟩

lemma succeeds_modify (g : σ → σ) : (modify g : InPlace ε σ PUnit).Succeeds :=
  fun s => ⟨(), g s, rfl⟩

lemma succeeds_pure (a : α) : (pure a : InPlace ε σ α).Succeeds := fun s => ⟨a, s, rfl⟩

lemma Spares.atomic (hp : p.Spares view) : p.Atomic view := fun _ _ _ h => hp.error h

lemma Succeeds.atomic (hp : p.Succeeds) : p.Atomic view := by
  intro s fault s' h
  obtain ⟨a, t, hrun⟩ := hp s
  simp [hrun] at h

/-- Looking before an atomic program. -/
lemma Spares.bind_atomic (hp : p.Spares view) (hf : ∀ a, (f a).Atomic view) :
    (p >>= f).Atomic view := by
  intro s fault s' h
  rcases run_bind_eq_error_iff.mp h with h | ⟨a, t, hrun, h⟩
  · exact hp.error h
  · exact (hf a _ _ _ h).trans (hp.ok hrun)

end InPlace

/-! ### Graphs -/

namespace Graph
open InPlace

/-- How a program ends that does what an edit of a graph does. -/
def result {α : Type} (g : Graph) : Except EditFault (Graph × α) → EStateM.Result EditFault Graph α
  | .ok (h, a) => .ok a h
  | .error fault => .error fault g

def checkKey (n : Node) (g : Graph) : Except EditFault Unit :=
  if g.has n.key then .error (.graph (.duplicateId n.id)) else .ok ()

def checkRoom (n : Node) (g : Graph) : Except EditFault Unit :=
  match reached? g.size g.limit with
  | none => .error .noNumber
  | some true => .error (.graph (.full n.id g.limit))
  | some false => .ok ()

def insertInPlace (n : Node) : InPlace EditFault Graph Node := do
  look (checkKey n)
  look (checkRoom n)
  modify fun g => { g with nodes := g.nodes ++ [n] }
  pure n

def insertJsonInPlace (json : Json) : InPlace EditFault Graph Node := do
  let n ← look fun _ => EditFault.ofChecked (RuleNode.parse json)
  insertInPlace (.rule n)

def updateInPlace (ref : Json) (changes : Fields) : InPlace EditFault Graph Node := do
  look fun _ =>
    if reservedNames.any fun name => Fields.has changes name then .error .reservedName else .ok ()
  let n ← look fun g => g.get ref
  look fun _ =>
    match fixedFields.filter fun name => Fields.has changes name with
    | [] => .ok ()
    | names => .error (.graph (.fixedFields ref names))
  let n ← look fun _ => EditFault.ofChecked (n.revised changes)
  modify fun g => g.replace n
  pure n

/-- Takes the node out first and its connections after that. -/
def removeInPlace (ref : Json) : InPlace EditFault Graph Node := do
  let n ← look fun g => g.get ref
  modify fun g => { g with nodes := g.nodes.filter fun m => m.key != n.key }
  modify fun g => { g with connections := g.connections.filter fun c => !touches n c }
  pure n

def connectInPlace (source output target input : Json) : InPlace EditFault Graph Connection := do
  let s ← look fun g => g.endpoint source target source
  let t ← look fun g => g.endpoint source target target
  let output ← look fun _ => outputOf source s output
  let input ← look fun _ => inputOf target t input
  look fun g => g.fits source target s t input
  let c ← look fun _ =>
    EditFault.ofChecked (Connection.ofValues source (.str output) target (.str input))
  modify fun g => { g with connections := g.connections ++ [c] }
  pure c

def connectJsonInPlace (json : Json) : InPlace EditFault Graph Connection := do
  let c ← look fun _ => EditFault.ofChecked (Connection.ofJson json)
  connectInPlace (.str c.source) (.str c.output) (.str c.target) (.str c.input)

def disconnectInPlace (source output target input : Json) :
    InPlace EditFault Graph Connection := do
  let c ← look fun _ => EditFault.ofChecked (Connection.ofValues source output target input)
  look fun g =>
    if g.connections.contains c then .ok () else .error (.graph (.noConnection c))
  modify fun g => { g with connections := g.connections.erase c }
  pure c

def replayInPlace {α : Type} (p : Json → InPlace EditFault Graph α) :
    List Json → InPlace EditFault Graph Unit
  | [] => pure ()
  | json :: rest => do
    let _ ← p json
    replayInPlace p rest

/-- Puts the nodes and connections of a document into a graph, one after the other. -/
def fillInPlace (payload : Json) : InPlace EditFault Graph Unit :=
  match listIn? payload "nodes", listIn? payload "connections" with
  | some nodes, some connections => do
    replayInPlace insertJsonInPlace nodes
    replayInPlace connectJsonInPlace connections
  | _, _ => throw (.graph (.malformedPayload payload.typeName))

section
variable {g : Graph} {α β : Type}

/-- A look and what comes after it do what the same two steps of an edit do. -/
lemma run_look_bind {look? : Graph → Except EditFault α} {p : α → InPlace EditFault Graph β}
    {edit : α → Except EditFault (Graph × β)} (h : ∀ a, (p a).run g = g.result (edit a)) :
    (look look? >>= p).run g = g.result (look? g >>= edit) := by
  rw [run_bind, run_look]
  cases look? g with
  | ok a => exact h a
  | error fault => rfl

lemma insert_eq_checks (g : Graph) (n : Node) : ((g.insert n).map fun h => (h, n)) =
    checkKey n g >>= fun _ => checkRoom n g >>= fun _ =>
      .ok ({ g with nodes := g.nodes ++ [n] }, n) := by
  unfold insert checkKey checkRoom
  split_ifs with hkey
  · rfl
  · cases reached? g.size g.limit with
    | none => rfl
    | some full => cases full <;> rfl

lemma run_insertInPlace (n : Node) :
    (insertInPlace n).run g = g.result ((g.insert n).map fun h => (h, n)) := by
  rw [insert_eq_checks]
  exact run_look_bind fun _ => run_look_bind fun _ => rfl

lemma run_insertJsonInPlace (json : Json) :
    (insertJsonInPlace json).run g = g.result (g.insertJson json) := by
  refine run_look_bind fun n => ?_
  rw [run_insertInPlace]
  cases g.insert (.rule n) <;> rfl

lemma run_updateInPlace (ref : Json) (changes : Fields) :
    (updateInPlace ref changes).run g = g.result (g.update ref changes) := by
  unfold updateInPlace update
  rw [run_bind, run_look]
  split_ifs with hname
  · rfl
  · refine run_look_bind fun n => ?_
    rw [run_bind, run_look]
    cases fixedFields.filter fun name => Fields.has changes name with
    | cons name names => rfl
    | nil => exact run_look_bind fun _ => rfl

lemma run_removeInPlace (ref : Json) : (removeInPlace ref).run g = g.result (g.remove ref) :=
  run_look_bind fun _ => rfl

lemma run_connectInPlace (source output target input : Json) :
    (connectInPlace source output target input).run g =
      g.result (g.connect source output target input) := by
  simp only [connect, connectionFor, bind_assoc]
  refine run_look_bind fun s => run_look_bind fun t => run_look_bind fun output => ?_
  exact run_look_bind fun input => run_look_bind fun _ => run_look_bind fun _ => rfl

lemma run_connectJsonInPlace (json : Json) :
    (connectJsonInPlace json).run g = g.result (g.connectJson json) :=
  run_look_bind fun _ => run_connectInPlace _ _ _ _

lemma run_disconnectInPlace (source output target input : Json) :
    (disconnectInPlace source output target input).run g =
      g.result (g.disconnectValues source output target input) := by
  refine run_look_bind fun c => ?_
  rw [run_bind, run_look]
  unfold disconnect
  split_ifs with hfound <;> rfl

/-- The state that a program leads to, if it does not fail. -/
def made {ε σ α : Type} : EStateM.Result ε σ α → Except ε σ
  | .ok _ s => .ok s
  | .error fault _ => .error fault

/-- Data are put into a graph up to the first that fails. -/
lemma made_replayInPlace {step : Graph → Json → Except EditFault (Graph × α)}
    {event : α → GraphEvent} {p : Json → InPlace EditFault Graph α}
    (hp : ∀ json g, (p json).run g = g.result (step g json)) (xs : List Json) (g : Graph) :
    made ((replayInPlace p xs).run g) = (replay step event g xs).2 := by
  induction xs generalizing g with
  | nil => rfl
  | cons x xs ih =>
    rw [replayInPlace, run_bind, hp, replay]
    cases step g x with
    | error fault => rfl
    | ok next => exact ih next.1

lemma made_bind {p : InPlace EditFault Graph α} {q : InPlace EditFault Graph β} :
    made ((p >>= fun _ => q).run g) = made (p.run g) >>= fun h => made (q.run h) := by
  rw [run_bind]
  cases p.run g <;> rfl

lemma made_fillInPlace (limit payload : Json) :
    made ((fillInPlace payload).run (empty limit)) = ofPayload limit payload := by
  unfold fillInPlace
  split
  · next nodes connections hnodes hconnections =>
    rw [made_bind, ofPayload_eq_bind hnodes hconnections,
      made_replayInPlace fun json g => run_insertJsonInPlace json]
    congr 1
    funext h
    exact made_replayInPlace (fun json g => run_connectJsonInPlace json) connections h
  · next hlists =>
    unfold ofPayload load
    split
    · next nodes connections hnodes hconnections => exact (hlists _ _ hnodes hconnections).elim
    · rfl

/-! Each edit looks first and writes last. -/

section
variable {τ : Type} {view : Graph → τ}

lemma atomic_insertInPlace (n : Node) : (insertInPlace n).Atomic view := by
  refine (spares_look _).bind_atomic fun _ => (spares_look _).bind_atomic fun _ => ?_
  exact ((succeeds_modify _).bind fun _ => succeeds_pure n).atomic

lemma atomic_insertJsonInPlace (json : Json) : (insertJsonInPlace json).Atomic view :=
  (spares_look _).bind_atomic fun n => atomic_insertInPlace (.rule n)

lemma atomic_updateInPlace (ref : Json) (changes : Fields) :
    (updateInPlace ref changes).Atomic view := by
  refine (spares_look _).bind_atomic fun _ => (spares_look _).bind_atomic fun n => ?_
  refine (spares_look _).bind_atomic fun _ => (spares_look _).bind_atomic fun n => ?_
  exact ((succeeds_modify _).bind fun _ => succeeds_pure n).atomic

/-- Between the two writes of a removal there is nothing to fail. -/
lemma atomic_removeInPlace (ref : Json) : (removeInPlace ref).Atomic view := by
  refine (spares_look _).bind_atomic fun n => Succeeds.atomic ?_
  exact (succeeds_modify _).bind fun _ => (succeeds_modify _).bind fun _ => succeeds_pure n

lemma atomic_connectInPlace (source output target input : Json) :
    (connectInPlace source output target input).Atomic view := by
  refine (spares_look _).bind_atomic fun _ => (spares_look _).bind_atomic fun _ => ?_
  refine (spares_look _).bind_atomic fun _ => (spares_look _).bind_atomic fun _ => ?_
  refine (spares_look _).bind_atomic fun _ => (spares_look _).bind_atomic fun c => ?_
  exact ((succeeds_modify _).bind fun _ => succeeds_pure c).atomic

lemma atomic_disconnectInPlace (source output target input : Json) :
    (disconnectInPlace source output target input).Atomic view := by
  refine (spares_look _).bind_atomic fun c => (spares_look _).bind_atomic fun _ => ?_
  exact ((succeeds_modify _).bind fun _ => succeeds_pure c).atomic

end
end
end Graph

/-! ### Editors -/

/-- How a program ends that does what an edit does. -/
def Edit.result {α : Type} (edit : Edit α) : EStateM.Result Fault Editor α :=
  match edit.outcome with
  | .ok a => .ok a edit.editor
  | .error fault => .error fault edit.editor

namespace InPlace
variable {α : Type}

/-- Lets a program for graphs work on the graph in hand. -/
def onGraph (p : InPlace EditFault Graph α) : InPlace Fault Editor α := fun e =>
  match p.run e.graph with
  | .ok a g => .ok a { e with graph := g }
  | .error fault g => .error (.ofEdit fault) { e with graph := g }

lemma run_onGraph {p : InPlace EditFault Graph α} {e : Editor}
    {outcome : Except EditFault (Graph × α)} (event : α → GraphEvent)
    (hp : p.run e.graph = e.graph.result outcome) :
    (onGraph p).run e = (e.ofGraphEdit outcome event).result := by
  change (match p.run e.graph with
    | .ok a g => EStateM.Result.ok a { e with graph := g }
    | .error fault g => .error (Fault.ofEdit fault) { e with graph := g }) = _
  rw [hp]
  cases outcome <;> rfl

lemma Atomic.onGraph {p : InPlace EditFault Graph α} (hp : p.Atomic id) :
    (InPlace.onGraph p).Atomic Editor.graph := by
  intro e fault e' h
  change (match p.run e.graph with
    | .ok a g => EStateM.Result.ok a { e with graph := g }
    | .error fault g => .error (Fault.ofEdit fault) { e with graph := g }) = _ at h
  cases hrun : p.run e.graph with
  | ok a g => simp [hrun] at h
  | error fault g =>
    simp only [hrun, EStateM.Result.error.injEq] at h
    exact h.2 ▸ hp _ _ _ hrun

end InPlace

namespace Editor
open InPlace Promotion.Graph

/-- Takes the next new id. The counter goes on at once. -/
def takeId (stem : String) : InPlace Fault Editor String := fun e =>
  .ok (e.newId stem).1 { e with counter := (e.newId stem).2 }

lemma spares_takeId (stem : String) : (takeId stem).Spares graph := by
  constructor <;> intro e _ e' h <;> cases h
  rfl

def addNewInPlace (kind : Kind) (subtype : String) (more : Fields) : InPlace Fault Editor Node := do
  let id ← takeId (idStem subtype)
  let n ← look fun _ =>
    match RuleNode.ofFields kind
      ([("id", .str id), ("kind", .str kind.word), ("subtype", .str subtype)] ++ more) with
    | .valid n => .ok n
    | .invalid issues => .error (.invalid issues)
  onGraph (insertInPlace (.rule n))

def addKnownInPlace (kind : Kind) (subtype : Json) (more : Fields) : InPlace Fault Editor Node :=
  match subtype with
  | .str s =>
    if kind.knowsSubtype s then addNewInPlace kind s more else throw (.unknownSubtype subtype kind)
  | _ => throw (.unknownSubtype subtype kind)

def connectOutputInPlace (source target : Json) (input : Option Json) :
    InPlace EditFault Graph Connection := do
  let s ← look fun g => g.get source
  let t ← look fun g => g.get target
  match ← look fun _ => outputsOf s with
  | [] => throw (.graph (.noOutputSocket source))
  | output :: _ =>
    match input with
    | some input => connectInPlace source (.str output) target input
    | none =>
      let input ← look fun g => freeInput g t
      connectInPlace source (.str output) target (.str input)

/-- Builds another graph up and takes it in hand when it is done. -/
def loadInPlace (limit payload : Json) : InPlace Fault Editor Unit := do
  let g ← look fun _ => (made ((fillInPlace payload).run (empty limit))).mapError .ofEdit
  modify fun e => { e with graph := g }

variable {e : Editor}

lemma run_addNewInPlace (kind : Kind) (subtype : String) (more : Fields) :
    (addNewInPlace kind subtype more).run e = (e.addNew kind subtype more).result := by
  have htake : (takeId (idStem subtype)).run e = .ok (e.newId (idStem subtype)).1
    { e with counter := (e.newId (idStem subtype)).2 } := rfl
  unfold addNewInPlace addNew
  rw [run_bind, htake]
  dsimp only
  rw [run_bind, run_look]
  generalize RuleNode.ofFields kind _ = checked
  cases checked with
  | valid n => exact run_onGraph _ (run_insertInPlace (.rule n))
  | invalid issues => rfl

lemma run_addKnownInPlace (kind : Kind) (subtype : Json) (more : Fields) :
    (addKnownInPlace kind subtype more).run e = (e.addKnown kind subtype more).result := by
  cases subtype with
  | str s =>
    unfold addKnownInPlace addKnown
    dsimp only
    split_ifs
    · exact run_addNewInPlace _ _ _
    · rfl
  | _ => rfl

lemma run_onGraph_disconnectInPlace (source output target input : Json) :
    (onGraph (disconnectInPlace source output target input)).run e =
      (e.unlink source output target input).result := by
  -- Taking a connection out is not logged, and the log is no part of the result.
  rw [run_onGraph .connected (run_disconnectInPlace source output target input)]
  unfold unlink ofGraphEdit
  cases e.graph.disconnectValues source output target input <;> rfl

lemma run_connectOutputInPlace (g : Graph) (source target : Json) (input : Option Json) :
    (connectOutputInPlace source target input).run g =
      g.result (connectOutput g source target input) := by
  refine run_look_bind fun s => run_look_bind fun t => run_look_bind fun outputs => ?_
  cases outputs with
  | nil => rfl
  | cons output rest =>
    cases input with
    | some input => exact run_connectInPlace _ _ _ _
    | none =>
      dsimp only
      rw [run_bind, run_look]
      cases freeInput g t with
      | error fault => rfl
      | ok input => exact run_connectInPlace _ _ _ _

lemma run_loadInPlace (limit payload : Json) :
    (loadInPlace limit payload).run e = (e.load limit payload).result := by
  unfold loadInPlace load
  rw [run_bind, run_look, made_fillInPlace, ofPayload]
  rcases Graph.load limit payload with ⟨events, fault | g⟩ <;> rfl

lemma atomic_addNewInPlace (kind : Kind) (subtype : String) (more : Fields) :
    (addNewInPlace kind subtype more).Atomic graph := by
  refine (spares_takeId _).bind_atomic fun id => (spares_look _).bind_atomic fun n => ?_
  exact (atomic_insertInPlace (.rule n)).onGraph

lemma spares_throw {α τ : Type} {view : Editor → τ} (fault : Fault) :
    (throw fault : InPlace Fault Editor α).Spares view := spares_look fun _ => .error fault

lemma atomic_addKnownInPlace (kind : Kind) (subtype : Json) (more : Fields) :
    (addKnownInPlace kind subtype more).Atomic graph := by
  unfold addKnownInPlace
  split
  · split_ifs
    · exact atomic_addNewInPlace _ _ _
    · exact (spares_throw _).atomic
  · exact (spares_throw _).atomic

lemma atomic_connectOutputInPlace {τ : Type} {view : Graph → τ} (source target : Json)
    (input : Option Json) : (connectOutputInPlace source target input).Atomic view := by
  refine (spares_look _).bind_atomic fun s => (spares_look _).bind_atomic fun t => ?_
  refine (spares_look _).bind_atomic fun outputs => ?_
  cases outputs with
  | nil => exact (spares_look fun _ => .error _).atomic
  | cons output rest =>
    cases input with
    | some input => exact atomic_connectInPlace _ _ _ _
    | none => exact (spares_look _).bind_atomic fun input => atomic_connectInPlace _ _ _ _

/-- The graph that a load builds up is dropped if the load fails. -/
lemma atomic_loadInPlace (limit payload : Json) : (loadInPlace limit payload).Atomic graph :=
  (spares_look _).bind_atomic fun _ => (succeeds_modify _).atomic

end Editor

/-! ### Calls -/

/-- A call of an editor, also one with an unchecked node or with a value that is no node. -/
inductive AnyCall where
  | call (c : EditorCall)
  | insert (n : Node)
  | insertValue (value : Json)

namespace AnyCall
open InPlace Promotion.Graph Promotion.Editor

/-- What a call returns. -/
def Result : AnyCall → Type
  | .call (.link ..) => Connection
  | .call (.unlink ..) => Connection
  | .call (.connect ..) => Connection
  | .call (.load ..) => Unit
  | _ => Node

def edit (e : Editor) : (c : AnyCall) → Edit c.Result
  | .call (.insert n) => e.insert (.rule n)
  | .call (.insertJson json) => e.insertJson json
  | .call (.addCondition subtype operator value) => e.addCondition subtype operator value
  | .call (.addAction subtype value) => e.addAction subtype value
  | .call (.addLogical subtype) => e.addLogical subtype
  | .call (.update ref changes) => e.update ref changes
  | .call (.setOperator ref operator) => e.setOperator ref operator
  | .call (.setValue ref value) => e.setValue ref value
  | .call (.remove ref) => e.remove ref
  | .call (.link source output target input) => e.link source output target input
  | .call (.unlink source output target input) => e.unlink source output target input
  | .call (.connect source target input) => e.connect source target input
  | .call (.load limit payload) => e.load limit payload
  | .insert n => e.insert n
  | .insertValue value => e.insertValue value

/-- The call as a program that writes to the graph in hand. -/
def inPlace : (c : AnyCall) → InPlace Fault Editor c.Result
  | .call (.insert n) => onGraph (insertInPlace (.rule n))
  | .call (.insertJson json) => onGraph (insertJsonInPlace json)
  | .call (.addCondition subtype operator value) =>
    addKnownInPlace .condition subtype [("operator", operator), ("value", value)]
  | .call (.addAction subtype value) => addKnownInPlace .action subtype [("value", value)]
  | .call (.addLogical subtype) => addKnownInPlace .logical subtype []
  | .call (.update ref changes) => onGraph (updateInPlace ref changes)
  | .call (.setOperator ref operator) => onGraph (updateInPlace ref [("operator", operator)])
  | .call (.setValue ref value) => onGraph (updateInPlace ref [("value", value)])
  | .call (.remove ref) => onGraph (removeInPlace ref)
  | .call (.link source output target input) => onGraph (connectInPlace source output target input)
  | .call (.unlink source output target input) =>
    onGraph (disconnectInPlace source output target input)
  | .call (.connect source target input) => onGraph (connectOutputInPlace source target input)
  | .call (.load limit payload) => loadInPlace limit payload
  | .insert n => onGraph (insertInPlace n)
  | .insertValue value => throw (.notANode value.typeName)

variable {e : Editor} {c : AnyCall}

theorem run_inPlace (c : AnyCall) (e : Editor) : c.inPlace.run e = (c.edit e).result := by
  rcases c with c | n | value
  · cases c with
    | insert n => exact run_onGraph _ (run_insertInPlace _)
    | insertJson json => exact run_onGraph _ (run_insertJsonInPlace json)
    | addCondition subtype operator value => exact run_addKnownInPlace _ _ _
    | addAction subtype value => exact run_addKnownInPlace _ _ _
    | addLogical subtype => exact run_addKnownInPlace _ _ _
    | update ref changes => exact run_onGraph _ (run_updateInPlace _ _)
    | setOperator ref operator => exact run_onGraph _ (run_updateInPlace _ _)
    | setValue ref value => exact run_onGraph _ (run_updateInPlace _ _)
    | remove ref => exact run_onGraph _ (run_removeInPlace ref)
    | link source output target input => exact run_onGraph _ (run_connectInPlace _ _ _ _)
    | unlink source output target input => exact run_onGraph_disconnectInPlace _ _ _ _
    | connect source target input => exact run_onGraph _ (run_connectOutputInPlace _ _ _ _)
    | load limit payload => exact run_loadInPlace limit payload
  · exact run_onGraph _ (run_insertInPlace n)
  · rfl

theorem atomic_inPlace (c : AnyCall) : c.inPlace.Atomic Editor.graph := by
  rcases c with c | n | value
  · cases c with
    | insert n => exact (atomic_insertInPlace _).onGraph
    | insertJson json => exact (atomic_insertJsonInPlace json).onGraph
    | addCondition subtype operator value => exact atomic_addKnownInPlace _ _ _
    | addAction subtype value => exact atomic_addKnownInPlace _ _ _
    | addLogical subtype => exact atomic_addKnownInPlace _ _ _
    | update ref changes => exact (atomic_updateInPlace _ _).onGraph
    | setOperator ref operator => exact (atomic_updateInPlace _ _).onGraph
    | setValue ref value => exact (atomic_updateInPlace _ _).onGraph
    | remove ref => exact (atomic_removeInPlace ref).onGraph
    | link source output target input => exact (atomic_connectInPlace _ _ _ _).onGraph
    | unlink source output target input => exact (atomic_disconnectInPlace _ _ _ _).onGraph
    | connect source target input => exact (atomic_connectOutputInPlace _ _ _).onGraph
    | load limit payload => exact atomic_loadInPlace limit payload
  · exact (atomic_insertInPlace n).onGraph
  · exact (spares_throw _).atomic

/-- A call that fails leaves the graph as it was, its nodes and connections in their order and its
limit. So it is when the writes of the call are made one by one: what a failed call has written by
then is at most the counter of the editor. -/
theorem graph_eq_of_failed {fault : Fault} (h : (c.edit e).outcome = .error fault) :
    (c.edit e).editor.graph = e.graph ∧
      c.inPlace.run e = .error fault (c.edit e).editor := by
  have hrun : c.inPlace.run e = .error fault (c.edit e).editor := by
    rw [run_inPlace, Edit.result, h]
  exact ⟨atomic_inPlace c _ _ _ hrun, hrun⟩

/-- A load that fails at its fourth node, and a value out of range. -/
theorem graph_eq_of_failed_sample :
    ((AnyCall.call (.load (.int 3) sample.payload)).edit (.ofGraph sample)).outcome =
        .error (.graph (.full (.str "off") (.int 3))) ∧
      ((AnyCall.call (.load (.int 3) sample.payload)).edit (.ofGraph sample)).editor.graph =
        sample ∧
      ∃ issues, (AnyCall.call (.setValue (.str "off") (.int 150))).inPlace.run (.ofGraph sample) =
        .error (.invalid issues) (.ofGraph sample) := by
  have hload : ((AnyCall.call (.load (.int 3) sample.payload)).edit (.ofGraph sample)).outcome =
      .error (.graph (.full (.str "off") (.int 3))) := rfl
  have hset : ((AnyCall.call (.setValue (.str "off") (.int 150))).edit (.ofGraph sample)).outcome =
      .error (.invalid _) := rfl
  exact ⟨hload, (graph_eq_of_failed hload).1, _, (graph_eq_of_failed hset).2⟩

end AnyCall
end Promotion
