import Promotion.Fault
import Promotion.Http.Exchange
import Promotion.Log.Line
import Promotion.Metrics
import Promotion.Settings.Active

/-! Work in its surroundings: settings, clock, server, the id that ties requests together, and
what is recorded on the way. -/
namespace Promotion

/-- What work depends on and leaves behind. -/
structure Context where
  settings : ActiveSettings
  clock : DateTime
  /-- The id that ties log lines and requests together; what counts as no is none. -/
  requestId : Json
  /-- The ids that are still to be given out, by their number. -/
  freshId : Nat → String
  /-- How many ids were given out. -/
  issued : Nat
  /-- What the server makes of a request, by how many there were before. -/
  server : Nat → Http.Request → Http.Reply
  sent : List Http.Request
  log : List LogLine
  metrics : Metrics
  /-- The text of the time a compilation takes. -/
  elapsed : String
  /-- What can be read and written of JSON. -/
  reading : Json.Limits := .reading
  writing : Json.Limits := .writing

/-- Work that may fail; what was done until then stays done. -/
abbrev Work (α : Type) := EStateM Fault Context α

namespace Work

def ofExcept {ε α : Type} (f : ε → Fault) : Except ε α → Work α
  | .ok a => pure a
  | .error e => throw (f e)

def ofChecked {α : Type} : Checked α → Work α
  | .valid a => pure a
  | .invalid issues => throw (.invalid issues)

def log (line : LogLine) : Work Unit := modify fun ctx => { ctx with log := ctx.log ++ [line] }

def logAll (lines : List LogLine) : Work Unit :=
  modify fun ctx => { ctx with log := ctx.log ++ lines }

def count (f : Metrics → Metrics) : Work Unit :=
  modify fun ctx => { ctx with metrics := f ctx.metrics }

def settings : Work ActiveSettings := do return (← get).settings

def requestId : Work Json := do return (← get).requestId

def setRequestId (id : Json) : Work Unit := modify fun ctx => { ctx with requestId := id }

def now : Work DateTime := do return (← get).clock

def elapsed : Work String := do return (← get).elapsed

/-- The text of a value in a canonical layout. -/
def encode (layOut : Json → String) (json : Json) : Work String := do
  ofExcept .ofWrite (json.encode (← get).writing layOut)

/-- The value in the body of a response. -/
def bodyJson (body : ByteArray) : Work (Option Json) := do
  ofExcept (fun _ => .tooDeep) (Http.bodyJson (← get).reading body)

/-- A text on its way out, as bytes of UTF-8. -/
def utf8 (text : String) : Work String :=
  if Text.holdsHalf text then throw .strayHalf else pure text

/-- The id for a request: the current one, or a fresh one if there is none. -/
def requestIdOrFresh : Work Json := do
  let ctx ← get
  if ctx.requestId.truthy then pure ctx.requestId
  else
    set { ctx with issued := ctx.issued + 1 }
    pure (.str (ctx.freshId ctx.issued))

/-- Hands a request to the server. -/
def send (request : Http.Request) : Work Http.Reply := do
  let ctx ← get
  set { ctx with sent := ctx.sent ++ [request] }
  pure (ctx.server ctx.sent.length request)

/-- Does some work, and goes on to another piece whether it fails or not. -/
def andFinally {α : Type} (work : Work α) (after : Work Unit) : Work α := fun ctx =>
  match work ctx with
  | .ok a ctx =>
    match after ctx with
    | .ok _ ctx => .ok a ctx
    | .error fault ctx => .error fault ctx
  | .error fault ctx =>
    match after ctx with
    | .ok _ ctx => .error fault ctx
    | .error fault ctx => .error fault ctx

end Work

def compilerLogger : String := "promo_builder.compiler.compiler"

namespace Graph

/-- Compiles a graph, counted and logged. -/
def compileLogged (g : Graph) (metadata : RuleMetadata) (now : Option DateTime) : Work Rule := do
  let name := if metadata.name = "" then "<unnamed>" else metadata.name
  Work.log ⟨.info, compilerLogger,
    s!"Compiling promotion rule {Text.quoted name} ({g.size} nodes)"⟩
  let clock ← Work.now
  let elapsed ← Work.elapsed
  match g.compile metadata (now.getD clock) with
  | .error fault =>
    Work.count Metrics.countFailed
    throw (Fault.ofCompile fault)
  | .ok rule =>
    Work.log ⟨.info, compilerLogger,
      s!"Compiled promotion rule {Text.quoted rule.name}: {rule.conditions.length} conditions, " ++
        s!"{rule.actions.length} actions, {rule.logicals.length} logical nodes, " ++
        s!"{rule.links.length} connections, duration={elapsed}"⟩
    Work.count fun m => m.countCompiled g.size
    pure rule

end Graph

namespace Rule

/-- Checks that a rule may be handed in; where nothing is said, the settings say whether the days
of validity have to be in order. -/
def checkReady (r : Rule) (enforceWindow : Option Bool) : Work Unit := do
  let settings ← Work.settings
  match r.readinessFault? (enforceWindow.getD settings.enforceWindow.truthy) with
  | some fault => throw (.readiness fault)
  | none => Work.logAll r.remarks

/-- The document of a rule. -/
def write (r : Rule) : Work Json :=
  match r.toJson? with
  | some json => pure json
  | none => throw .unwritableTime

/-- The canonical text of a rule, as it is sent. -/
def body (r : Rule) : Work String := do
  let document ← r.write
  Work.utf8 (← Work.encode Json.canonical document)

end Rule
end Promotion
