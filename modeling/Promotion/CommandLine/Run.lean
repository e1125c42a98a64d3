import Promotion.CommandLine.GraphFile
import Promotion.CommandLine.Usage
import Promotion.Editor.Session
import Promotion.Log.Setup

/-! The program on the command line: from a graph file to a rule, its text or its trees, and on
to the API. -/
namespace Promotion.CommandLine

/-- What is left behind when the program ends: its exit code, and the texts for both outputs. -/
structure Report where
  exit : Nat
  output : String
  errors : String
  deriving DecidableEq, Repr

/-- What the program has no answer to. -/
inductive Escape where
  | fault (fault : Fault)
  | fileNotText
  | fileUnnameable
  | tooManyDigits (message : String)
  | logLevel (fault : LogSetupFault)
  deriving DecidableEq

def programName : String := "compile_rule.py"

def logger : String := "promo_builder.scripts.compile_rule"

/-- The exit code for arguments that are not taken. -/
def misuse : Nat := 2

/-- What an option gives, unless it was left without a value. -/
def unlessEmptied {α : Type} (a : Arguments) (switch : Switch) (kind : IssueKind)
    (given : Checked α) : Checked α :=
  if a.emptied.contains switch then Checked.reject kind else given

/-- The metadata that arguments give. -/
def metadata (a : Arguments) : Checked RuleMetadata :=
  RuleMetadata.mk
    <$> (unlessEmptied a .name .notText (RuleMetadata.checkName (.str a.name))).under "name"
    <*> (unlessEmptied a .salience .notWhole (RuleMetadata.checkSalience a.salience)).under
      "salience"
    <*> .valid a.stackable
    <*> .valid a.active
    <*> (unlessEmptied a .validFrom .notDate (.valid a.validFrom)).under "valid_from"
    <*> (unlessEmptied a .validUntil .notDate (.valid a.validUntil)).under "valid_until"

/-- The rule of a graph document that may be handed in. -/
def compile (a : Arguments) (payload : Json) : Work Rule := do
  let settings ← Work.settings
  let (events, outcome) := Graph.load settings.maxGraphNodes payload
  Work.logAll (events.map GraphEvent.line)
  let graph ← Work.ofExcept .ofEdit outcome
  let metadata ← Work.ofChecked (metadata a)
  let rule ← graph.compileLogged metadata none
  rule.checkReady none
  pure rule

/-- What is printed of a rule: its document, or the trees of its actions. -/
def printed (a : Arguments) (rule : Rule) : Work String := do
  let json ← if a.tree then do
      pure (Rule.treesJson (← Work.ofExcept .tree rule.trees))
    else rule.write
  Work.utf8 ((← Work.encode Json.pretty json) ++ "\n")

/-- Hands a rule in, and says what the API says. -/
def submit (rule : Rule) : Work String := do
  let settings ← Work.settings
  let client ← Work.ofExcept .request (Client.create settings .none)
  let envelope ← client.createRule rule
  let message := if envelope.message = "" then "Promotion rule submitted" else envelope.message
  Work.utf8 s!"[OK] {message}\n"

/-- A report of failure, behind what was printed before. -/
def failed (before message : String) : Report :=
  ⟨1, before, s!"ERROR: {Text.showHalves message}\n"⟩

/-- The report of a fault; faults of no family are not answered, unless data are to blame. -/
def reportFault (before : String) (fault : Fault) : StateM Context (Except Escape Report) :=
  match fault, fault.message?, fault.family? with
  | .invalid _, _, _ => pure (.ok (failed before "Invalid graph or metadata:"))
  | .api _, some message, _ => pure (.ok (failed before message.plain))
  | _, some message, some _ => do
    modify fun ctx => { ctx with log := ctx.log ++
      [⟨.debug, logger, s!"Rule rejected: {(Json.obj fault.details).shown}"⟩] }
    pure (.ok (failed before message.plain))
  | _, _, _ => pure (.error (.fault fault))

/-- Work with its fault, if any, in hand. -/
def attempt {α : Type} (work : Work α) : StateM Context (Except Fault α) := fun ctx =>
  match work ctx with
  | .ok a ctx => (.ok a, ctx)
  | .error fault ctx => (.error fault, ctx)

/-- Goes from a graph document to the report. -/
def runDocument (a : Arguments) (payload : Json) : StateM Context (Except Escape Report) := do
  let stages : Work (Rule × String) := do
    let rule ← compile a payload
    pure (rule, ← printed a rule)
  match ← attempt stages with
  | .error fault => reportFault "" fault
  | .ok (rule, text) =>
    if a.submit then
      match ← attempt (submit rule) with
      | .ok message => pure (.ok ⟨0, text ++ message, ""⟩)
      | .error fault => reportFault text fault
    else pure (.ok ⟨0, text, ""⟩)

/-- Goes from arguments to the report. -/
def runArguments (files : Files) (a : Arguments) : StateM Context (Except Escape Report) := do
  let unread (message : String) : Report :=
    failed "" s!"Could not read graph file {a.graphFile}: {message}"
  match GraphFile.read (← get).reading files a.graphFile with
  | .ok payload => runDocument a payload
  | .error (.unopened fault) => pure (.ok (unread (fault.message a.graphFile)))
  | .error (.malformed message) => pure (.ok (unread message))
  | .error .notText => pure (.error .fileNotText)
  | .error .unnameable => pure (.error .fileUnnameable)
  | .error (.tooManyDigits message) => pure (.error (.tooManyDigits message))
  | .error .tooDeep => pure (.error (.fault .tooDeep))

/-- The setup of the log. -/
def logSetup (settings : ActiveSettings) (a : Arguments) : Except LogSetupFault LogSetup :=
  LogSetup.create (if a.verbose then .str Level.debug.word else settings.logLevel)
    settings.structuredLogs.truthy

/-- The program: what it answers to a command line, and which lines of its log are kept. -/
def run (files : Files) (texts : List String) (ctx : Context) :
    Except Escape Report × List LogLine × Context :=
  match Arguments.read ctx.settings.defaultSalience texts with
  | .error .help =>
    (.ok ⟨0, Usage.text programName ctx.settings.defaultSalience.plain, ""⟩, [], ctx)
  | .error fault => (.ok ⟨misuse, "", s!"{programName}: error: {fault.message}\n"⟩, [], ctx)
  | .ok a =>
    match logSetup ctx.settings a with
    | .error fault => (.error (.logLevel fault), [], ctx)
    | .ok setup =>
      let (outcome, after) := runArguments files a ctx
      (outcome, after.log.filter setup.keeps, after)

end Promotion.CommandLine
