import Promotion.Proofs.Client.Status
import Promotion.Proofs.CommandLine.Arguments
import Promotion.Proofs.CommandLine.GraphFile
import Promotion.Proofs.CommandLine.Stages
import Promotion.Proofs.Http.Body
import Promotion.Proofs.Settings.Reading

/-! Runs of the command line, from a graph file to the exit code. A run stops at the first stage
that fails; if none does it prints what it was asked for, and the exit code then only hangs on the
API. -/
namespace Promotion.CommandLine
variable {files : Files} {texts : List String} {a : Arguments} {ctx after : Context}
  {payload : Json} {rule : Rule}

/-! ### Faults -/

section Report
variable {text message : String} {fault : Fault} {last : Context}

end Report

/-! ### Handing in -/

/-- The API accepts what it was handed: the status of its response tells of no error, and the
envelope of success. -/
def Accepts (limits : Json.Limits) (reply : Http.Reply) : Prop :=
  ∃ status body, reply = .response status body ∧ Http.isError status = false ∧
    ApiCall.TellsSuccess (Http.bodyJson? limits body)

/-- A reply that can be read, and whose words can be printed if there is an envelope around them. -/
def Clear (limits : Json.Limits) (reply : Http.Reply) : Prop :=
  ∀ status body, reply = .response status body → ¬ Http.TooDeep limits body ∧
    ∀ envelope, Envelope.ofJson ((Http.bodyJson? limits body).getD .null) = .valid envelope →
      Text.holdsHalf envelope.message = false

/-- The API can be reached with the settings: they give a client with an address for the rules, and
the headers of its requests can be put together. -/
structure Reaches (ctx : Context) (client : Client) (header id : String) : Prop where
  create : Client.create ctx.settings .none = .ok client
  address : (client.base.join rulesPath.toList).isSome
  send : client.CanSend ctx header id
  replies : ∀ i request, Clear ctx.reading (ctx.server i request)

lemma Reaches.leaves {client : Client} {header id : String} (h : Reaches ctx client header id)
    (hleaves : ctx.Leaves [] 0 after) : Reaches after client header id := by
  cases hleaves
  exact ⟨h.create, h.address, ⟨⟨h.send.isOpen, h.send.token, h.send.header_eq, h.send.id_eq,
    h.send.id_ascii, h.send.id_ne⟩, h.send.header_ascii⟩, h.replies⟩

/-- What a run says once a rule was accepted; the words of the API come before its own. -/
def thanks (envelope : Envelope) : String :=
  "[OK] " ++
    (if envelope.message = "" then "Promotion rule submitted" else envelope.message) ++ "\n"

/-- A graph file that holds text, if it can be opened, without halves of pairs on their own, without
a number of too many digits and not too much nested. -/
structure Legible (ctx : Context) (files : Files) (name : String) : Prop where
  nameable : '\x00' ∉ name.toList
  text : ∀ bytes, files name = .ok bytes → (String.fromUTF8? bytes).isSome
  digits : ∀ message, GraphFile.read ctx.reading files name ≠ .error (.tooManyDigits message)
  depth : GraphFile.read ctx.reading files name ≠ .error .tooDeep
  tame : ∀ payload, GraphFile.read ctx.reading files name = .ok payload →
    payload.Everywhere (Json.Tame ctx.writing)

/-- A legible file can only not be opened, or hold something else than JSON. -/
lemma Legible.fault {name : String} {fault : GraphFileFault} (h : Legible ctx files name)
    (hread : GraphFile.read ctx.reading files name = .error fault) :
    (∃ f, fault = .unopened f) ∨ ∃ message, fault = .malformed message := by
  cases GraphFile.read_eq_error_iff.mp hread with
  | unnameable hname => exact absurd hname h.nameable
  | unopened _ _ => exact .inl ⟨_, rfl⟩
  | notText _ hfile htext =>
    have htext' := h.text _ hfile
    simp [htext] at htext'
  | malformed _ _ _ _ => exact .inr ⟨_, rfl⟩
  | tooManyDigits _ _ _ _ => exact absurd hread (h.digits _)
  | tooDeep _ _ _ _ => exact absurd hread h.depth

/-- All stages before a submission succeed: the graph file holds JSON, which makes a graph, which is
compiled into a rule that may be handed in, and if trees are asked for its actions have them. -/
def Passes (files : Files) (a : Arguments) (ctx : Context) (rule : Rule) : Prop :=
  (∃ payload, GraphFile.read ctx.reading files a.graphFile = .ok payload ∧
    Compiles a ctx payload rule) ∧ (a.tree = true → Resolves rule)

/-- How a run starts, whatever file it is given: with settings that were read and a clock that shows
UTC, and with arguments that are taken. -/
structure Launches (texts : List String) (ctx : Context) (a : Arguments) : Prop where
  settings : ∃ given environment s, Settings.read given environment = .ok s ∧
    ctx.settings = s.active
  clock : ctx.clock.offset.getD 0 = 0
  arguments : Arguments.read ctx.settings.defaultSalience texts = .ok a

namespace Launches

end Launches

/-- How a run starts well: besides, with a graph file that can be read, and with trees that are not
too deep. -/
structure Starts (files : Files) (texts : List String) (ctx : Context) (a : Arguments) : Prop
    extends Launches texts ctx a where
  salience : ctx.settings.defaultSalience.Everywhere (Json.InLimit ctx.writing.digits)
  room : ctx.writing.Ample
  file : Legible ctx files a.graphFile
  trees : a.tree = true → ∀ rule, Passes files a ctx rule → ∀ trees, rule.trees = .ok trees →
    (Rule.treesJson trees).depth ≤ ctx.writing.depth

namespace Starts

lemma salience_inLimit (h : Starts files texts ctx a) :
    a.salience.Everywhere (Json.InLimit ctx.writing.digits) := by
  obtain ⟨_, _, s, -, hactive⟩ := h.settings
  have hdefault : ctx.settings.defaultSalience = .int s.defaultSalience := by
    rw [hactive]
    rfl
  have hwhole : ∀ text, ctx.settings.defaultSalience ≠ .str text := by
    rw [hdefault]
    nofun
  rcases Arguments.salienceFrom_of_read hwhole h.arguments with hsame | ⟨n, hread, hlimit⟩
  · exact hsame ▸ h.salience
  · rw [hread]
    exact fun most hmost => (hlimit _ rfl).trans (h.room.digits most hmost)

/-- All that comes of the graph file can be printed. -/
lemma tame (h : Starts files texts ctx a)
    (hread : GraphFile.read ctx.reading files a.graphFile = .ok payload)
    (hcompiles : Compiles a ctx payload rule) : rule.Tame ctx.writing :=
  hcompiles.tame h.room (h.file.tame payload hread) h.salience_inLimit

end Starts

/-- How a run ends: its exit code, what it printed, and the requests that it handed over. -/
inductive Ends (files : Files) (a : Arguments) (ctx : Context) (client : Client)
    (header id : String) : Report → List Http.Request → Prop
  | stopped (h : ∀ rule, ¬ Passes files a ctx rule) (errors : String) :
    Ends files a ctx client header id ⟨1, "", errors⟩ []
  | printed {rule : Rule} {document : Json} (h : Passes files a ctx rule)
    (hdocument : document? a rule = some document) (hsubmit : a.submit = false) :
    Ends files a ctx client header id ⟨0, document.pretty ++ "\n", ""⟩ []
  | accepted {rule : Rule} {document : Json} {request : Http.Request} (h : Passes files a ctx rule)
    (hdocument : document? a rule = some document) (hsubmit : a.submit = true)
    (hhands : client.HandsIn rule header id request)
    (haccepts : Accepts ctx.reading (ctx.server ctx.sent.length request)) (envelope : Envelope) :
    Ends files a ctx client header id ⟨0, document.pretty ++ "\n" ++ thanks envelope, ""⟩ [request]
  | refused {rule : Rule} {document : Json} {request : Http.Request} (h : Passes files a ctx rule)
    (hdocument : document? a rule = some document) (hsubmit : a.submit = true)
    (hhands : client.HandsIn rule header id request)
    (hrefused : ¬ Accepts ctx.reading (ctx.server ctx.sent.length request)) (errors : String) :
    Ends files a ctx client header id ⟨1, document.pretty ++ "\n", errors⟩ [request]

section Runs
variable {client : Client} {header id : String}

/-- The report of a file that is not read. -/
def unread (name message : String) : Report :=
  failed "" s!"Could not read graph file {name}: {message}"

end Runs

/-! ### Two runs, and an escape -/

/-- What is read from a file that holds a text. -/
lemma read_of_text {limits : Json.Limits} {name : String} (text : String)
    (hname : '\x00' ∉ name.toList) (hfile : files name = .ok text.toUTF8)
    (hread : Json.readWithin limits (GraphFile.unified text) = .ok payload) :
    GraphFile.read limits files name = .ok payload := by
  rw [GraphFile.read_eq hname hfile (fromUTF8?_toUTF8 text), hread]

/-- Two conditions and an action, and nothing between them. -/
def sampleGraph : Graph := { Graph.sample with connections := [], limit := .int 500 }

def sampleText : String := String.ofList (Json.write .canonical sampleGraph.payload)

def sampleFiles : Files := fun name =>
  if name = "graph.json" then .ok sampleText.toUTF8 else .error .missing

def sampleArguments : Arguments :=
  { Arguments.initial (.int 10) with graphFile := "graph.json", submit := true }

lemma read_sample :
    GraphFile.read .reading sampleFiles sampleArguments.graphFile = .ok sampleGraph.payload := by
  have hchars : Json.readChars .reading
      (GraphFile.unifyLineEnds (Json.write .canonical sampleGraph.payload)) =
        .ok sampleGraph.payload := by
    decide +kernel
  refine read_of_text sampleText (by decide) rfl ?_
  rw [Json.readWithin, GraphFile.unified, sampleText, String.toList_ofList,
    String.toList_ofList, hchars]

def sampleRule : Rule :=
  match sampleGraph.compile (.standard (.int 10)) Graph.sampleNow with
  | .ok rule => rule
  | .error _ => Graph.sampleRule

/-- No text in the sample has half of a pair on its own, and no number in it is long. -/
lemma tame_sample : sampleGraph.payload.Everywhere (Json.Tame .writing) := by
  have hwhole : sampleGraph.payload.Everywhere Json.WholeTexts := by decide +kernel
  have hkeeps : sampleGraph.payload.KeepsTo .writing := by decide +kernel
  exact hwhole.and hkeeps.digits

/-- Surroundings in which the sample makes its rule: the usual ones, but for other settings. -/
structure IsUsual (ctx : Context) : Prop where
  limit : ctx.settings.maxGraphNodes = .int 500
  clock : ctx.clock = Graph.sampleNow
  reading : ctx.reading = .reading
  writing : ctx.writing = .writing

lemma IsUsual.legible (h : IsUsual ctx) : Legible ctx sampleFiles "graph.json" := by
  have hread : GraphFile.read ctx.reading sampleFiles "graph.json" = .ok sampleGraph.payload :=
    h.reading ▸ read_sample
  refine ⟨by decide, fun bytes hbytes => ?_, fun message => ?_, ?_, fun payload hpayload => ?_⟩
  · obtain rfl : sampleText.toUTF8 = bytes := Except.ok.inj hbytes
    rw [fromUTF8?_toUTF8]
    rfl
  · rw [hread]
    nofun
  · rw [hread]
    nofun
  · obtain rfl := Except.ok.inj (hread.symm.trans hpayload)
    exact h.writing ▸ tame_sample

end Promotion.CommandLine
