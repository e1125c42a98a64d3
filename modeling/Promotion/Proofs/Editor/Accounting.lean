import Promotion.Proofs.Client.Counting
import Promotion.Proofs.Editor.InPlace
import Promotion.Proofs.Editor.Submission

/-! Counts over a whole run. Every compilation and every request of a run is counted just once,
under how it ended, whatever became of the call that it belongs to. -/
namespace Promotion

/-! ### Compilations and submissions -/

namespace Graph
variable {endpoint : Endpoint} {made : Http.Request → Prop}

/-- The compilation of a graph in its surroundings. -/
def compilation (g : Graph) (metadata : RuleMetadata) (now : Option DateTime) (ctx : Context) :
    Compilation :=
  ⟨g.size, ((g.compileLogged metadata now).outcome ctx).isOk⟩

lemma succeeded_compilation (g : Graph) (metadata : RuleMetadata) (now : Option DateTime)
    (ctx : Context) : (g.compilation metadata now ctx).succeeded =
      (g.compile metadata (now.getD ctx.clock)).isOk := by
  unfold compilation
  rw [outcome_compileLogged_at]
  cases g.compile metadata (now.getD ctx.clock) <;> rfl

lemma metrics_compileLogged (g : Graph) (metadata : RuleMetadata) (now : Option DateTime)
    (ctx : Context) : ((g.compileLogged metadata now).context ctx).metrics =
      if (g.compile metadata (now.getD ctx.clock)).isOk then ctx.metrics.countCompiled g.size
      else ctx.metrics.countFailed := by
  unfold compileLogged
  rw [Work.context_bind_ok (Work.log_eq _ ctx), Work.context_bind_ok (Work.now_eq _),
    Work.context_bind_ok (Work.elapsed_eq _)]
  cases g.compile metadata (now.getD ctx.clock) <;> rfl

/-- A compilation is counted once, under how it ended. -/
lemma books_compileLogged (g : Graph) (metadata : RuleMetadata) (now : Option DateTime)
    (ctx : Context) : Context.Books endpoint made ctx ((g.compileLogged metadata now).context ctx)
      [g.compilation metadata now ctx] := by
  have hquiet := g.quiet_compileLogged metadata now ctx
  have hmetrics := g.metrics_compileLogged metadata now ctx
  have hsucceeded := g.succeeded_compilation metadata now ctx
  generalize (g.compileLogged metadata now).context ctx = after at hquiet hmetrics
  have hsent : after.sent = ctx.sent ++ [] := by
    cases hquiet
    rfl
  refine ⟨by cases hquiet; rfl, ⟨[], hsent, by simp⟩, ?_⟩
  have hnodes : (g.compilation metadata now ctx).nodes = g.size := rfl
  rw [hmetrics, Context.exchanges_of_sent hsent, ← hsucceeded]
  cases h : (g.compilation metadata now ctx).succeeded with
  | true => simp [Metrics.book, Metrics.countCompiled, h, hnodes]
  | false => simp [Metrics.book, Metrics.countFailed, h]

end Graph

namespace Editor
variable {e : Editor} {client : Client} {metadata : RuleMetadata} {ctx : Context}

lemma idle_checkReady (r : Rule) (enforceWindow : Option Bool) :
    (r.checkReady enforceWindow).Idle := by
  refine Work.idle_settings.bind fun settings => ?_
  split
  · exact Work.idle_throw _
  · exact Work.idle_logAll _

lemma books_handIn (e : Editor) (client : Client) (metadata : RuleMetadata) (ctx : Context) :
    Context.Books .createRule (client.Makes .createRule) ctx
      ((e.handIn client metadata).context ctx) [e.graph.compilation metadata none ctx] := by
  refine Work.books_bind (e.graph.books_compileLogged metadata none ctx) fun rule after => ?_
  refine Work.books_bind ((idle_checkReady rule none).books after) fun _ after => ?_
  refine Work.books_bind (client.books_createRule rule after) fun envelope after => ?_
  exact ((Work.idle_log _).bind fun _ => Work.idle_pure envelope).books after

lemma books_submit (e : Editor) (client : Client) (metadata : RuleMetadata) (ctx : Context) :
    Context.Books .createRule (client.Makes .createRule) ctx
      ((e.submit client metadata).context ctx) [e.graph.compilation metadata none ctx.withId] := by
  have hbooks := books_handIn e client metadata ctx.withId
  rw [submit_context]
  exact ⟨hbooks.server, hbooks.sent, hbooks.metrics⟩

end Editor

/-! ### Runs -/

/-- An editor in its surroundings. -/
structure Session where
  editor : Editor
  ctx : Context

/-- What is done in a session: the graph is edited, compiled or handed in, a rule is checked, the
API is called. Meanwhile settings, id and clock may change, and another editor may be taken up. -/
inductive SessionAct where
  | edit (c : AnyCall)
  | turnTo (editor : Editor)
  | compile (metadata : RuleMetadata) (now : Option DateTime)
  | check (rule : Rule) (enforceWindow : Option Bool)
  | submit (client : Client) (metadata : RuleMetadata)
  | callApi (client : Client) (c : ApiCall)
  | setSettings (settings : ActiveSettings)
  | setRequestId (id : Json)
  | setClock (now : DateTime)

namespace SessionAct

/-- What an act leaves behind, whether it fails or not. -/
def step (s : Session) : SessionAct → Session
  | .edit c =>
    ⟨(c.edit s.editor).editor,
      (Work.logAll ((c.edit s.editor).events.map GraphEvent.line)).context s.ctx⟩
  | .turnTo editor => { s with editor }
  | .compile metadata now =>
    { s with ctx := (s.editor.graph.compileLogged metadata now).context s.ctx }
  | .check rule enforceWindow => { s with ctx := (rule.checkReady enforceWindow).context s.ctx }
  | .submit client metadata => { s with ctx := (s.editor.submit client metadata).context s.ctx }
  | .callApi client c => { s with ctx := (c.perform client).context s.ctx }
  | .setSettings settings => { s with ctx := { s.ctx with settings } }
  | .setRequestId id => { s with ctx := (Work.setRequestId id).context s.ctx }
  | .setClock now => { s with ctx := { s.ctx with clock := now } }

/-- The compilations of an act. A submission compiles first, with an id for its requests in
place. -/
def compilations (s : Session) : SessionAct → List Compilation
  | .compile metadata now => [s.editor.graph.compilation metadata now s.ctx]
  | .submit _ metadata => [s.editor.graph.compilation metadata none s.ctx.withId]
  | _ => []

/-- The endpoint that the requests of an act are meant for. -/
def endpoint? : SessionAct → Option Endpoint
  | .submit .. => some .createRule
  | .callApi _ c => some c.endpoint
  | _ => none

/-- The exchanges of an act, read off the requests that it hands over. -/
def exchanges (s : Session) (act : SessionAct) : List Exchange :=
  match act.endpoint? with
  | some endpoint => Context.exchanges endpoint s.ctx (act.step s).ctx
  | none => []

/-- The exchanges of an act whose requests are known. -/
lemma exchanges_of_leaves {s : Session} {act : SessionAct} {endpoint : Endpoint}
    {requests : List Http.Request} {ids : Nat} (hendpoint : act.endpoint? = some endpoint)
    (h : s.ctx.Leaves requests ids (act.step s).ctx) :
    act.exchanges s = requests.mapIdx fun i request =>
      ⟨endpoint, request, s.ctx.server (s.ctx.sent.length + i) request⟩ := by
  unfold exchanges
  rw [hendpoint]
  generalize (act.step s).ctx = after at h ⊢
  cases h
  exact Context.exchanges_of_sent rfl

/-- The address of the client, if one takes part, begins with a scheme. -/
def HasScheme : SessionAct → Prop
  | .submit client _ => client.base.HasScheme
  | .callApi client _ => client.base.HasScheme
  | _ => True

end SessionAct

namespace Session

def run (s : Session) (acts : List SessionAct) : Session := acts.foldl SessionAct.step s

/-- The compilations of a run, one after the other. -/
def compilations (s : Session) : List SessionAct → List Compilation
  | [] => []
  | act :: acts => act.compilations s ++ (act.step s).compilations acts

/-- The exchanges of a run, one after the other. -/
def exchanges (s : Session) : List SessionAct → List Exchange
  | [] => []
  | act :: acts => act.exchanges s ++ (act.step s).exchanges acts

end Session

/-- What a run or a part of it leaves: all of its compilations and exchanges are counted, and the
exchanges are those of the requests that were handed over, in their order. -/
structure Accounts (s after : Session) (compilations : List Compilation)
    (exchanges : List Exchange) : Prop where
  metrics : after.ctx.metrics = s.ctx.metrics.book compilations exchanges
  sent : after.ctx.sent = s.ctx.sent ++ exchanges.map (·.request)
  server : after.ctx.server = s.ctx.server
  replies : ∀ i, ∀ x ∈ exchanges[i]?, x.reply = s.ctx.server (s.ctx.sent.length + i) x.request
  methods : ∀ x ∈ exchanges, x.request.method = x.endpoint.method

namespace Accounts
variable {s after last : Session} {cs ds : List Compilation} {xs ys : List Exchange}

lemma refl (s : Session) : Accounts s s [] [] := by
  constructor <;> simp

lemma of_same (h : s.ctx.Same after.ctx) : Accounts s after [] [] where
  metrics := by simp [h.metrics]
  sent := by simp [h.sent]
  server := h.server
  replies := by simp
  methods := by simp

lemma trans (h : Accounts s after cs xs) (hlast : Accounts after last ds ys) :
    Accounts s last (cs ++ ds) (xs ++ ys) where
  metrics := by rw [hlast.metrics, h.metrics, Metrics.book_book]
  sent := by rw [hlast.sent, h.sent, List.map_append, List.append_assoc]
  server := hlast.server.trans h.server
  replies i x hx := by
    rcases Nat.lt_or_ge i xs.length with hlt | hge
    · rw [List.getElem?_append_left hlt] at hx
      exact h.replies i x hx
    · rw [List.getElem?_append_right hge] at hx
      rw [hlast.replies _ x hx, h.server, h.sent, List.length_append, List.length_map]
      congr 1
      omega
  methods x hx := (List.mem_append.mp hx).elim (h.methods x) (hlast.methods x)

/-- Work that is counted, as a part of a run. -/
lemma of_books {endpoint : Endpoint} {made : Http.Request → Prop}
    (hmade : ∀ request, made request → request.method = endpoint.method)
    (h : Context.Books endpoint made s.ctx after.ctx cs) :
    Accounts s after cs (Context.exchanges endpoint s.ctx after.ctx) := by
  obtain ⟨requests, hsent, hall⟩ := h.sent
  refine ⟨h.metrics, ?_, h.server, ?_, fun x hx => ?_⟩
  · rw [hsent, Context.exchanges_of_sent hsent]
    congr 1
    refine List.ext_getElem? fun i => ?_
    simp [List.getElem?_mapIdx, Function.comp_def]
  · intro i x hx
    rw [Context.exchanges_of_sent hsent, List.getElem?_mapIdx] at hx
    obtain ⟨request, -, rfl⟩ := Option.map_eq_some_iff.mp hx
    rfl
  · obtain ⟨hendpoint, hrequest⟩ := h.made_of_mem hx
    rw [hmade _ hrequest, hendpoint]

end Accounts

namespace SessionAct

/-- What an act leaves is accounted for by its own compilations and exchanges. -/
theorem accounts_step (s : Session) (act : SessionAct) :
    Accounts s (act.step s) (act.compilations s) (act.exchanges s) := by
  cases act with
  | edit c => exact .of_same (Work.idle_logAll _ s.ctx)
  | turnTo editor => exact .of_same s.ctx.same_self
  | compile metadata now =>
    have hbooks : Context.Books .createRule (fun _ => False) s.ctx
        ((compile metadata now).step s).ctx _ :=
      s.editor.graph.books_compileLogged metadata now s.ctx
    have haccounts : Accounts s ((compile metadata now).step s) _ _ :=
      .of_books (fun _ (h : False) => h.elim) hbooks
    rwa [hbooks.exchanges_eq_nil] at haccounts
  | check rule enforceWindow => exact .of_same (Editor.idle_checkReady rule enforceWindow s.ctx)
  | submit client metadata =>
    exact .of_books (fun _ h => h.method) (s.editor.books_submit client metadata s.ctx)
  | callApi client c => exact .of_books (fun _ h => h.method) (c.books_perform client s.ctx)
  | setSettings settings => exact .of_same ⟨rfl, rfl, rfl⟩
  | setRequestId id => exact .of_same ⟨rfl, rfl, rfl⟩
  | setClock now => exact .of_same ⟨rfl, rfl, rfl⟩

/-- With a scheme in the address of the client every exchange is counted. -/
lemma isCounted_of_mem_exchanges {s : Session} {act : SessionAct} (h : act.HasScheme)
    {x : Exchange} (hx : x ∈ act.exchanges s) : x.isCounted = true := by
  cases act with
  | submit client metadata =>
    have hmade := ((s.editor.books_submit client metadata s.ctx).made_of_mem hx).2
    exact Exchange.isCounted_of_schemeFault? (hmade.schemeFault?_eq_none h)
  | callApi client c =>
    have hmade := ((c.books_perform client s.ctx).made_of_mem hx).2
    exact Exchange.isCounted_of_schemeFault? (hmade.schemeFault?_eq_none h)
  | _ => simp [exchanges, endpoint?] at hx

end SessionAct

namespace Session

theorem accounts_run (s : Session) (acts : List SessionAct) :
    Accounts s (s.run acts) (s.compilations acts) (s.exchanges acts) := by
  induction acts generalizing s with
  | nil => exact .refl s
  | cons act acts ih => exact (act.accounts_step s).trans (ih (act.step s))

lemma isCounted_of_mem_run {s : Session} {acts : List SessionAct}
    (h : ∀ act ∈ acts, act.HasScheme) {x : Exchange} (hx : x ∈ s.exchanges acts) :
    x.isCounted = true := by
  induction acts generalizing s with
  | nil => simp [exchanges] at hx
  | cons act acts ih =>
    rcases List.mem_append.mp hx with hx | hx
    · exact SessionAct.isCounted_of_mem_exchanges (h act List.mem_cons_self) hx
    · exact ih (fun act hact => h act (List.mem_cons_of_mem _ hact)) hx

end Session

/-! ### Totals -/

namespace Metrics

/-- The name of a sample is what comes before its labels. -/
def hasName (name sample : String) : Bool := (name ++ "\x7b").toList.isPrefixOf sample.toList

/-- The samples of the requests with one name, added up over their labels. -/
def requestTotal (m : Metrics) (name : String) : Nat :=
  ((m.requests.filter fun sample => hasName name sample.1).map (·.2)).sum

lemma hasName_append (name rest : String) : hasName name (name ++ "\x7b" ++ rest) = true := by
  simp only [hasName, String.toList_append]
  exact List.isPrefixOf_iff_prefix.mpr (List.prefix_append _ _)

lemma hasName_duration (endpoint : Endpoint) : hasName "promo_api_requests_total"
    ("promo_api_request_duration_seconds_count\x7b" ++ callLabels endpoint ++ "\x7d") = false := by
  simp only [hasName, String.toList_append]
  rfl

lemma hasName_total (endpoint : Endpoint) (outcome : Outcome) : hasName "promo_api_requests_total"
    ("promo_api_requests_total\x7b" ++ callLabels endpoint ++ ",outcome=" ++ outcome.word ++
      "\x7d") = true := by
  have hname : "promo_api_requests_total\x7b" = "promo_api_requests_total" ++ "\x7b" := rfl
  rw [hname]
  simp only [String.append_assoc]
  rw [← String.append_assoc]
  exact hasName_append _ _

/-- The labels under which a request is counted. -/
def labels : List (Endpoint × Outcome) :=
  Endpoint.all.flatMap fun endpoint => Outcome.all.map fun outcome => (endpoint, outcome)

lemma count_labels (label : Endpoint × Outcome) : labels.count label = 1 := by
  obtain ⟨endpoint, outcome⟩ := label
  cases endpoint <;> cases outcome <;> rfl

lemma filter_requests (m : Metrics) :
    (m.requests.filter fun sample => hasName "promo_api_requests_total" sample.1).map (·.2) =
      labels.map fun label => m.calls.count label := by
  unfold requests labels
  rw [List.filter_flatMap, List.map_flatMap, List.map_flatMap]
  refine congrArg (List.flatMap · Endpoint.all) (funext fun endpoint => ?_)
  rw [List.filter_cons_of_neg, List.filter_map, List.map_map, List.map_map]
  · simp only [Function.comp_def, hasName_total, List.filter_true]
  · simp only [hasName_duration, Bool.false_eq_true, not_false_eq_true]

lemma total_count_cons (label : Endpoint × Outcome) (calls all : List (Endpoint × Outcome)) :
    (all.map fun l => (label :: calls).count l).sum =
      (all.map fun l => calls.count l).sum + all.count label := by
  induction all with
  | nil => rfl
  | cons l all ih =>
    have hcount : (label :: calls).count l = calls.count l + if l == label then 1 else 0 := by
      rw [List.count_cons, BEq.comm]
    rw [List.map_cons, List.map_cons, List.sum_cons, List.sum_cons, ih, hcount, List.count_cons]
    omega

/-- Each call is counted under one pair of labels. -/
lemma requestTotal_eq (m : Metrics) :
    m.requestTotal "promo_api_requests_total" = m.calls.length := by
  rw [requestTotal, filter_requests]
  induction m.calls with
  | nil => rfl
  | cons label calls ih => rw [total_count_cons, ih, count_labels, List.length_cons]

/-- The counts say how many of the compilations succeeded, how many failed and how large the graphs
of the former were, and for each request under which endpoint it went out and what came of it. -/
structure Tells (m : Metrics) (compilations : List Compilation) (exchanges : List Exchange) :
    Prop where
  compiled : m.compiled = compilations.countP (·.succeeded)
  failed : m.failed = compilations.countP fun c => !c.succeeded
  nodeCounts : m.nodeCounts = (compilations.filter (·.succeeded)).map (·.nodes)
  calls : m.calls = exchanges.map (·.label)
  total : m.requestTotal "promo_api_requests_total" = exchanges.length

lemma tells_book_fresh (compilations : List Compilation) (exchanges : List Exchange) :
    (Metrics.fresh.book compilations exchanges).Tells compilations
      (exchanges.filter (·.isCounted)) := by
  have hcalls : (Metrics.fresh.book compilations exchanges).calls =
      (exchanges.filter (·.isCounted)).map (·.label) := by
    simp [book, fresh]
  refine ⟨?_, ?_, ?_, hcalls, ?_⟩
  · simp [book, fresh, List.countP_eq_length_filter]
  · simp [book, fresh, List.countP_eq_length_filter]
  · simp [book, fresh]
  · rw [requestTotal_eq, hcalls, List.length_map]

end Metrics

namespace Session

/-- The counts of a run that starts afresh agree with what happened in it: with how each
compilation ended, and with the requests that the server was handed and what it made of them. None
of these is left out if the address of each client has a scheme. -/
theorem tells_run {s : Session} (acts : List SessionAct) (hfresh : s.ctx.metrics = .fresh) :
    Accounts s (s.run acts) (s.compilations acts) (s.exchanges acts) ∧
      (s.run acts).ctx.metrics.Tells (s.compilations acts)
        ((s.exchanges acts).filter (·.isCounted)) ∧
      ((∀ act ∈ acts, act.HasScheme) →
        (s.exchanges acts).filter (·.isCounted) = s.exchanges acts) := by
  have haccounts := s.accounts_run acts
  refine ⟨haccounts, ?_, fun h => List.filter_eq_self.mpr fun x => isCounted_of_mem_run h⟩
  rw [haccounts.metrics, hfresh]
  exact Metrics.tells_book_fresh _ _

/-- A server that knows no rules. -/
def sample : Session where
  editor := .ofGraph Graph.sample
  ctx := Client.sampleContext (.response 404 ApiCall.sampleBody)

/-- A node that cannot be compiled. -/
def parcel : Node := .loose ⟨none, .str "parcel", [("kind", .str "parcel")], .text "parcel", rfl⟩

/-- Between two submissions comes a node that cannot be compiled. -/
def sampleActs : List SessionAct :=
  [.compile Graph.sampleMetadata none, .submit Client.sample Graph.sampleMetadata,
    .edit (.insert parcel), .submit Client.sample Graph.sampleMetadata,
    .callApi Client.sample (.listRules .null)]

section
variable {ctx : Context} {requests : List Http.Request} {ids : Nat}

/-- However many ids were given out, the sample client goes on being able to send. -/
lemma canSend_of_leaves (h : sample.ctx.Leaves requests ids ctx) :
    ∃ id, Client.sample.CanSend ctx "X-Request-ID" id := by
  cases h with
  | mk log metrics =>
    have htext : ∀ n, (sample.ctx.freshId n).toList =
        "generated-".toList ++ List.replicate (n + 1) 'i' := fun n => String.toList_ofList
    have hascii : ∀ n, Client.isAscii (sample.ctx.freshId n) = true := by
      intro n
      rw [Client.isAscii, htext, List.all_append, List.all_replicate]
      simp
    have hne : ∀ n, sample.ctx.freshId n ≠ "" := by
      intro n hempty
      have hchars := htext n
      rw [hempty] at hchars
      simp at hchars
    exact ⟨_, ⟨rfl, fun _ => ⟨"secret", rfl, by decide⟩, rfl, rfl, hascii _, hne _⟩, by decide⟩

/-- The sample is handed in with one request. -/
lemma submit_sample (h : sample.ctx.Leaves requests ids ctx) : ∃ request,
    ctx.Leaves [request] ctx.freshIds
      (((Editor.ofGraph Graph.sample).submit Client.sample Graph.sampleMetadata).context ctx) := by
  obtain ⟨id, hsend⟩ := canSend_of_leaves h
  obtain ⟨document, hdocument, hcan⟩ := Client.canHandIn_sample
  have hclock : ctx.clock = Graph.sampleNow := by
    cases h
    rfl
  have hwriting : ctx.withId.writing = .writing := by
    cases h
    rfl
  have hcompile : Graph.sample.compile Graph.sampleMetadata ctx.clock = .ok Graph.sampleRule :=
    hclock ▸ Graph.compile_sample
  obtain ⟨request, hrequest⟩ := Option.isSome_iff_exists.mp
    ((Client.creation?_isSome_iff hsend.toAble.withId hdocument).mpr (hwriting ▸ hcan))
  have hleaves := Editor.submit_leaves_of_ready (e := Editor.ofGraph Graph.sample) hsend.toAble
    hcompile (Editor.ready_sample _)
  rw [hrequest] at hleaves
  exact ⟨request, hleaves⟩

/-- A graph that is not compiled is not handed in. -/
lemma submit_uncompiled {g : Graph} {fault : CompileFault}
    (h : sample.ctx.Leaves requests ids ctx)
    (hfault : g.compile Graph.sampleMetadata Graph.sampleNow = .error fault) :
    ctx.Leaves [] ctx.freshIds
      (((Editor.ofGraph g).submit Client.sample Graph.sampleMetadata).context ctx) := by
  have hclock : ctx.withId.clock = Graph.sampleNow := by
    cases h
    rfl
  refine Editor.submit_leaves (Editor.handIn_leaves_of_not_ready fun rule hrule => ?_)
  rw [hclock] at hrule
  cases hfault.symm.trans hrule

/-- The stored rules are asked for with one request. -/
lemma list_sample (h : sample.ctx.Leaves requests ids ctx) : ∃ request,
    ctx.Leaves [request] ctx.freshIds
      (((ApiCall.listRules .null).perform Client.sample).context ctx) := by
  obtain ⟨id, hsend⟩ := canSend_of_leaves h
  have hurl : (Client.sample.base.join rulesPath.toList).isSome := by decide
  obtain ⟨url, hurl⟩ := Option.isSome_iff_exists.mp hurl
  obtain ⟨headers, hrequest, -⟩ :=
    Client.callRequest_of_canSend .listRules "" hsend hurl Client.allAscii_nil
  refine ⟨_, Work.leaves_bind (Work.leaves_bind (Client.call_leaves_of_ok hrequest)
    fun reply => ?_) fun _ => Work.quiet_pure _⟩
  obtain ⟨request, status, body⟩ := reply
  refine (Work.quiet_bodyJson body).bind fun payload => Work.Quiet.unless _ ?_
  split
  · exact Work.quiet_pure _
  · exact Work.quiet_throw _

/-- What comes of a request that the sample hands over. -/
lemma label_of_leaves {s : Session} {act : SessionAct} {endpoint : Endpoint}
    {request : Http.Request} {more : Nat} (h : sample.ctx.Leaves requests ids s.ctx)
    (hendpoint : act.endpoint? = some endpoint)
    (hact : s.ctx.Leaves [request] more (act.step s).ctx) :
    (act.exchanges s).map (·.label) = [(endpoint, .error)] := by
  have hserver : s.ctx.server = sample.ctx.server := by
    generalize s.ctx = ctx at h
    cases h
    rfl
  rw [SessionAct.exchanges_of_leaves hendpoint hact, hserver]
  rfl

end

lemma compile_parcel : ∃ g fault,
    ((AnyCall.insert parcel).edit (.ofGraph Graph.sample)).editor = .ofGraph g ∧
      g.compile Graph.sampleMetadata Graph.sampleNow = .error fault :=
  ⟨_, _, rfl, rfl⟩

lemma labels_sample : (sample.exchanges sampleActs).map (·.label) =
    [(.createRule, .error), (.listRules, .error)] := by
  obtain ⟨g, fault, hedit, hfault⟩ := compile_parcel
  simp only [sampleActs, Session.exchanges, List.map_append]
  -- Each session in turn is forgotten but for its editor and what was handed over until then.
  have hfirst : sample.ctx.Leaves [] 0
      ((SessionAct.compile Graph.sampleMetadata none).step sample).ctx :=
    Graph.sample.quiet_compileLogged Graph.sampleMetadata none sample.ctx
  have heditor : ((SessionAct.compile Graph.sampleMetadata none).step sample).editor =
      .ofGraph Graph.sample := rfl
  generalize (SessionAct.compile Graph.sampleMetadata none).step sample = first
    at hfirst heditor ⊢
  obtain ⟨request, hsubmit⟩ := submit_sample hfirst
  rw [← heditor] at hsubmit
  have hsecond := hfirst.trans hsubmit
  have hsame : ((SessionAct.submit Client.sample Graph.sampleMetadata).step first).editor =
      first.editor := rfl
  rw [heditor] at hsame
  have hcreated : ((SessionAct.submit Client.sample Graph.sampleMetadata).exchanges first).map
      (·.label) = [(.createRule, .error)] := label_of_leaves hfirst rfl hsubmit
  change sample.ctx.Leaves _ _
    ((SessionAct.submit Client.sample Graph.sampleMetadata).step first).ctx at hsecond
  generalize (SessionAct.submit Client.sample Graph.sampleMetadata).step first = second
    at hsecond hsame ⊢
  have hthird : sample.ctx.Leaves _ _ ((SessionAct.edit (.insert parcel)).step second).ctx :=
    hsecond.trans (Work.quiet_logAll _ second.ctx)
  have hgraph : ((SessionAct.edit (.insert parcel)).step second).editor = .ofGraph g := by
    rw [← hedit, ← hsame]
    rfl
  generalize (SessionAct.edit (.insert parcel)).step second = third at hthird hgraph ⊢
  have hrefused := submit_uncompiled hthird hfault
  rw [← hgraph] at hrefused
  change third.ctx.Leaves [] _
    ((SessionAct.submit Client.sample Graph.sampleMetadata).step third).ctx at hrefused
  have hnone : (SessionAct.submit Client.sample Graph.sampleMetadata).exchanges third = [] :=
    SessionAct.exchanges_of_leaves rfl hrefused
  have hfourth : sample.ctx.Leaves _ _
      ((SessionAct.submit Client.sample Graph.sampleMetadata).step third).ctx :=
    hthird.trans hrefused
  generalize (SessionAct.submit Client.sample Graph.sampleMetadata).step third = fourth at hfourth ⊢
  obtain ⟨request, hlist⟩ := list_sample hfourth
  have hlisted : ((SessionAct.callApi Client.sample (.listRules .null)).exchanges fourth).map
      (·.label) = [(.listRules, .error)] := label_of_leaves hfourth rfl hlist
  rw [hcreated, hnone, hlisted]
  rfl

theorem tells_run_sample :
    (sample.run sampleActs).ctx.metrics.Tells
        [⟨4, true⟩, ⟨4, true⟩, ⟨5, false⟩] (sample.exchanges sampleActs) ∧
      (sample.exchanges sampleActs).map (·.label) =
        [(.createRule, .error), (.listRules, .error)] ∧
      Accounts sample (sample.run sampleActs) [⟨4, true⟩, ⟨4, true⟩, ⟨5, false⟩]
        (sample.exchanges sampleActs) := by
  have hscheme : Client.sample.base.HasScheme := Http.Url.hasScheme_of_web (by simp [Client.sample])
  have hacts : ∀ act ∈ sampleActs, act.HasScheme := by
    simp [sampleActs, SessionAct.HasScheme, hscheme]
  obtain ⟨haccounts, htells, hall⟩ := tells_run (s := sample) sampleActs rfl
  rw [hall hacts] at htells
  exact ⟨htells, labels_sample, haccounts⟩

/-- Without a scheme in the address of the client a response is lost before it is counted. -/
theorem response_uncounted :
    ∃ c, Client.create .standard ⟨.str "api/v1", .null, .null, .null⟩ = .ok c ∧
      (sample.run [.callApi c (.listRules .null)]).ctx.sent.length = 1 ∧
      (sample.run [.callApi c (.listRules .null)]).ctx.metrics.requestTotal
        "promo_api_requests_total" = 0 :=
  ⟨_, rfl, rfl, Metrics.requestTotal_eq _⟩

end Session
end Promotion
