import Promotion.Proofs.Client.Status
import Promotion.Proofs.Http.Scheme

/-! What work counts. A request that is handed over is counted once, with what came of it; only a
response to a request whose address has no scheme gets lost. -/
namespace Promotion

/-- A compilation: the number of nodes, and whether there was a rule in the end. -/
structure Compilation where
  nodes : Nat
  succeeded : Bool

/-- A request that was handed over for an endpoint, and the reply to it. -/
structure Exchange where
  endpoint : Endpoint
  request : Http.Request
  reply : Http.Reply

namespace Exchange

/-- A failure is counted in any case, a response if the address of the request has a scheme. -/
def isCounted (x : Exchange) : Bool :=
  match x.reply with
  | .failure .. => true
  | .response .. => x.request.url.schemeFault?.isNone

lemma isCounted_of_schemeFault? {x : Exchange} (h : x.request.url.schemeFault? = none) :
    x.isCounted = true := by
  unfold isCounted
  cases x.reply <;> simp [h]

/-- What an exchange is counted under. -/
def label (x : Exchange) : Endpoint × Outcome := (x.endpoint, .ofReply x.reply)

end Exchange

namespace Metrics

/-- The counts with some compilations and exchanges more. -/
def book (m : Metrics) (compilations : List Compilation) (exchanges : List Exchange) : Metrics where
  compiled := m.compiled + (compilations.filter (·.succeeded)).length
  failed := m.failed + (compilations.filter fun c => !c.succeeded).length
  nodeCounts := m.nodeCounts ++ (compilations.filter (·.succeeded)).map (·.nodes)
  calls := m.calls ++ (exchanges.filter (·.isCounted)).map (·.label)

@[simp] lemma book_nil (m : Metrics) : m.book [] [] = m := by
  simp [book]

lemma book_book (m : Metrics) (cs ds : List Compilation) (xs ys : List Exchange) :
    (m.book cs xs).book ds ys = m.book (cs ++ ds) (xs ++ ys) := by
  simp [book, Nat.add_assoc]

end Metrics

namespace Context
variable {endpoint : Endpoint} {made : Http.Request → Prop} {ctx after last : Context}
  {cs ds : List Compilation}

/-- The exchanges for an endpoint between two moments: the requests that were handed over, with
what the server made of each. -/
def exchanges (endpoint : Endpoint) (before after : Context) : List Exchange :=
  (after.sent.drop before.sent.length).mapIdx fun i request =>
    ⟨endpoint, request, before.server (before.sent.length + i) request⟩

/-- What happened between two moments, the compilations and the requests of a certain kind, is
counted. -/
structure Books (endpoint : Endpoint) (made : Http.Request → Prop) (before after : Context)
    (compilations : List Compilation) : Prop where
  server : after.server = before.server
  sent : ∃ requests, after.sent = before.sent ++ requests ∧ ∀ request ∈ requests, made request
  metrics : after.metrics = before.metrics.book compilations (exchanges endpoint before after)

/-- Nothing happened that is counted. -/
structure Same (before after : Context) : Prop where
  server : after.server = before.server
  sent : after.sent = before.sent
  metrics : after.metrics = before.metrics

lemma same_self (ctx : Context) : ctx.Same ctx := ⟨rfl, rfl, rfl⟩

lemma Same.trans (h : ctx.Same after) (hlast : after.Same last) : ctx.Same last :=
  ⟨hlast.server.trans h.server, hlast.sent.trans h.sent, hlast.metrics.trans h.metrics⟩

lemma Same.books (h : ctx.Same after) : Books endpoint made ctx after [] where
  server := h.server
  sent := ⟨[], by rw [h.sent, List.append_nil], by simp⟩
  metrics := by simp [exchanges, h.sent, h.metrics]

lemma exchanges_of_sent {requests : List Http.Request} (h : after.sent = ctx.sent ++ requests) :
    exchanges endpoint ctx after = requests.mapIdx fun i request =>
      ⟨endpoint, request, ctx.server (ctx.sent.length + i) request⟩ := by
  rw [exchanges, h, List.drop_left]

lemma Books.trans (h : Books endpoint made ctx after cs)
    (hlast : Books endpoint made after last ds) : Books endpoint made ctx last (cs ++ ds) := by
  obtain ⟨first, hfirst, hmade⟩ := h.sent
  obtain ⟨more, hmore, hmadeMore⟩ := hlast.sent
  have hall : last.sent = ctx.sent ++ (first ++ more) := by
    rw [hmore, hfirst, List.append_assoc]
  refine ⟨hlast.server.trans h.server, ⟨first ++ more, hall, ?_⟩, ?_⟩
  · exact fun request hrequest =>
      (List.mem_append.mp hrequest).elim (hmade request) (hmadeMore request)
  · rw [hlast.metrics, h.metrics, Metrics.book_book, exchanges_of_sent hfirst,
      exchanges_of_sent hmore, exchanges_of_sent hall, List.mapIdx_append]
    have hindex : ∀ i, after.sent.length + i = ctx.sent.length + (i + first.length) := by
      intro i
      rw [hfirst, List.length_append]
      omega
    simp only [h.server, hindex]

lemma Books.exchanges_eq_nil (h : Books endpoint (fun _ => False) ctx after cs) :
    exchanges endpoint ctx after = [] := by
  obtain ⟨requests, hsent, hnone⟩ := h.sent
  rw [exchanges_of_sent hsent, List.eq_nil_iff_forall_not_mem.mpr hnone, List.mapIdx_nil]

/-- The requests of exchanges are of the kind that is made. -/
lemma Books.made_of_mem (h : Books endpoint made ctx after cs) {x : Exchange}
    (hx : x ∈ exchanges endpoint ctx after) : x.endpoint = endpoint ∧ made x.request := by
  obtain ⟨requests, hsent, hall⟩ := h.sent
  rw [exchanges_of_sent hsent] at hx
  obtain ⟨i, hi, rfl⟩ := List.mem_mapIdx.mp hx
  exact ⟨rfl, hall _ (List.getElem_mem hi)⟩

end Context

namespace Work
variable {α β : Type} {endpoint : Endpoint} {made : Http.Request → Prop} {ctx : Context}
  {cs : List Compilation} {w : Work α} {f : α → Work β}

/-- Work that neither compiles nor hands a request over. -/
def Idle (w : Work α) : Prop := ∀ ctx : Context, ctx.Same (w.context ctx)

lemma idle_pure (a : α) : Idle (pure a) := fun ctx => ctx.same_self

lemma idle_throw (fault : Fault) : Idle (throw fault : Work α) := fun ctx => ctx.same_self

lemma idle_settings : Idle settings := fun ctx => ctx.same_self

lemma idle_log (line : LogLine) : Idle (log line) := fun _ => ⟨rfl, rfl, rfl⟩

lemma idle_logAll (lines : List LogLine) : Idle (logAll lines) := fun _ => ⟨rfl, rfl, rfl⟩

lemma idle_ofExcept {ε : Type} (f : ε → Fault) (r : Except ε α) : Idle (ofExcept f r) := by
  cases r with
  | ok a => exact idle_pure a
  | error e => exact idle_throw (f e)

lemma idle_bodyJson (body : ByteArray) : Idle (bodyJson body) :=
  fun ctx => idle_ofExcept _ (Http.bodyJson ctx.reading body) ctx

/-- What some work is counted for stays the same if nothing but requests comes behind it. -/
lemma books_bind (hw : Context.Books endpoint made ctx (w.context ctx) cs)
    (hf : ∀ a after, Context.Books endpoint made after ((f a).context after) []) :
    Context.Books endpoint made ctx ((w >>= f).context ctx) cs := by
  cases h : w ctx with
  | ok a after =>
    rw [context_of_ok h] at hw
    rw [context_bind_ok h]
    simpa using hw.trans (hf a after)
  | error fault after =>
    rw [context_of_error h] at hw
    rwa [context_bind_error h]

lemma Idle.bind (hw : w.Idle) (hf : ∀ a, (f a).Idle) : (w >>= f).Idle := by
  intro ctx
  cases h : w ctx with
  | ok a after =>
    have hfirst := hw ctx
    rw [context_of_ok h] at hfirst
    rw [context_bind_ok h]
    exact hfirst.trans (hf a after)
  | error fault after =>
    have hfirst := hw ctx
    rw [context_of_error h] at hfirst
    rwa [context_bind_error h]

/-- A refusal in between. -/
lemma Idle.unless {p : Prop} [Decidable p] (fault : Fault) (hw : w.Idle) :
    Idle (if p then (throw fault : Work Unit) >>= fun _ => w else w) := by
  split
  · exact (idle_throw fault).bind fun _ => hw
  · exact hw

lemma Idle.books (hw : w.Idle) (ctx : Context) :
    Context.Books endpoint made ctx (w.context ctx) [] := (hw ctx).books

end Work

/-! ### Calls -/

namespace Client
variable {c : Client} {ctx : Context} {endpoint : Endpoint} {path : String}
  {query : Option (List Char)} {extra : Http.Headers} {body : String} {request : Http.Request}

/-- A request that a client makes for an endpoint. -/
structure Makes (c : Client) (endpoint : Endpoint) (request : Http.Request) : Prop where
  method : request.method = endpoint.method
  scheme : request.url.scheme = c.base.scheme

lemma validUrl_eq_ok_iff {found : Option Http.Url} {url : Http.Url} :
    validUrl found = .ok url ↔ found = some url := by
  cases found <;> simp [validUrl]

/-- A request goes where it is meant to, with the scheme of the client. -/
lemma makes_of_request? {method : Http.Method} {idHeader id : Json} {others : Http.Headers}
    (h : c.request? method path query idHeader id others body = .ok request) :
    request.method = method ∧ request.url.scheme = c.base.scheme := by
  obtain ⟨url, hurl, h⟩ := bind_eq_ok_iff.mp h
  obtain ⟨headers, -, h⟩ := bind_eq_ok_iff.mp h
  have hbase := Http.Url.scheme_join (validUrl_eq_ok_iff.mp hurl)
  have hlast : ∀ last : Http.Url, (if c.closed = true then (do
      throw .closed
      pure ⟨method, last, Http.Headers.override headers (credentialsHeader last), body⟩)
    else pure ⟨method, last, Http.Headers.override headers (credentialsHeader last), body⟩ :
      Except RequestFault Http.Request) = .ok request →
      request.method = method ∧ request.url = last := by
    intro last h
    split_ifs at h
    · obtain ⟨_, hthrow, -⟩ := bind_eq_ok_iff.mp h
      exact absurd hthrow throw_ne_ok
    · obtain rfl := Except.ok.inj h
      exact ⟨rfl, rfl⟩
  cases query with
  | none =>
    obtain ⟨last, hsame, h⟩ := bind_eq_ok_iff.mp h
    obtain rfl := Except.ok.inj hsame
    obtain ⟨hmethod, hurl⟩ := hlast _ h
    exact ⟨hmethod, hurl ▸ hbase⟩
  | some query =>
    obtain ⟨last, hquery, h⟩ := bind_eq_ok_iff.mp h
    obtain ⟨hmethod, hurl⟩ := hlast _ h
    have hscheme := Http.Url.scheme_withParts (validUrl_eq_ok_iff.mp hquery)
    exact ⟨hmethod, hurl ▸ hscheme.trans hbase⟩

lemma makes_of_callRequest (h : c.callRequest ctx endpoint path query extra body = .ok request) :
    c.Makes endpoint request := by
  unfold callRequest at h
  split at h
  · cases h
  · obtain ⟨auth, -, h⟩ := bind_eq_ok_iff.mp h
    obtain ⟨hmethod, hscheme⟩ := makes_of_request? h
    exact ⟨hmethod, hscheme⟩

lemma Makes.schemeFault?_eq_none (h : c.Makes endpoint request) (hc : c.base.HasScheme) :
    request.url.schemeFault? = none :=
  (hc.of_eq h.scheme).schemeFault?_eq_none

/-- What a call makes of a reply is counted once, if it is counted. -/
lemma metrics_takeReply (endpoint : Endpoint) (path : String) (request : Http.Request)
    (reply : Http.Reply) (ctx : Context) :
    ((takeReply endpoint path request reply).context ctx).metrics =
      ctx.metrics.book [] [⟨endpoint, request, reply⟩] := by
  cases reply with
  | failure kind message => simp [Metrics.book, Exchange.isCounted, Exchange.label]; rfl
  | response status body =>
    cases hscheme : request.url.schemeFault? with
    | some url => simp [Metrics.book, Exchange.isCounted, takeReply, hscheme]; rfl
    | none => simp [Metrics.book, Exchange.isCounted, Exchange.label, takeReply, hscheme]; rfl

/-- A call counts the request that it hands over, if any. -/
lemma books_call (c : Client) (ctx : Context) (endpoint : Endpoint) (path : String)
    (query : Option (List Char)) (extra : Http.Headers) (body : String) :
    Context.Books endpoint (c.Makes endpoint) ctx
      ((c.call endpoint path query extra body).context ctx) [] := by
  cases h : c.callRequest ctx endpoint path query extra body with
  | error fault =>
    rw [Work.context_of_error (call_of_error h)]
    exact Context.Same.books ⟨rfl, rfl, rfl⟩
  | ok request =>
    have hquiet := quiet_takeReply endpoint path request (ctx.server ctx.sent.length request)
      { ctx with issued := ctx.issued + ctx.freshIds, sent := ctx.sent ++ [request] }
    have hmetrics := metrics_takeReply endpoint path request (ctx.server ctx.sent.length request)
      { ctx with issued := ctx.issued + ctx.freshIds, sent := ctx.sent ++ [request] }
    rw [Work.context_congr (call_of_ok h)]
    generalize (takeReply endpoint path request _).context _ = after at hquiet hmetrics
    have hsent : after.sent = ctx.sent ++ [request] := by
      cases hquiet
      simp
    refine ⟨by cases hquiet; rfl, ⟨[request], hsent, ?_⟩, ?_⟩
    · simpa using makes_of_callRequest h
    · rw [hmetrics, Context.exchanges_of_sent hsent]
      rfl

end Client

namespace Client

lemma books_createRule (c : Client) (rule : Rule) (ctx : Context) :
    Context.Books .createRule (c.Makes .createRule) ctx ((c.createRule rule).context ctx) [] := by
  unfold createRule
  cases rule.body_cases ctx with
  | inr h =>
    obtain ⟨-, fault, hbody⟩ := h
    rw [Work.context_bind_error hbody]
    exact ctx.same_self.books
  | inl h =>
    obtain ⟨text, -, hbody⟩ := h
    rw [Work.context_bind_ok hbody]
    refine Work.books_bind (c.books_call ctx _ _ _ _ _) fun _ after => Work.Idle.books ?_ after
    exact (Work.idle_bodyJson _).bind fun _ => (Work.idle_ofExcept _ _).bind fun _ =>
      (Work.idle_log _).bind fun _ => Work.idle_pure _

lemma books_listRules (c : Client) (search : Json) (ctx : Context) :
    Context.Books .listRules (c.Makes .listRules) ctx ((c.listRules search).context ctx) [] := by
  refine Work.books_bind (c.books_call ctx _ _ _ _ _) fun answer after => Work.Idle.books ?_ after
  obtain ⟨request, status, body⟩ := answer
  refine (Work.idle_bodyJson _).bind fun payload => Work.Idle.unless _ ?_
  split
  · exact Work.idle_pure _
  · exact Work.idle_throw _

lemma books_deleteRule (c : Client) (id : Json) (ctx : Context) :
    Context.Books .deleteRule (c.Makes .deleteRule) ctx ((c.deleteRule id).context ctx) [] := by
  refine Work.books_bind (c.books_call ctx _ _ _ _ _) fun answer after => Work.Idle.books ?_ after
  obtain ⟨request, status, body⟩ := answer
  dsimp only
  split_ifs
  · exact Work.idle_pure _
  · exact (Work.idle_bodyJson _).bind fun _ => Work.idle_ofExcept _ _

lemma books_evaluate (c : Client) (ctx : Context) :
    Context.Books .evaluate (c.Makes .evaluate) ctx (c.evaluate.context ctx) [] := by
  refine Work.books_bind (c.books_call ctx _ _ _ _ _) fun answer after => Work.Idle.books ?_ after
  obtain ⟨request, status, body⟩ := answer
  refine (Work.idle_bodyJson _).bind fun payload => Work.Idle.unless _ ?_
  split
  · exact Work.idle_pure _
  · exact Work.idle_throw _

end Client

namespace ApiCall

def endpoint : ApiCall → Endpoint
  | .createRule _ => .createRule
  | .listRules _ => .listRules
  | .deleteRule _ => .deleteRule
  | .evaluate => .evaluate

theorem books_perform (call : ApiCall) (c : Client) (ctx : Context) :
    Context.Books call.endpoint (c.Makes call.endpoint) ctx ((call.perform c).context ctx) [] := by
  cases call with
  | createRule rule =>
    exact Work.books_bind (c.books_createRule rule ctx) fun _ => (Work.idle_pure _).books
  | listRules search =>
    exact Work.books_bind (c.books_listRules search ctx) fun _ => (Work.idle_pure _).books
  | deleteRule id =>
    exact Work.books_bind (c.books_deleteRule id ctx) fun _ => (Work.idle_pure _).books
  | evaluate => exact c.books_evaluate ctx

end ApiCall
end Promotion
