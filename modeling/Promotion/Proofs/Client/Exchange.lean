import Promotion.Client.Basic
import Promotion.Proofs.Work

/-! Calls of the rules API. A call hands over the request that can be put together for it, and is
over without one where there is none. -/
namespace Promotion

lemma Except.toOption_eq_some_iff {ε α : Type} {r : Except ε α} {a : α} :
    r.toOption = some a ↔ r = .ok a := by
  cases r <;> simp [Except.toOption]

namespace Client
variable {c : Client} {ctx : Context} {endpoint : Endpoint} {path : String}
  {query : Option (List Char)} {extra : Http.Headers} {body : String} {request : Http.Request}
  {fault : RequestFault} {rule : Rule}

/-- The request of a call in its surroundings, if it can be put together. -/
def callRequest (c : Client) (ctx : Context) (endpoint : Endpoint) (path : String)
    (query : Option (List Char)) (extra : Http.Headers) (body : String) :
    Except RequestFault Http.Request :=
  if (NodeKey.ofJson? ctx.settings.requestIdHeader).isNone then .error .headerNotKey
  else c.authHeader.bind fun auth => c.request? endpoint.method path query
    ctx.settings.requestIdHeader ctx.currentId (auth ++ extra) body

/-- What a call makes of the reply to its request. -/
def takeReply (endpoint : Endpoint) (path : String) (request : Http.Request) (reply : Http.Reply) :
    Work (Http.Request × Nat × ByteArray) :=
  match reply with
  | .failure kind message => do
    Work.count fun m => m.countCall endpoint (.ofReply reply)
    Work.log ⟨.error, logger, s!"{endpoint.method.word} {path} failed: {message}"⟩
    throw (.api (.unreachable endpoint.method path kind message))
  | .response status body => do
    match request.url.schemeFault? with
    | some url => throw (.request (.noScheme url))
    | none => pure ()
    Work.count fun m => m.countCall endpoint (.ofReply reply)
    Work.log ⟨.debug, logger, s!"{endpoint.method.word} {path} -> {status}"⟩
    pure (request, status, body)

lemma call_eq (c : Client) (ctx : Context) (endpoint : Endpoint) (path : String)
    (query : Option (List Char)) (extra : Http.Headers) (body : String) :
    c.call endpoint path query extra body ctx =
      (Work.ofExcept Fault.request (c.callRequest ctx endpoint path query extra body) >>=
        fun request => Work.send request >>= takeReply endpoint path request)
        { ctx with issued := ctx.issued + ctx.freshIds } := by
  unfold call callRequest
  rw [Work.bind_ok (Work.requestIdOrFresh_eq ctx), Work.bind_ok (Work.settings_eq _)]
  cases hkey : (NodeKey.ofJson? ctx.settings.requestIdHeader).isNone with
  | true => rfl
  | false =>
    cases c.authHeader with
    | error fault => rfl
    | ok auth => rfl

lemma call_of_error (h : c.callRequest ctx endpoint path query extra body = .error fault) :
    c.call endpoint path query extra body ctx =
      .error (.request fault) { ctx with issued := ctx.issued + ctx.freshIds } := by
  rw [call_eq, h]
  rfl

lemma call_of_ok (h : c.callRequest ctx endpoint path query extra body = .ok request) :
    c.call endpoint path query extra body ctx =
      takeReply endpoint path request (ctx.server ctx.sent.length request)
        { ctx with issued := ctx.issued + ctx.freshIds, sent := ctx.sent ++ [request] } := by
  rw [call_eq, h]
  rfl

lemma quiet_takeReply (endpoint : Endpoint) (path : String) (request : Http.Request)
    (reply : Http.Reply) : (takeReply endpoint path request reply).Quiet := by
  cases reply with
  | failure kind message =>
    exact (Work.quiet_count _).bind fun _ => (Work.quiet_log _).bind fun _ => Work.quiet_throw _
  | response status body =>
    have hrest : Work.Quiet (do
        Work.count fun m => m.countCall endpoint (.ofReply (.response status body))
        Work.log ⟨.debug, logger, s!"{endpoint.method.word} {path} -> {status}"⟩
        pure (request, status, body)) :=
      (Work.quiet_count _).bind fun _ => (Work.quiet_log _).bind fun _ => Work.quiet_pure _
    simp only [takeReply]
    split
    · exact (Work.quiet_throw _).bind fun _ => hrest
    · exact hrest

/-- A call for which there is a request hands over that one. -/
lemma call_leaves_of_ok (h : c.callRequest ctx endpoint path query extra body = .ok request) :
    ctx.Leaves [request] ctx.freshIds
      ((c.call endpoint path query extra body).context ctx) := by
  have hsent : ctx.Leaves [request] ctx.freshIds
      { ctx with issued := ctx.issued + ctx.freshIds, sent := ctx.sent ++ [request] } :=
    .mk ctx.log ctx.metrics
  rw [Work.context_congr (call_of_ok h)]
  simpa using hsent.trans (quiet_takeReply endpoint path request _ _)

lemma call_leaves_of_error (h : c.callRequest ctx endpoint path query extra body = .error fault) :
    ctx.Leaves [] ctx.freshIds ((c.call endpoint path query extra body).context ctx) := by
  rw [Work.context_of_error (call_of_error h)]
  simpa using ctx.leaves [] ctx.freshIds ctx.log ctx.metrics

/-! ### The request that hands a rule in -/

end Client

namespace Rule
variable {rule : Rule} {ctx : Context} {limits : Json.Limits} {text : String}

/-- The text that a rule is sent as, if there is one: its document has to keep to the limits, and no
half of a pair may stand on its own in it. -/
def body? (rule : Rule) (limits : Json.Limits) : Option String :=
  (rule.toJson?.bind fun document => (document.canonicalText limits).toOption).filter
    fun text => !Text.holdsHalf text

lemma body?_eq_some_iff : rule.body? limits = some text ↔ ∃ document,
    rule.toJson? = some document ∧ document.canonicalText limits = .ok text ∧
      Text.holdsHalf text = false := by
  simp only [body?, Option.filter_eq_some_iff, Option.bind_eq_some_iff,
    Except.toOption_eq_some_iff, Bool.not_eq_true']
  constructor
  · rintro ⟨⟨document, hdocument, htext⟩, hwhole⟩
    exact ⟨document, hdocument, htext, hwhole⟩
  · rintro ⟨document, hdocument, htext, hwhole⟩
    exact ⟨⟨document, hdocument, htext⟩, hwhole⟩

lemma write_of_some {document : Json} (h : rule.toJson? = some document) :
    rule.write ctx = .ok document ctx := by
  unfold write
  rw [h]
  rfl

lemma write_of_none (h : rule.toJson? = none) : rule.write ctx = .error .unwritableTime ctx := by
  unfold write
  rw [h]
  rfl

/-- A rule is put into the text that it is sent as, or this fails and nothing is done. -/
lemma body_cases (rule : Rule) (ctx : Context) :
    (∃ text, rule.body? ctx.writing = some text ∧ rule.body ctx = .ok text ctx) ∨
      rule.body? ctx.writing = none ∧ ∃ fault, rule.body ctx = .error fault ctx := by
  unfold body body?
  cases hdocument : rule.toJson? with
  | none => exact .inr ⟨rfl, _, Work.bind_error (write_of_none hdocument)⟩
  | some document =>
    rw [Work.bind_ok (write_of_some hdocument), Option.bind_some]
    cases htext : document.canonicalText ctx.writing with
    | error fault =>
      have hencode : Work.encode Json.canonical document ctx = .error (.ofWrite fault) ctx := by
        rw [Work.encode_eq, ← Json.canonicalText, htext]
        rfl
      exact .inr ⟨rfl, _, Work.bind_error hencode⟩
    | ok text =>
      have hencode : Work.encode Json.canonical document ctx = .ok text ctx := by
        rw [Work.encode_eq, ← Json.canonicalText, htext]
        rfl
      rw [Work.bind_ok hencode, Work.utf8]
      cases hhalf : Text.holdsHalf text with
      | true => exact .inr ⟨by simp [Except.toOption, hhalf], .strayHalf, rfl⟩
      | false => exact .inl ⟨text, by simp [Except.toOption, hhalf], rfl⟩

/-- A rule with a text is put into that text, and nothing else is done. -/
lemma body_of_some (rule : Rule) (h : rule.body? ctx.writing = some text) :
    rule.body ctx = .ok text ctx := by
  rcases rule.body_cases ctx with ⟨found, hfound, hbody⟩ | ⟨hnone, -⟩
  · obtain rfl := Option.some.inj (hfound.symm.trans h)
    exact hbody
  · rw [hnone] at h
    cases h

end Rule

namespace Client
variable {c : Client} {ctx : Context} {request : Http.Request} {rule : Rule}

/-- The header that says what a request holds. -/
abbrev contentHeader : Http.Headers := [("Content-Type", "application/json")]

/-- The request that hands a rule in, if there is one. -/
def creation? (c : Client) (rule : Rule) (ctx : Context) : Option Http.Request :=
  (rule.body? ctx.writing).bind fun text =>
    (c.callRequest ctx .createRule rulesPath none contentHeader text).toOption

lemma creation?_eq_some_iff : c.creation? rule ctx = some request ↔ ∃ text,
    rule.body? ctx.writing = some text ∧
      c.callRequest ctx .createRule rulesPath none contentHeader text = .ok request := by
  simp only [creation?, Option.bind_eq_some_iff, Except.toOption_eq_some_iff]

lemma createRule_leaves (c : Client) (rule : Rule) (ctx : Context) :
    ∃ ids ≤ ctx.freshIds,
      ctx.Leaves (c.creation? rule ctx).toList ids ((c.createRule rule).context ctx) := by
  unfold creation? createRule
  cases rule.body_cases ctx with
  | inr h =>
    obtain ⟨hnone, fault, hbody⟩ := h
    rw [Work.context_bind_error hbody, hnone]
    exact ⟨0, Nat.zero_le _, ctx.leaves_self⟩
  | inl h =>
    obtain ⟨text, hsome, hbody⟩ := h
    refine ⟨ctx.freshIds, Nat.le_refl _, ?_⟩
    rw [Work.context_bind_ok hbody, hsome, Option.bind_some]
    refine Work.leaves_bind ?_ fun _ => (Work.quiet_bodyJson _).bind fun _ =>
      (Work.quiet_ofExcept _ _).bind fun _ => (Work.quiet_log _).bind fun _ => Work.quiet_pure _
    cases h : c.callRequest ctx .createRule rulesPath none contentHeader text with
    | ok request => simpa [Except.toOption] using call_leaves_of_ok h
    | error fault => simpa [Except.toOption] using call_leaves_of_error h

end Client
end Promotion
