import Promotion.Proofs.Client.Request

/-! What calls of the rules API make of a response. It depends on the status only in whether that
tells of an error, and that deletions need no envelope where there is no content. A body that is
nested too deep cannot be read, whatever the status. -/
namespace Promotion

namespace Http
variable {limits : Json.Limits} {body : ByteArray} {payload : Option Json}

/-- A body that holds more arrays and objects inside each other than can be read. -/
def TooDeep (limits : Json.Limits) (body : ByteArray) : Prop :=
  bodyJson limits body = .error .tooDeep

/-- The value in a body; there is none in a body that is no JSON or cannot be read. -/
def bodyJson? (limits : Json.Limits) (body : ByteArray) : Option Json :=
  (bodyJson limits body).toOption.join

lemma eq_tooDeep_of_bodyJson {fault : Json.ReadFault} (h : bodyJson limits body = .error fault) :
    fault = .tooDeep := by
  unfold bodyJson at h
  split at h <;> cases h
  rfl

lemma bodyJson_eq_ok (h : ¬ TooDeep limits body) :
    bodyJson limits body = .ok (bodyJson? limits body) := by
  unfold bodyJson?
  cases hread : bodyJson limits body with
  | ok payload => rfl
  | error fault =>
    rw [eq_tooDeep_of_bodyJson hread] at hread
    exact absurd hread h

lemma not_tooDeep_of_bodyJson? {json : Json} (h : bodyJson? limits body = some json) :
    ¬ TooDeep limits body := by
  intro hdeep
  rw [bodyJson?, show bodyJson limits body = .error .tooDeep from hdeep] at h
  cases h

end Http

/-- A call of the rules API. -/
inductive ApiCall where
  | createRule (rule : Rule)
  | listRules (search : Json)
  | deleteRule (id : Json)
  | evaluate

namespace ApiCall
variable {call : ApiCall} {c : Client} {ctx : Context} {status : Nat} {body : ByteArray}
  {request : Http.Request}

/-- Makes a call, and gives what it returns as a value. -/
def perform (c : Client) : ApiCall → Work Json
  | .createRule rule => do return (← c.createRule rule).toJson
  | .listRules search => do return (← c.listRules search).toJson
  | .deleteRule id => do return (← c.deleteRule id).toJson
  | .evaluate => c.evaluate

/-- The request of a call, if there is one. -/
def request? (c : Client) (ctx : Context) : ApiCall → Option Http.Request
  | .createRule rule => c.creation? rule ctx
  | .listRules search => (c.callRequest ctx .listRules rulesPath
      (if search.truthy then some (searchQuery search) else none) [] "").toOption
  | .deleteRule id => (c.callRequest ctx .deleteRule (rulePath id) none [] "").toOption
  | .evaluate => (c.callRequest ctx .evaluate evaluatePath none [] "").toOption

/-- The request of a call is handed over and gets a response. -/
def Answered (call : ApiCall) (c : Client) (ctx : Context) (status : Nat) (body : ByteArray) :
    Prop :=
  ∃ request, call.request? c ctx = some request ∧ request.url.schemeFault? = none ∧
    ctx.server ctx.sent.length request = .response status body

/-- A value with an envelope that tells of success. -/
def TellsSuccess (payload : Option Json) : Prop :=
  ∃ envelope, Envelope.ofJson (payload.getD .null) = .valid envelope ∧ envelope.success = true

/-- What a call expects of the value in the body of a response. -/
def Fits (status : Nat) (payload : Option Json) : ApiCall → Prop
  | .createRule _ => TellsSuccess payload
  | .listRules _ => ∃ rules, StoredRules.ofJson (payload.getD .null) = .valid rules
  | .deleteRule _ => status = Http.noContent ∨ TellsSuccess payload
  | .evaluate => ∃ fields, payload = some (.obj fields)

/-- A call reads the body of a response, unless it knows that there is nothing to read. -/
def Reads (status : Nat) : ApiCall → Prop
  | .deleteRule _ => status ≠ Http.noContent
  | _ => True

/-- The body has to be read, and cannot be. -/
def Overwhelms (limits : Json.Limits) (status : Nat) (body : ByteArray) (call : ApiCall) : Prop :=
  call.Reads status ∧ Http.TooDeep limits body

end ApiCall

namespace Client
variable {c : Client} {ctx : Context} {endpoint : Endpoint} {path : String}
  {query : Option (List Char)} {extra : Http.Headers} {text : String} {request : Http.Request}
  {status : Nat} {body : ByteArray}

/-- A call whose request gets a response goes on with that. -/
lemma outcome_call (h : c.callRequest ctx endpoint path query extra text = .ok request)
    (hscheme : request.url.schemeFault? = none)
    (hreply : ctx.server ctx.sent.length request = .response status body) :
    (c.call endpoint path query extra text).outcome ctx = .ok (request, status, body) := by
  unfold Work.outcome
  rw [call_of_ok h, hreply]
  simp only [takeReply, hscheme]
  rfl

/-! ### What a call makes of a response -/

/-- A response is gone on with in surroundings that can read as much as before. -/
lemma outcome_call_bind {α : Type} {f : Http.Request × Nat × ByteArray → Work α}
    (h : c.callRequest ctx endpoint path query extra text = .ok request)
    (hscheme : request.url.schemeFault? = none)
    (hreply : ctx.server ctx.sent.length request = .response status body) :
    ∃ after : Context, after.reading = ctx.reading ∧
      (c.call endpoint path query extra text >>= f).outcome ctx =
        (f (request, status, body)).outcome after := by
  refine ⟨_, ?_, Work.outcome_bind_ok (Work.eq_ok_of_outcome (outcome_call h hscheme hreply))⟩
  have hleaves := call_leaves_of_ok h
  generalize (c.call endpoint path query extra text).context ctx = after at hleaves
  cases hleaves
  rfl

/-- What is read of a body; where it cannot be read this is the fault. -/
def readBody (limits : Json.Limits) (body : ByteArray) : Except Fault (Option Json) :=
  (Http.bodyJson limits body).mapError fun _ => .tooDeep

lemma readBody_of_tooDeep {limits : Json.Limits} (h : Http.TooDeep limits body) :
    readBody limits body = .error .tooDeep := by
  rw [readBody, show Http.bodyJson limits body = .error .tooDeep from h]
  rfl

lemma readBody_of_not_tooDeep {limits : Json.Limits} (h : ¬ Http.TooDeep limits body) :
    readBody limits body = .ok (Http.bodyJson? limits body) := by
  rw [readBody, Http.bodyJson_eq_ok h]
  rfl

lemma outcome_createRule {rule : Rule} (h : c.creation? rule ctx = some request)
    (hscheme : request.url.schemeFault? = none)
    (hreply : ctx.server ctx.sent.length request = .response status body) :
    (c.createRule rule).outcome ctx = (readBody ctx.reading body).bind fun payload =>
      (envelope request status payload "Failed to create promotion rule").mapError .api := by
  obtain ⟨text, htext, hrequest⟩ := creation?_eq_some_iff.mp h
  unfold createRule
  rw [Work.outcome_bind_ok (rule.body_of_some htext)]
  obtain ⟨after, hreading, hcall⟩ := outcome_call_bind hrequest hscheme hreply
  rw [hcall, Work.outcome_bodyJson_bind, hreading, readBody]
  congr 1
  funext payload
  rw [Work.outcome_bind, Work.outcome_ofExcept]
  cases envelope request status payload "Failed to create promotion rule" <;> rfl

lemma outcome_listRules {search : Json}
    (h : c.callRequest ctx .listRules rulesPath
      (if search.truthy then some (searchQuery search) else none) [] "" = .ok request)
    (hscheme : request.url.schemeFault? = none)
    (hreply : ctx.server ctx.sent.length request = .response status body) :
    (c.listRules search).outcome ctx = (readBody ctx.reading body).bind fun payload =>
      if Http.isError status then
        .error (.api (refusal request status payload "Failed to fetch promotion rules"))
      else
        match StoredRules.ofJson (payload.getD .null) with
        | .valid rules => .ok rules
        | .invalid issues => .error (.api (.unexpected status issues)) := by
  unfold listRules
  obtain ⟨after, hreading, hcall⟩ := outcome_call_bind h hscheme hreply
  rw [hcall, Work.outcome_bodyJson_bind, hreading, readBody]
  congr 1
  funext payload
  cases herror : Http.isError status with
  | true =>
    simp only [if_true]
    rfl
  | false =>
    simp only [Bool.false_eq_true, if_false]
    cases StoredRules.ofJson (payload.getD .null) <;> rfl

lemma outcome_deleteRule {id : Json}
    (h : c.callRequest ctx .deleteRule (rulePath id) none [] "" = .ok request)
    (hscheme : request.url.schemeFault? = none)
    (hreply : ctx.server ctx.sent.length request = .response status body) :
    (c.deleteRule id).outcome ctx =
      if status = Http.noContent then .ok ⟨true, "", .null⟩
      else (readBody ctx.reading body).bind fun payload =>
        (envelope request status payload "Failed to delete promotion rule").mapError .api := by
  unfold deleteRule
  obtain ⟨after, hreading, hcall⟩ := outcome_call_bind h hscheme hreply
  rw [hcall]
  by_cases hstatus : status = Http.noContent
  · simp only [hstatus, if_true]
    rfl
  · simp only [hstatus, if_false, Work.outcome_bodyJson_bind, Work.outcome_ofExcept, hreading,
      readBody]

lemma outcome_evaluate (h : c.callRequest ctx .evaluate evaluatePath none [] "" = .ok request)
    (hscheme : request.url.schemeFault? = none)
    (hreply : ctx.server ctx.sent.length request = .response status body) :
    c.evaluate.outcome ctx = (readBody ctx.reading body).bind fun payload =>
      if Http.isError status then
        .error (.api (refusal request status payload "Failed to evaluate cart"))
      else
        match payload with
        | some (.obj fields) => .ok (.obj fields)
        | _ => .error (.api (.unexpectedCart status)) := by
  unfold evaluate
  obtain ⟨after, hreading, hcall⟩ := outcome_call_bind h hscheme hreply
  rw [hcall, Work.outcome_bodyJson_bind, hreading, readBody]
  congr 1
  funext payload
  cases herror : Http.isError status with
  | true =>
    simp only [if_true]
    rfl
  | false =>
    simp only [Bool.false_eq_true, if_false]
    rcases payload with _ | json
    · rfl
    · cases json <;> rfl

end Client

/-! ### When a response is taken -/

/-- A result that is there just if something holds; the fault bears the status otherwise. Where the
body is too much to read there is neither. -/
inductive Judged {α : Type} (status : Nat) (deep holds : Prop) : Except Fault α → Prop
  | taken (a : α) (hdeep : ¬ deep) (h : holds) : Judged status deep holds (.ok a)
  | refused (f : ApiFault) (hstatus : f.status? = some status) (hdeep : ¬ deep) (h : ¬ holds) :
    Judged status deep holds (.error (.api f))
  | overwhelmed (hdeep : deep) : Judged status deep holds (.error .tooDeep)

namespace Judged
variable {α β : Type} {status : Nat} {deep holds : Prop} {ctx : Context}

/-- What follows and cannot fail changes nothing about it. -/
lemma bind {w : Work α} {f : α → Work β} (h : Judged status deep holds (w.outcome ctx))
    (hf : ∀ a ctx, ∃ b, (f a).outcome ctx = .ok b) :
    Judged status deep holds ((w >>= f).outcome ctx) := by
  rw [Work.outcome_bind]
  generalize w.outcome ctx = r at h
  cases h with
  | taken a hdeep h =>
    obtain ⟨b, hb⟩ := hf a (w.context ctx)
    simp only [Except.bind, hb]
    exact .taken b hdeep h
  | refused f hstatus hdeep h => exact .refused f hstatus hdeep h
  | overwhelmed hdeep => exact .overwhelmed hdeep

/-- A body that can be read is judged by what is in it. -/
lemma of_readBody {limits : Json.Limits} {body : ByteArray} {f : Option Json → Except Fault α}
    (hdeep : deep ↔ Http.TooDeep limits body)
    (h : ¬ deep → Judged status deep holds (f (Http.bodyJson? limits body))) :
    Judged status deep holds ((Client.readBody limits body).bind f) := by
  by_cases htoo : Http.TooDeep limits body
  · rw [Client.readBody_of_tooDeep htoo]
    exact .overwhelmed (hdeep.mpr htoo)
  · rw [Client.readBody_of_not_tooDeep htoo]
    exact h (hdeep.not.mpr htoo)

end Judged

namespace Client
variable {c : Client} {ctx : Context} {request : Http.Request} {status : Nat} {body : ByteArray}
  {deep : Prop}

/-- A response with an envelope is taken if its status tells of no error and its envelope of
success. -/
lemma judged_envelope (request : Http.Request) (status : Nat) (payload : Option Json)
    (fallback : String) (hdeep : ¬ deep) :
    Judged status deep (Http.isError status = false ∧ ApiCall.TellsSuccess payload)
      ((envelope request status payload fallback).mapError Fault.api) := by
  simp only [envelope, ApiCall.TellsSuccess]
  cases Http.isError status with
  | true => exact .refused _ rfl hdeep (by simp)
  | false =>
    cases Envelope.ofJson (payload.getD .null) with
    | invalid issues => exact .refused _ rfl hdeep (by simp)
    | valid e =>
      by_cases hsuccess : e.success = true
      · simp only [hsuccess, if_true]
        exact .taken e hdeep ⟨trivial, e, rfl, hsuccess⟩
      · simp only [hsuccess]
        refine .refused _ rfl hdeep ?_
        rintro ⟨-, _, ⟨rfl⟩, h⟩
        exact hsuccess h

lemma judged_createRule {rule : Rule} (h : c.creation? rule ctx = some request)
    (hscheme : request.url.schemeFault? = none)
    (hreply : ctx.server ctx.sent.length request = .response status body) :
    Judged status (Http.TooDeep ctx.reading body)
      (Http.isError status = false ∧ ApiCall.TellsSuccess (Http.bodyJson? ctx.reading body))
      ((c.createRule rule).outcome ctx) := by
  rw [outcome_createRule h hscheme hreply]
  exact .of_readBody Iff.rfl (judged_envelope request status _ _)

lemma judged_listRules {search : Json}
    (h : c.callRequest ctx .listRules rulesPath
      (if search.truthy then some (searchQuery search) else none) [] "" = .ok request)
    (hscheme : request.url.schemeFault? = none)
    (hreply : ctx.server ctx.sent.length request = .response status body) :
    Judged status (Http.TooDeep ctx.reading body)
      (Http.isError status = false ∧ ∃ rules,
        StoredRules.ofJson ((Http.bodyJson? ctx.reading body).getD .null) = .valid rules)
      ((c.listRules search).outcome ctx) := by
  rw [outcome_listRules h hscheme hreply]
  refine .of_readBody Iff.rfl fun hdeep => ?_
  cases Http.isError status with
  | true => exact .refused _ rfl hdeep (by simp)
  | false =>
    cases StoredRules.ofJson ((Http.bodyJson? ctx.reading body).getD .null) with
    | valid rules => exact .taken rules hdeep ⟨rfl, rules, rfl⟩
    | invalid issues => exact .refused (.unexpected status issues) rfl hdeep (by simp)

lemma judged_deleteRule {id : Json}
    (h : c.callRequest ctx .deleteRule (rulePath id) none [] "" = .ok request)
    (hscheme : request.url.schemeFault? = none)
    (hreply : ctx.server ctx.sent.length request = .response status body) :
    Judged status (status ≠ Http.noContent ∧ Http.TooDeep ctx.reading body)
      (Http.isError status = false ∧
        (status = Http.noContent ∨ ApiCall.TellsSuccess (Http.bodyJson? ctx.reading body)))
      ((c.deleteRule id).outcome ctx) := by
  rw [outcome_deleteRule h hscheme hreply]
  by_cases hstatus : status = Http.noContent
  · subst hstatus
    exact .taken _ (fun h => h.1 rfl) ⟨rfl, .inl rfl⟩
  · simp only [hstatus, if_false, false_or, ne_eq, not_false_eq_true, true_and]
    exact .of_readBody Iff.rfl (judged_envelope request status _ _)

lemma judged_evaluate (h : c.callRequest ctx .evaluate evaluatePath none [] "" = .ok request)
    (hscheme : request.url.schemeFault? = none)
    (hreply : ctx.server ctx.sent.length request = .response status body) :
    Judged status (Http.TooDeep ctx.reading body)
      (Http.isError status = false ∧
        ∃ fields, Http.bodyJson? ctx.reading body = some (.obj fields))
      (c.evaluate.outcome ctx) := by
  rw [outcome_evaluate h hscheme hreply]
  refine .of_readBody Iff.rfl fun hdeep => ?_
  cases Http.isError status with
  | true => exact .refused _ rfl hdeep (by simp)
  | false =>
    simp only [Bool.false_eq_true, if_false]
    split
    · next fields hfields => exact .taken (Json.obj fields) hdeep ⟨trivial, fields, hfields⟩
    · next hother =>
      refine .refused (.unexpectedCart status) rfl hdeep ?_
      rintro ⟨-, fields, hfields⟩
      exact hother fields hfields

end Client

namespace ApiCall
variable {call : ApiCall} {c : Client} {ctx : Context} {status : Nat} {body : ByteArray}

/-- A response is taken just if its status tells of no error and its body fits; the fault bears the
status otherwise, unless the body is too much to read. -/
theorem judged_perform (h : call.Answered c ctx status body) :
    Judged status (call.Overwhelms ctx.reading status body)
      (Http.isError status = false ∧ call.Fits status (Http.bodyJson? ctx.reading body))
      ((call.perform c).outcome ctx) := by
  obtain ⟨request, hrequest, hscheme, hreply⟩ := h
  cases call with
  | createRule rule =>
    simp only [Overwhelms, Reads, true_and]
    exact (Client.judged_createRule hrequest hscheme hreply).bind fun _ _ => ⟨_, rfl⟩
  | listRules search =>
    simp only [Overwhelms, Reads, true_and]
    exact (Client.judged_listRules (Except.toOption_eq_some_iff.mp hrequest) hscheme hreply).bind
      fun _ _ => ⟨_, rfl⟩
  | deleteRule id =>
    exact (Client.judged_deleteRule (Except.toOption_eq_some_iff.mp hrequest) hscheme hreply).bind
      fun _ _ => ⟨_, rfl⟩
  | evaluate =>
    simp only [Overwhelms, Reads, true_and]
    exact Client.judged_evaluate (Except.toOption_eq_some_iff.mp hrequest) hscheme hreply

/-! ### The sample -/

def sampleBody : ByteArray := "\x7b\"success\": true\x7d".toUTF8

lemma bodyJson?_sampleBody :
    Http.bodyJson? .reading sampleBody = some (.obj [("success", .bool true)]) := by
  decide +kernel

/-- One call of each kind. -/
def sampleCalls : List ApiCall :=
  [.createRule Graph.sampleRule, .listRules .null, .deleteRule (.int 7), .evaluate]

/-- The sample client calls, and is answered. -/
lemma answered_sample (hcall : call ∈ sampleCalls) (status : Nat) (body : ByteArray) :
    call.Answered Client.sample (Client.sampleContext (.response status body)) status body := by
  have hsend := Client.canSend_sample (.response status body)
  have hnone := Client.allAscii_nil
  have hrules : Client.sample.base.join rulesPath.toList = some
      ⟨"http".toList, "rules.test".toList, "/api/admin/promotion-rules".toList, none, none⟩ := by
    decide
  have hrule : Client.sample.base.join (rulePath (.int 7)).toList = some
      ⟨"http".toList, "rules.test".toList, "/api/admin/promotion-rules/7".toList, none, none⟩ := by
    decide
  have hevaluate : Client.sample.base.join evaluatePath.toList = some
      ⟨"http".toList, "rules.test".toList, "/api/evaluate".toList, none, none⟩ := by
    decide
  simp only [sampleCalls, List.mem_cons, List.not_mem_nil, or_false] at hcall
  rcases hcall with rfl | rfl | rfl | rfl
  · obtain ⟨document, hdocument, hcan⟩ := Client.canHandIn_sample
    obtain ⟨request, hrequest⟩ := Option.isSome_iff_exists.mp
      ((Client.creation?_isSome_iff hsend.toAble hdocument).mpr hcan)
    have hhands := Client.handsIn_of_creation? hsend.toAble hrequest
    have hurl := Option.some.inj (hhands.url.symm.trans hrules)
    exact ⟨request, hrequest, by rw [hurl]; decide, rfl⟩
  · obtain ⟨headers, hrequest, -⟩ := Client.callRequest_of_canSend .listRules "" hsend hrules hnone
    exact ⟨_, Except.toOption_eq_some_iff.mpr hrequest, rfl, rfl⟩
  · obtain ⟨headers, hrequest, -⟩ := Client.callRequest_of_canSend .deleteRule "" hsend hrule hnone
    exact ⟨_, Except.toOption_eq_some_iff.mpr hrequest, rfl, rfl⟩
  · obtain ⟨headers, hrequest, -⟩ :=
      Client.callRequest_of_canSend .evaluate "" hsend hevaluate hnone
    exact ⟨_, Except.toOption_eq_some_iff.mpr hrequest, rfl, rfl⟩

lemma fits_sampleBody (hcall : call ∈ sampleCalls) (status : Nat) :
    call.Fits status (Http.bodyJson? .reading sampleBody) := by
  rw [bodyJson?_sampleBody]
  have htells : TellsSuccess (some (.obj [("success", .bool true)])) :=
    ⟨⟨true, "", .null⟩, rfl, rfl⟩
  simp only [sampleCalls, List.mem_cons, List.not_mem_nil, or_false] at hcall
  rcases hcall with rfl | rfl | rfl | rfl
  · exact htells
  · exact ⟨⟨[], 0⟩, rfl⟩
  · exact .inr htells
  · exact ⟨_, rfl⟩

lemma not_overwhelms_sampleBody (call : ApiCall) (status : Nat) :
    ¬ call.Overwhelms .reading status sampleBody :=
  fun h => Http.not_tooDeep_of_bodyJson? bodyJson?_sampleBody h.2

/-- The sample client is answered, and takes the answer for a success. -/
def Takes (call : ApiCall) (status : Nat) (body : ByteArray) : Prop :=
  call.Answered Client.sample (Client.sampleContext (.response status body)) status body ∧
    ∃ value, (call.perform Client.sample).outcome
      (Client.sampleContext (.response status body)) = .ok value

lemma takes_sampleBody (hcall : call ∈ sampleCalls) {status : Nat}
    (hstatus : Http.isError status = false) : call.Takes status sampleBody := by
  have hanswered := answered_sample hcall status sampleBody
  refine ⟨hanswered, ?_⟩
  have hjudged := judged_perform hanswered
  generalize (call.perform Client.sample).outcome _ = outcome at hjudged
  cases hjudged with
  | taken value _ _ => exact ⟨value, rfl⟩
  | refused f _ _ h => exact absurd ⟨hstatus, fits_sampleBody hcall status⟩ h
  | overwhelmed hdeep => exact absurd hdeep (not_overwhelms_sampleBody call status)

/-! ### Which statuses are refused -/

/-- A response is refused with a fault that bears its status just if its body can be read where it
has to be, and the status tells of an error or the body does not fit. A status outside 200 to 299
that tells of no error is thus no reason. A body that cannot be read is another fault, which bears
no status. -/
theorem refused_iff (h : call.Answered c ctx status body) :
    ((∃ f, (call.perform c).outcome ctx = .error (.api f) ∧ f.status? = some status) ↔
      ¬ call.Overwhelms ctx.reading status body ∧
        (400 ≤ status ∧ status ≤ 599 ∨ ¬ call.Fits status (Http.bodyJson? ctx.reading body))) ∧
    ((call.perform c).outcome ctx = .error .tooDeep ↔
      call.Overwhelms ctx.reading status body) := by
  have herror : Http.isError status = true ↔ 400 ≤ status ∧ status ≤ 599 := by
    simp [Http.isError]
  have hjudged := judged_perform h
  rw [← herror]
  generalize (call.perform c).outcome ctx = outcome at hjudged
  cases hjudged with
  | taken value hdeep h => simp [h.1, h.2, hdeep]
  | refused f hstatus hdeep h =>
    refine ⟨iff_of_true ⟨f, rfl, hstatus⟩ ⟨hdeep, ?_⟩, iff_of_false (by nofun) hdeep⟩
    cases herror : Http.isError status with
    | true => exact .inl rfl
    | false => exact .inr fun hfits => h ⟨herror, hfits⟩
  | overwhelmed hdeep => simp [hdeep]

theorem refused_iff_sample : ∃ f, (ApiCall.evaluate.perform Client.sample).outcome
    (Client.sampleContext (.response 500 sampleBody)) = .error (.api f) ∧ f.status? = some 500 :=
  (refused_iff (answered_sample (by simp [sampleCalls]) 500 sampleBody)).1.mpr
    ⟨not_overwhelms_sampleBody .evaluate 500, .inl ⟨by decide, by decide⟩⟩

/-- Every call takes a redirect with a fitting body for a success. -/
theorem redirect_taken :
    (ApiCall.createRule Graph.sampleRule).Takes 302 sampleBody ∧
      (ApiCall.listRules .null).Takes 302 sampleBody ∧
      (ApiCall.deleteRule (.int 7)).Takes 302 sampleBody ∧ ApiCall.evaluate.Takes 302 sampleBody :=
  ⟨takes_sampleBody (by simp [sampleCalls]) rfl, takes_sampleBody (by simp [sampleCalls]) rfl,
    takes_sampleBody (by simp [sampleCalls]) rfl, takes_sampleBody (by simp [sampleCalls]) rfl⟩

end ApiCall
end Promotion
