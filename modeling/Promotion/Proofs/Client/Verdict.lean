import Promotion.Proofs.Client.Status
import Promotion.Proofs.Http.Body

/-! What a call of the rules API tells of a response. It gives a value or fails with the status of
the response, as long as the body is not nested too deep to be read. A failure is told in the words
of the API, if it has any, and in those of the call otherwise. -/
namespace Promotion.ApiCall
variable {call : ApiCall} {c : Client} {ctx : Context} {status : Nat} {body : ByteArray}
  {payload : Option Json} {m : Json} {e : Envelope}

/-- What a call says of a failure when the API says nothing. -/
def fallback : ApiCall → String
  | .createRule _ => "Failed to create promotion rule"
  | .listRules _ => "Failed to fetch promotion rules"
  | .deleteRule _ => "Failed to delete promotion rule"
  | .evaluate => "Failed to evaluate cart"

/-- A body says something if it is an object with a message that counts as one. -/
def Says (payload : Option Json) (m : Json) : Prop :=
  ∃ fields, payload = some (.obj fields) ∧ Fields.get? fields "message" = some m ∧
    m.truthy = true

/-- The body of a response reads as an envelope. One that is no JSON reads as null. -/
def Holds (payload : Option Json) (e : Envelope) : Prop :=
  Envelope.ofJson (payload.getD .null) = .valid e

/-- Whether a call takes its answer from an envelope. -/
def TakesEnvelope (status : Nat) : ApiCall → Prop
  | .createRule _ => True
  | .deleteRule _ => status ≠ Http.noContent
  | _ => False

/-- Words for a failure: those of the body, or those of the call if the body says nothing. -/
structure Words (call : ApiCall) (payload : Option Json) (words : Json) : Prop where
  said : ∀ m, Says payload m → words = m
  unsaid : (∀ m, ¬Says payload m) → words = .str call.fallback

/-- How a call ends that gets a response with a body that can be read: with a value, which is that
of a successful envelope where one is taken; with a refusal in the words of the body or of the call;
or with a fault about a body that is not what it should be, which tells of the envelope if there is
one. -/
inductive Verdict (call : ApiCall) (status : Nat) (payload : Option Json) :
    Except Fault Json → Prop
  | taken (value : Json) (hstatus : Http.isError status = false)
      (henvelope : call.TakesEnvelope status →
        ∃ e, Holds payload e ∧ e.success = true ∧ value = e.toJson) :
    Verdict call status payload (.ok value)
  | refused (f : ApiFault) (hf : f.status? = some status) (hstatus : Http.isError status = true)
      (hwords : call.Words payload f.message) : Verdict call status payload (.error (.api f))
  | unfit (f : ApiFault) (hf : f.status? = some status) (hstatus : Http.isError status = false)
      (henvelope : call.TakesEnvelope status → ∀ e, Holds payload e → e.success = false ∧
        f.message = .str (if e.message = "" then call.fallback else e.message)) :
    Verdict call status payload (.error (.api f))

/-! ### Words -/

lemma bind_get?_eq_some_iff {payload : Option Json} :
    payload.bind (Json.get? "message") = some m ↔
      ∃ fields, payload = some (.obj fields) ∧ Fields.get? fields "message" = some m := by
  rcases payload with _ | json
  · simp
  · cases json <;> simp [Json.get?]

/-- The fault of a response with an error status has the words of its body. -/
lemma words_refusal (call : ApiCall) (request : Http.Request) (status : Nat)
    (payload : Option Json) :
    call.Words payload (Client.refusal request status payload call.fallback).message := by
  unfold Client.refusal
  constructor
  · rintro m ⟨fields, hpayload, hmessage, htruthy⟩
    rw [bind_get?_eq_some_iff.mpr ⟨fields, hpayload, hmessage⟩, ApiFault.message, if_pos htruthy]
  · intro hnone
    cases hmessage : payload.bind (Json.get? "message") with
    | none => rfl
    | some m =>
      obtain ⟨fields, hpayload, hm⟩ := bind_get?_eq_some_iff.mp hmessage
      have htruthy : ¬m.truthy = true := fun htruthy => hnone m ⟨fields, hpayload, hm, htruthy⟩
      rw [ApiFault.message, if_neg htruthy]

/-! ### Verdicts -/

lemma verdict_envelope (call : ApiCall) (request : Http.Request) (status : Nat)
    (payload : Option Json) :
    Verdict call status payload
      (((Client.envelope request status payload call.fallback).mapError Fault.api).map
        Envelope.toJson) := by
  simp only [Client.envelope]
  cases hstatus : Http.isError status with
  | true => exact .refused _ rfl hstatus (words_refusal call request status payload)
  | false =>
    cases henvelope : Envelope.ofJson (payload.getD .null) with
    | invalid issues =>
      refine .unfit (.unexpected status issues) rfl hstatus fun _ e he => ?_
      cases henvelope.symm.trans he
    | valid e =>
      cases hsuccess : e.success with
      | true =>
        simp only [hsuccess, if_true]
        exact .taken _ hstatus fun _ => ⟨e, henvelope, hsuccess, rfl⟩
      | false =>
        simp only [hsuccess]
        refine .unfit (.declined status e.message call.fallback) rfl hstatus fun _ e' he => ?_
        obtain rfl := Checked.valid.inj (henvelope.symm.trans he)
        exact ⟨hsuccess, rfl⟩

/-- What is made of the value of a call is made of its outcome. -/
lemma outcome_toJson {α : Type} (w : Work α) (toJson : α → Json) (ctx : Context) :
    (do return toJson (← w) : Work Json).outcome ctx = (w.outcome ctx).map toJson := by
  rw [Work.outcome_bind]
  cases w.outcome ctx <;> rfl

lemma verdict_createRule {rule : Rule} {request : Http.Request}
    (h : c.creation? rule ctx = some request) (hscheme : request.url.schemeFault? = none)
    (hreply : ctx.server ctx.sent.length request = .response status body)
    (hdeep : ¬ Http.TooDeep ctx.reading body) :
    Verdict (.createRule rule) status (Http.bodyJson? ctx.reading body)
      (((ApiCall.createRule rule).perform c).outcome ctx) := by
  rw [perform, outcome_toJson, Client.outcome_createRule h hscheme hreply,
    Client.readBody_of_not_tooDeep hdeep]
  exact verdict_envelope (.createRule rule) request status _

lemma verdict_listRules {search : Json} {request : Http.Request}
    (h : (ApiCall.listRules search).request? c ctx = some request)
    (hscheme : request.url.schemeFault? = none)
    (hreply : ctx.server ctx.sent.length request = .response status body)
    (hdeep : ¬ Http.TooDeep ctx.reading body) :
    Verdict (.listRules search) status (Http.bodyJson? ctx.reading body)
      (((ApiCall.listRules search).perform c).outcome ctx) := by
  rw [perform, outcome_toJson,
    Client.outcome_listRules (Except.toOption_eq_some_iff.mp h) hscheme hreply,
    Client.readBody_of_not_tooDeep hdeep]
  simp only [Except.bind]
  cases hstatus : Http.isError status with
  | true => exact .refused _ rfl hstatus (words_refusal (.listRules search) request status _)
  | false =>
    cases StoredRules.ofJson ((Http.bodyJson? ctx.reading body).getD .null) with
    | valid rules => exact .taken rules.toJson hstatus False.elim
    | invalid issues => exact .unfit (.unexpected status issues) rfl hstatus False.elim

lemma verdict_deleteRule {id : Json} {request : Http.Request}
    (h : (ApiCall.deleteRule id).request? c ctx = some request)
    (hscheme : request.url.schemeFault? = none)
    (hreply : ctx.server ctx.sent.length request = .response status body)
    (hdeep : ¬ (status ≠ Http.noContent ∧ Http.TooDeep ctx.reading body)) :
    Verdict (.deleteRule id) status (Http.bodyJson? ctx.reading body)
      (((ApiCall.deleteRule id).perform c).outcome ctx) := by
  rw [perform, outcome_toJson,
    Client.outcome_deleteRule (Except.toOption_eq_some_iff.mp h) hscheme hreply]
  by_cases hcontent : status = Http.noContent
  · rw [if_pos hcontent]
    exact .taken _ (by rw [hcontent]; rfl) fun htakes => (htakes hcontent).elim
  · rw [if_neg hcontent, Client.readBody_of_not_tooDeep fun htoo => hdeep ⟨hcontent, htoo⟩]
    exact verdict_envelope (.deleteRule id) request status _

lemma verdict_evaluate {request : Http.Request}
    (h : ApiCall.evaluate.request? c ctx = some request)
    (hscheme : request.url.schemeFault? = none)
    (hreply : ctx.server ctx.sent.length request = .response status body)
    (hdeep : ¬ Http.TooDeep ctx.reading body) :
    Verdict .evaluate status (Http.bodyJson? ctx.reading body)
      ((ApiCall.evaluate.perform c).outcome ctx) := by
  rw [perform, Client.outcome_evaluate (Except.toOption_eq_some_iff.mp h) hscheme hreply,
    Client.readBody_of_not_tooDeep hdeep]
  simp only [Except.bind]
  cases hstatus : Http.isError status with
  | true => exact .refused _ rfl hstatus (words_refusal .evaluate request status _)
  | false =>
    simp only [Bool.false_eq_true, if_false]
    split
    · next fields _ => exact .taken (.obj fields) hstatus False.elim
    · exact .unfit (.unexpectedCart status) rfl hstatus False.elim

/-- Every call that gets a response with a body that can be read ends in one of the three ways. -/
theorem verdict_perform (h : call.Answered c ctx status body)
    (hdeep : ¬ call.Overwhelms ctx.reading status body) :
    Verdict call status (Http.bodyJson? ctx.reading body) ((call.perform c).outcome ctx) := by
  obtain ⟨request, hrequest, hscheme, hreply⟩ := h
  cases call with
  | createRule rule =>
    exact verdict_createRule hrequest hscheme hreply fun htoo => hdeep ⟨trivial, htoo⟩
  | listRules search =>
    exact verdict_listRules hrequest hscheme hreply fun htoo => hdeep ⟨trivial, htoo⟩
  | deleteRule id => exact verdict_deleteRule hrequest hscheme hreply hdeep
  | evaluate => exact verdict_evaluate hrequest hscheme hreply fun htoo => hdeep ⟨trivial, htoo⟩

/-- A call whose body cannot be read fails with that, in no words of the API and without a
status. -/
lemma outcome_of_overwhelms (h : call.Answered c ctx status body)
    (hdeep : call.Overwhelms ctx.reading status body) :
    (call.perform c).outcome ctx = .error .tooDeep := by
  have hjudged := judged_perform h
  generalize (call.perform c).outcome ctx = outcome at hjudged
  cases hjudged with
  | taken _ hnot _ => exact absurd hdeep hnot
  | refused _ _ hnot _ => exact absurd hdeep hnot
  | overwhelmed _ => rfl

/-- A call that gets a response fails if the body is nested too deep to be read. Otherwise it gives
a value, or fails with the status of the response. Where the status tells of an error it fails in
the words of the body, if that is an object with a message that counts as one, and in its own
otherwise. Where the status is one of success and the body reads as an envelope, a call that takes
envelopes gives just a successful one, and tells its message otherwise. -/
theorem words_of_response (h : call.Answered c ctx status body) :
    (call.Overwhelms ctx.reading status body →
      (call.perform c).outcome ctx = .error .tooDeep) ∧
    (¬ call.Overwhelms ctx.reading status body →
      ((∃ value, (call.perform c).outcome ctx = .ok value) ∨
        ∃ f, (call.perform c).outcome ctx = .error (.api f) ∧ f.status? = some status) ∧
      (400 ≤ status → status ≤ 599 →
        ∃ f, (call.perform c).outcome ctx = .error (.api f) ∧ f.status? = some status ∧
          (∀ m, Says (Http.bodyJson? ctx.reading body) m → f.message = m) ∧
          ((∀ m, ¬Says (Http.bodyJson? ctx.reading body) m) →
            f.message = .str call.fallback)) ∧
      ∀ e, 200 ≤ status → status ≤ 299 → call.TakesEnvelope status →
        Holds (Http.bodyJson? ctx.reading body) e →
        ((call.perform c).outcome ctx = .ok e.toJson ↔ e.success = true) ∧
        (e.success = false →
          ∃ f, (call.perform c).outcome ctx = .error (.api f) ∧ f.status? = some status ∧
            f.message = .str (if e.message = "" then call.fallback else e.message))) := by
  refine ⟨outcome_of_overwhelms h, fun hdeep => ?_⟩
  have hverdict := verdict_perform h hdeep
  generalize (call.perform c).outcome ctx = outcome at hverdict
  have herror (hlow : 400 ≤ status) (hhigh : status ≤ 599) : Http.isError status ≠ false := by
    simp [Http.isError, hlow, hhigh]
  have hfine (hhigh : status ≤ 299) : Http.isError status ≠ true := by
    simp only [Http.isError, ne_eq, Bool.and_eq_true, decide_eq_true_eq, not_and]
    omega
  cases hverdict with
  | taken value hstatus henvelope =>
    refine ⟨.inl ⟨value, rfl⟩, fun hlow hhigh => absurd hstatus (herror hlow hhigh), ?_⟩
    intro e _ _ htakes hholds
    obtain ⟨e', hholds', hsuccess, rfl⟩ := henvelope htakes
    obtain rfl := Checked.valid.inj (hholds'.symm.trans hholds)
    refine ⟨iff_of_true rfl hsuccess, fun hfailed => ?_⟩
    cases hsuccess.symm.trans hfailed
  | refused f hf hstatus hwords =>
    refine ⟨.inr ⟨f, rfl, hf⟩, fun _ _ => ⟨f, rfl, hf, hwords.said, hwords.unsaid⟩, ?_⟩
    intro e _ hhigh
    exact absurd hstatus (hfine hhigh)
  | unfit f hf hstatus henvelope =>
    refine ⟨.inr ⟨f, rfl, hf⟩, fun hlow hhigh => absurd hstatus (herror hlow hhigh), ?_⟩
    intro e _ _ htakes hholds
    obtain ⟨hsuccess, hmessage⟩ := henvelope htakes e hholds
    refine ⟨iff_of_false (fun h => ?_) (by simp [hsuccess]), fun _ => ⟨f, rfl, hf, hmessage⟩⟩
    cases h

/-- A message that is no text but counts as one. -/
def numberedBody : ByteArray := "\x7b\"message\": 7\x7d".toUTF8

lemma bodyJson?_numberedBody :
    Http.bodyJson? .reading numberedBody = some (.obj [("message", .int 7)]) := by
  decide +kernel

/-- Every call tells the number that a body gives as its message. -/
theorem words_of_response_numbered :
    (∀ call ∈ sampleCalls, ∃ f, (call.perform Client.sample).outcome
        (Client.sampleContext (.response 500 numberedBody)) = .error (.api f) ∧
      f.status? = some 500 ∧ f.message = .int 7) ∧
    ((ApiCall.deleteRule (.int 7)).perform Client.sample).outcome
      (Client.sampleContext (.response 200 sampleBody)) =
        .ok (Envelope.toJson ⟨true, "", .null⟩) := by
  constructor
  · intro call hcall
    have hdeep : ¬ call.Overwhelms .reading 500 numberedBody :=
      fun h => Http.not_tooDeep_of_bodyJson? bodyJson?_numberedBody h.2
    obtain ⟨-, hrefused, -⟩ :=
      (words_of_response (answered_sample hcall 500 numberedBody)).2 hdeep
    obtain ⟨f, houtcome, hstatus, hsaid, -⟩ := hrefused (by decide) (by decide)
    exact ⟨f, houtcome, hstatus, hsaid _ ⟨_, bodyJson?_numberedBody, rfl, rfl⟩⟩
  · have hanswered : (ApiCall.deleteRule (.int 7)).Answered Client.sample
        (Client.sampleContext (.response 200 sampleBody)) 200 sampleBody :=
      answered_sample (by simp [sampleCalls]) 200 sampleBody
    have hholds : Holds (Http.bodyJson? .reading sampleBody) ⟨true, "", .null⟩ := by
      rw [bodyJson?_sampleBody]
      rfl
    obtain ⟨-, -, henvelope⟩ :=
      (words_of_response hanswered).2 (not_overwhelms_sampleBody _ 200)
    exact (henvelope _ (by decide) (by decide) (by simp [TakesEnvelope, Http.noContent])
      hholds).1.mpr rfl

/-- A body with nothing in it but arrays that are opened. -/
def deepBody : ByteArray := (String.ofList (List.replicate 5000 '[')).toUTF8

/-- A call of the sample client is answered, but there is neither a value nor a fault that bears the
status. -/
def BreaksOff (status : Nat) (body : ByteArray) (call : ApiCall) : Prop :=
  call.Answered Client.sample (Client.sampleContext (.response status body)) status body ∧
    (call.perform Client.sample).outcome (Client.sampleContext (.response status body)) =
      .error .tooDeep

lemma breaksOff_deepBody (hcall : call ∈ sampleCalls) : call.BreaksOff 500 deepBody := by
  have hanswered := answered_sample hcall 500 deepBody
  have hdeep : Http.TooDeep .reading deepBody := Http.bodyJson_brackets (by decide)
  have hreads : call.Reads 500 := by
    simp only [sampleCalls, List.mem_cons, List.not_mem_nil, or_false] at hcall
    rcases hcall with rfl | rfl | rfl | rfl <;> simp [Reads, Http.noContent]
  exact ⟨hanswered, outcome_of_overwhelms hanswered ⟨hreads, hdeep⟩⟩

/-- No call tells of an error whose body is nested too deep. -/
theorem depth_escapes :
    (ApiCall.createRule Graph.sampleRule).BreaksOff 500 deepBody ∧
      (ApiCall.listRules .null).BreaksOff 500 deepBody ∧
      (ApiCall.deleteRule (.int 7)).BreaksOff 500 deepBody ∧
      ApiCall.evaluate.BreaksOff 500 deepBody :=
  ⟨breaksOff_deepBody (by simp [sampleCalls]), breaksOff_deepBody (by simp [sampleCalls]),
    breaksOff_deepBody (by simp [sampleCalls]), breaksOff_deepBody (by simp [sampleCalls])⟩

end Promotion.ApiCall
