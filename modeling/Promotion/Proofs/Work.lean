import Mathlib.Tactic.Common
import Promotion.Work

/-! What work leaves behind. Work records what it does, hands over requests and takes ids; it
changes nothing else of its surroundings. -/
namespace Promotion

/-- A context with some requests more that were handed over and some ids more that were given out,
and with any log and counts. -/
inductive Context.Leaves (ctx : Context) (requests : List Http.Request) (ids : Nat) : Context → Prop
  | mk (log : List LogLine) (metrics : Metrics) : Leaves ctx requests ids { ctx with
      sent := ctx.sent ++ requests, issued := ctx.issued + ids, log := log, metrics := metrics }

namespace Context
variable {ctx after last : Context} {requests more : List Http.Request} {ids idsMore : Nat}

lemma leaves (ctx : Context) (requests : List Http.Request) (ids : Nat) (log : List LogLine)
    (metrics : Metrics) : ctx.Leaves requests ids { ctx with
      sent := ctx.sent ++ requests, issued := ctx.issued + ids, log := log, metrics := metrics } :=
  .mk log metrics

/-- Nothing but records. -/
lemma leaves_nothing (ctx : Context) (log : List LogLine) (metrics : Metrics) :
    ctx.Leaves [] 0 { ctx with log := log, metrics := metrics } := by
  have h := ctx.leaves [] 0 log metrics
  rwa [List.append_nil] at h

lemma leaves_self (ctx : Context) : ctx.Leaves [] 0 ctx := ctx.leaves_nothing ctx.log ctx.metrics

lemma Leaves.trans (h : ctx.Leaves requests ids after) (hlast : after.Leaves more idsMore last) :
    ctx.Leaves (requests ++ more) (ids + idsMore) last := by
  cases h
  cases hlast with
  | mk log metrics =>
    have h := ctx.leaves (requests ++ more) (ids + idsMore) log metrics
    rwa [← List.append_assoc, ← Nat.add_assoc] at h

/-- The id for a request. -/
def currentId (ctx : Context) : Json :=
  if ctx.requestId.truthy then ctx.requestId else .str (ctx.freshId ctx.issued)

/-- How many ids a request takes. -/
def freshIds (ctx : Context) : Nat := if ctx.requestId.truthy then 0 else 1

/-- The context with the id for a request in place. -/
def withId (ctx : Context) : Context :=
  { ctx with issued := ctx.issued + ctx.freshIds, requestId := ctx.currentId }

/-- With an id in place no other one is taken. -/
lemma ids_withId {id : String} (hid : ctx.currentId = .str id) (hne : id ≠ "") :
    ctx.withId.currentId = .str id ∧ ctx.withId.freshIds = 0 := by
  have hrequestId : ctx.withId.requestId = .str id := hid
  unfold currentId freshIds
  simp [hrequestId, Json.truthy, hne]

end Context

namespace Work
variable {α β : Type} {ctx after : Context} {fault : Fault} {a : α} {w : Work α} {f : α → Work β}

lemma bind_ok (h : w ctx = .ok a after) : (w >>= f) ctx = f a after := by
  simp only [bind, EStateM.bind, h]

lemma bind_error (h : w ctx = .error fault after) : (w >>= f) ctx = .error fault after := by
  simp only [bind, EStateM.bind, h]

lemma requestIdOrFresh_eq (ctx : Context) : requestIdOrFresh ctx =
    .ok ctx.currentId { ctx with issued := ctx.issued + ctx.freshIds } := by
  unfold requestIdOrFresh Context.currentId Context.freshIds
  rw [bind_ok (show (get : Work Context) ctx = .ok ctx ctx from rfl)]
  split <;> rfl

lemma log_eq (line : LogLine) (ctx : Context) :
    log line ctx = .ok () { ctx with log := ctx.log ++ [line] } := rfl

lemma now_eq (ctx : Context) : now ctx = .ok ctx.clock ctx := rfl

lemma elapsed_eq (ctx : Context) : elapsed ctx = .ok ctx.elapsed ctx := rfl

lemma settings_eq (ctx : Context) : settings ctx = .ok ctx.settings ctx := rfl

lemma requestId_eq (ctx : Context) : requestId ctx = .ok ctx.requestId ctx := rfl

lemma setRequestId_eq (id : Json) (ctx : Context) :
    setRequestId id ctx = .ok () { ctx with requestId := id } := rfl

lemma encode_eq (layOut : Json → String) (json : Json) (ctx : Context) :
    encode layOut json ctx = ofExcept .ofWrite (json.encode ctx.writing layOut) ctx := rfl

lemma bodyJson_eq (body : ByteArray) (ctx : Context) :
    bodyJson body ctx = ofExcept (fun _ => .tooDeep) (Http.bodyJson ctx.reading body) ctx := rfl

/-- The context after some work, whether it failed or not. -/
def context (w : Work α) (ctx : Context) : Context :=
  match w ctx with
  | .ok _ after => after
  | .error _ after => after

lemma context_of_ok (h : w ctx = .ok a after) : w.context ctx = after := by
  simp only [context, h]

lemma context_of_error (h : w ctx = .error fault after) : w.context ctx = after := by
  simp only [context, h]

/-- Work that does as other work does leaves the same. -/
lemma context_congr {v : Work α} {before : Context} (h : w ctx = v before) :
    w.context ctx = v.context before := by
  simp only [context, h]

lemma context_bind_ok (h : w ctx = .ok a after) : (w >>= f).context ctx = (f a).context after := by
  simp only [context, bind_ok h]

lemma context_bind_error (h : w ctx = .error fault after) : (w >>= f).context ctx = after := by
  simp only [context, bind_error h]

/-- What comes out of some work. -/
def outcome (w : Work α) (ctx : Context) : Except Fault α :=
  match w ctx with
  | .ok a _ => .ok a
  | .error fault _ => .error fault

lemma eq_ok_of_outcome (h : w.outcome ctx = .ok a) : w ctx = .ok a (w.context ctx) := by
  unfold outcome at h
  unfold context
  cases hw : w ctx <;> simp_all

lemma eq_error_of_outcome (h : w.outcome ctx = .error fault) :
    w ctx = .error fault (w.context ctx) := by
  unfold outcome at h
  unfold context
  cases hw : w ctx <;> simp_all

lemma outcome_bind_ok (h : w ctx = .ok a after) : (w >>= f).outcome ctx = (f a).outcome after := by
  simp only [outcome, bind_ok h]

/-- What comes out of one piece of work behind another. -/
lemma outcome_bind (w : Work α) (f : α → Work β) (ctx : Context) :
    (w >>= f).outcome ctx = (w.outcome ctx).bind fun a => (f a).outcome (w.context ctx) := by
  cases h : w.outcome ctx with
  | ok a => exact outcome_bind_ok (eq_ok_of_outcome h)
  | error fault => simp only [outcome, bind_error (eq_error_of_outcome h), Except.bind]

lemma outcome_ofExcept {ε : Type} (f : ε → Fault) (r : Except ε α) (ctx : Context) :
    (ofExcept f r).outcome ctx = r.mapError f := by
  cases r <;> rfl

/-- What is made of a body hangs on what is read of it, and reading it leaves nothing. -/
lemma outcome_bodyJson_bind (body : ByteArray) (f : Option Json → Work α) (ctx : Context) :
    (bodyJson body >>= f).outcome ctx =
      ((Http.bodyJson ctx.reading body).mapError fun _ => Fault.tooDeep).bind fun payload =>
        (f payload).outcome ctx := by
  have hbody := bodyJson_eq body ctx
  cases hread : Http.bodyJson ctx.reading body with
  | ok payload =>
    rw [hread] at hbody
    exact outcome_bind_ok hbody
  | error fault =>
    rw [hread] at hbody
    simp only [outcome, bind_error (show bodyJson body ctx = .error .tooDeep ctx from hbody)]
    rfl

/-- Work that cannot fail is done behind other work, however that ends. -/
lemma context_andFinally {last : Work Unit} (h : last (w.context ctx) = .ok () after) :
    (w.andFinally last).context ctx = after := by
  unfold context at h
  unfold context andFinally
  cases hw : w ctx <;> simp_all

/-- Work that only records. -/
def Quiet (w : Work α) : Prop := ∀ ctx : Context, ctx.Leaves [] 0 (w.context ctx)

lemma Quiet.exists_of_ok (hw : w.Quiet) (h : w.outcome ctx = .ok a) :
    ∃ after, w ctx = .ok a after ∧ ctx.Leaves [] 0 after :=
  ⟨_, eq_ok_of_outcome h, hw ctx⟩

lemma Quiet.exists_of_error (hw : w.Quiet) (h : w.outcome ctx = .error fault) :
    ∃ after, w ctx = .error fault after ∧ ctx.Leaves [] 0 after :=
  ⟨_, eq_error_of_outcome h, hw ctx⟩

lemma quiet_pure (a : α) : Quiet (pure a) := fun ctx => ctx.leaves_self

lemma quiet_throw (fault : Fault) : Quiet (throw fault : Work α) := fun ctx => ctx.leaves_self

lemma quiet_now : Quiet now := fun ctx => ctx.leaves_self

lemma quiet_elapsed : Quiet elapsed := fun ctx => ctx.leaves_self

lemma quiet_settings : Quiet settings := fun ctx => ctx.leaves_self

lemma quiet_log (line : LogLine) : Quiet (log line) := fun ctx => ctx.leaves_nothing _ _

lemma quiet_logAll (lines : List LogLine) : Quiet (logAll lines) :=
  fun ctx => ctx.leaves_nothing _ _

lemma quiet_count (f : Metrics → Metrics) : Quiet (count f) := fun ctx => ctx.leaves_nothing _ _

lemma quiet_ofExcept {ε : Type} (f : ε → Fault) (r : Except ε α) : Quiet (ofExcept f r) := by
  cases r with
  | ok a => exact quiet_pure a
  | error e => exact quiet_throw (f e)

lemma quiet_bodyJson (body : ByteArray) : Quiet (bodyJson body) :=
  fun ctx => quiet_ofExcept _ (Http.bodyJson ctx.reading body) ctx

lemma Quiet.settings_eq (hw : w.Quiet) (ctx : Context) :
    (w.context ctx).settings = ctx.settings := by
  have hleaves := hw ctx
  generalize w.context ctx = after at hleaves
  cases hleaves
  rfl

/-- What comes behind some work that only records adds nothing to what the work leaves. -/
lemma leaves_bind {requests : List Http.Request} {ids : Nat}
    (hw : ctx.Leaves requests ids (w.context ctx)) (hf : ∀ a, (f a).Quiet) :
    ctx.Leaves requests ids ((w >>= f).context ctx) := by
  cases h : w ctx with
  | ok a after =>
    rw [context_of_ok h] at hw
    rw [context_bind_ok h]
    simpa using hw.trans (hf a after)
  | error fault after =>
    rw [context_of_error h] at hw
    rwa [context_bind_error h]

lemma Quiet.bind (hw : w.Quiet) (hf : ∀ a, (f a).Quiet) : (w >>= f).Quiet :=
  fun ctx => leaves_bind (hw ctx) hf

/-- A refusal in between. -/
lemma Quiet.unless {p : Prop} [Decidable p] (fault : Fault) (hw : w.Quiet) :
    Quiet (if p then (throw fault : Work Unit) >>= fun _ => w else w) := by
  split
  · exact (quiet_throw fault).bind fun _ => hw
  · exact hw

end Work
end Promotion
