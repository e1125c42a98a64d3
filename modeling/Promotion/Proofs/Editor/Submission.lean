import Promotion.Editor.Session
import Promotion.Proofs.Client.Request

/-! Submissions. A submission hands over one request, for the rule of the graph as it stands, if
that rule is ready, and none otherwise; however it ends, the id of the surroundings is the one
before. -/
namespace Promotion

/-! ### Rules that are ready -/

/-- A rule that may be handed in: it has a condition and an action, and, where that is asked for,
its days of validity are in order. -/
structure Rule.Ready (r : Rule) (enforceWindow : Bool) : Prop where
  conditions : r.conditions ≠ []
  actions : r.actions ≠ []
  window : enforceWindow = true → ∀ first last, r.validFrom = some first →
    r.validUntil = some last → first.ordinal ≤ last.ordinal

namespace Rule
variable {r : Rule} {enforceWindow : Bool} {ctx : Context}

lemma invertedWindow?_eq_none_iff : r.invertedWindow? = none ↔
    ∀ first last, r.validFrom = some first → r.validUntil = some last →
      first.ordinal ≤ last.ordinal := by
  unfold invertedWindow?
  cases r.validFrom <;> cases r.validUntil <;> simp

lemma readinessFault?_eq_none_iff :
    r.readinessFault? enforceWindow = none ↔ r.Ready enforceWindow := by
  have hiff : r.Ready enforceWindow ↔ r.conditions ≠ [] ∧ r.actions ≠ [] ∧
      (enforceWindow = true → r.invertedWindow? = none) := by
    rw [invertedWindow?_eq_none_iff]
    exact ⟨fun h => ⟨h.1, h.2, h.3⟩, fun h => ⟨h.1, h.2.1, h.2.2⟩⟩
  rw [hiff]
  unfold readinessFault?
  cases r.conditions <;> cases r.actions <;> cases r.invertedWindow? <;> cases enforceWindow <;>
    simp

lemma quiet_checkReady (r : Rule) (enforceWindow : Option Bool) :
    (r.checkReady enforceWindow).Quiet := by
  refine Work.quiet_settings.bind fun settings => ?_
  split
  · exact Work.quiet_throw _
  · exact Work.quiet_logAll _

/-- A check fails where the rule is not ready. -/
lemma outcome_checkReady (r : Rule) (ctx : Context) :
    (r.checkReady none).outcome ctx = .ok () ↔ r.Ready ctx.settings.enforceWindow.truthy := by
  rw [← readinessFault?_eq_none_iff]
  unfold checkReady
  rw [Work.outcome_bind_ok (Work.settings_eq ctx)]
  simp only [Option.getD_none]
  cases r.readinessFault? ctx.settings.enforceWindow.truthy with
  | none => exact iff_of_true rfl rfl
  | some fault => exact iff_of_false (by nofun) (by simp)

end Rule

namespace Graph

lemma quiet_compileLogged (g : Graph) (metadata : RuleMetadata) (now : Option DateTime) :
    (g.compileLogged metadata now).Quiet := by
  refine (Work.quiet_log _).bind fun _ => Work.quiet_now.bind fun clock =>
    Work.quiet_elapsed.bind fun elapsed => ?_
  split
  · exact (Work.quiet_count _).bind fun _ => Work.quiet_throw _
  · exact (Work.quiet_log _).bind fun _ => (Work.quiet_count _).bind fun _ => Work.quiet_pure _

lemma outcome_compileLogged_at (g : Graph) (metadata : RuleMetadata) (now : Option DateTime)
    (ctx : Context) : (g.compileLogged metadata now).outcome ctx =
      (g.compile metadata (now.getD ctx.clock)).mapError Fault.ofCompile := by
  unfold compileLogged
  rw [Work.outcome_bind_ok (Work.log_eq _ ctx), Work.outcome_bind_ok (Work.now_eq _),
    Work.outcome_bind_ok (Work.elapsed_eq _)]
  cases g.compile metadata (now.getD ctx.clock) <;> rfl

lemma outcome_compileLogged (g : Graph) (metadata : RuleMetadata) (ctx : Context) :
    (g.compileLogged metadata none).outcome ctx =
      (g.compile metadata ctx.clock).mapError Fault.ofCompile :=
  g.outcome_compileLogged_at metadata none ctx

lemma createdAt_of_compile {g : Graph} {metadata : RuleMetadata} {now : DateTime} {rule : Rule}
    (hok : g.compile metadata now = .ok rule) : rule.createdAt = now.orUtc := by
  obtain ⟨entries, _, hrest⟩ := bind_eq_ok_iff.mp hok
  obtain ⟨salience, _, hrule⟩ := bind_eq_ok_iff.mp hrest
  obtain rfl := Except.ok.inj hrule
  rfl

end Graph

namespace Editor
variable {e : Editor} {client : Client} {metadata : RuleMetadata} {ctx : Context}

/-- The work of a submission with its id in place. -/
def handIn (e : Editor) (client : Client) (metadata : RuleMetadata) : Work Envelope := do
  let rule ← e.graph.compileLogged metadata none
  rule.checkReady none
  let envelope ← client.createRule rule
  Work.log ⟨.info, editorLogger,
    s!"Submitted rule {Text.quoted rule.name} ({rule.conditions.length} conditions, " ++
      s!"{rule.actions.length} actions)"⟩
  pure envelope

/-- Without a rule that is ready nothing is handed over. -/
lemma handIn_leaves_of_not_ready (hrule : ∀ rule, e.graph.compile metadata ctx.clock = .ok rule →
    ¬ rule.Ready ctx.settings.enforceWindow.truthy) :
    ctx.Leaves [] 0 ((e.handIn client metadata).context ctx) := by
  have hquiet := e.graph.quiet_compileLogged metadata none
  have houtcome := e.graph.outcome_compileLogged metadata ctx
  unfold handIn
  cases hcompile : e.graph.compile metadata ctx.clock with
  | error fault =>
    rw [hcompile] at houtcome
    obtain ⟨compiled, hrun, hleaves⟩ := hquiet.exists_of_error houtcome
    rwa [Work.context_bind_error hrun]
  | ok rule =>
    rw [hcompile] at houtcome
    obtain ⟨compiled, hrun, hleaves⟩ := hquiet.exists_of_ok houtcome
    rw [Work.context_bind_ok hrun]
    have hnot : ¬ rule.Ready compiled.settings.enforceWindow.truthy := by
      cases hleaves
      exact hrule rule hcompile
    cases hcheck : (rule.checkReady none).outcome compiled with
    | ok => exact absurd ((rule.outcome_checkReady compiled).mp hcheck) hnot
    | error fault =>
      obtain ⟨checked, hrun, hchecked⟩ := (rule.quiet_checkReady none).exists_of_error hcheck
      rw [Work.context_bind_error hrun]
      exact hleaves.trans hchecked

/-- For a rule that is ready the request that hands it in is handed over. -/
lemma handIn_leaves_of_ready (client : Client) (ctx : Context) {rule : Rule}
    (hcompile : e.graph.compile metadata ctx.clock = .ok rule)
    (hready : rule.Ready ctx.settings.enforceWindow.truthy) :
    ∃ ids ≤ ctx.freshIds, ctx.Leaves (client.creation? rule ctx).toList ids
      ((e.handIn client metadata).context ctx) := by
  have houtcome := e.graph.outcome_compileLogged metadata ctx
  rw [hcompile] at houtcome
  obtain ⟨compiled, hcompiled, hleaves⟩ :=
    (e.graph.quiet_compileLogged metadata none).exists_of_ok houtcome
  have hready' : rule.Ready compiled.settings.enforceWindow.truthy := by
    cases hleaves
    exact hready
  obtain ⟨checked, hchecked, hmore⟩ :=
    (rule.quiet_checkReady none).exists_of_ok ((rule.outcome_checkReady compiled).mpr hready')
  have hbefore := hleaves.trans hmore
  unfold handIn
  rw [Work.context_bind_ok hcompiled, Work.context_bind_ok hchecked]
  obtain ⟨ids, hids, hcreate⟩ := client.createRule_leaves rule checked
  refine ⟨ids, ?_, ?_⟩
  · cases hbefore
    exact hids
  · have hsame : client.creation? rule checked = client.creation? rule ctx := by
      cases hbefore
      rfl
    rw [hsame] at hcreate
    have hall := hbefore.trans (Work.leaves_bind hcreate fun envelope =>
      (Work.quiet_log ⟨.info, editorLogger,
        s!"Submitted rule {Text.quoted rule.name} ({rule.conditions.length} conditions, " ++
          s!"{rule.actions.length} actions)"⟩).bind fun _ => Work.quiet_pure envelope)
    simpa using hall

lemma submit_context (e : Editor) (client : Client) (metadata : RuleMetadata) (ctx : Context) :
    (e.submit client metadata).context ctx =
      { (e.handIn client metadata).context ctx.withId with requestId := ctx.requestId } := by
  unfold submit
  rw [Work.context_bind_ok (Work.requestId_eq ctx),
    Work.context_bind_ok (Work.requestIdOrFresh_eq ctx),
    Work.context_bind_ok (Work.setRequestId_eq _ _)]
  exact Work.context_andFinally (Work.setRequestId_eq _ _)

/-- What a submission leaves is what its work leaves, with its own id taken and put away again. -/
lemma submit_leaves {requests : List Http.Request} {ids : Nat}
    (h : ctx.withId.Leaves requests ids ((e.handIn client metadata).context ctx.withId)) :
    ctx.Leaves requests (ctx.freshIds + ids) ((e.submit client metadata).context ctx) := by
  rw [submit_context]
  generalize (e.handIn client metadata).context ctx.withId = after at h
  cases h with
  | mk log metrics =>
    have hleaves := ctx.leaves requests (ctx.freshIds + ids) log metrics
    rwa [← Nat.add_assoc] at hleaves

/-- A submission of a rule that is ready hands over the request that there is for it. -/
lemma submit_leaves_of_ready {rule : Rule} {header id : String}
    (hable : client.Able ctx header id) (hcompile : e.graph.compile metadata ctx.clock = .ok rule)
    (hready : rule.Ready ctx.settings.enforceWindow.truthy) :
    ctx.Leaves (client.creation? rule ctx.withId).toList ctx.freshIds
      ((e.submit client metadata).context ctx) := by
  obtain ⟨ids, hids, hwork⟩ :=
    handIn_leaves_of_ready client ctx.withId hcompile hready
  -- The id is in place by then, and no other one is taken.
  obtain rfl : ids = 0 := by
    rw [(Context.ids_withId hable.id_eq hable.id_ne).2] at hids
    omega
  exact submit_leaves hwork

lemma ready_sample (enforceWindow : Bool) : Graph.sampleRule.Ready enforceWindow :=
  ⟨by simp [Graph.sampleRule], by simp [Graph.sampleRule], by simp [Graph.sampleRule]⟩

end Editor
end Promotion
