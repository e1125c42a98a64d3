import Promotion.Proofs.Rule.Growth

/-! Complete graphs. The rule of a graph from a session has a tree for an action exactly when
nothing that the action depends on is left unconnected, and whatever stops a tree is reported as
unfinished. -/
namespace Promotion.Graph
open Connection Relation

/-- Every logical node from which there is a way to an id has both of its inputs fed. -/
def CompleteAbove (g : Graph) (id : String) : Prop :=
  ∀ n, g.KindAt n .logical → Path g.connections n id →
    (∃ a, g.Feeds a n "a") ∧ ∃ b, g.Feeds b n "b"

variable {g : Graph} {metadata : RuleMetadata} {now : DateTime} {rule : Rule}
  {id act s : String} {outcome : Except TreeFault ConditionTree}

/-- Completeness above a node is that of the node itself and of all that lead into it. -/
lemma completeAbove_iff :
    g.CompleteAbove id ↔
      (g.KindAt id .logical → (∃ a, g.Feeds a id "a") ∧ ∃ b, g.Feeds b id "b") ∧
        ∀ s, Joins g.connections s id → g.CompleteAbove s := by
  constructor
  · intro h
    exact ⟨fun hkind => h id hkind .refl, fun s hs n hn hpath => h n hn (hpath.tail hs)⟩
  · rintro ⟨hself, habove⟩ n hn hpath
    rcases hpath.cases_tail with rfl | ⟨s, hpath', hs⟩
    · exact hself hn
    · exact habove s hs n hn hpath'

lemma WellFormed.completeAbove_condition (hg : g.WellFormed) (hkind : g.KindAt id .condition) :
    g.CompleteAbove id := by
  refine completeAbove_iff.mpr ⟨fun hlogical => ?_, fun s hs => ?_⟩
  · cases hkind.unique hlogical
  · obtain ⟨input, hinput, _⟩ := hg.exists_feeds hkind hs
    exact absurd hinput List.not_mem_nil

lemma WellFormed.completeAbove_logical {a b : String} (hg : g.WellFormed)
    (hkind : g.KindAt id .logical) (ha : g.Feeds a id "a") (hb : g.Feeds b id "b")
    (hfirst : g.CompleteAbove a) (hsecond : g.CompleteAbove b) : g.CompleteAbove id := by
  refine completeAbove_iff.mpr ⟨fun _ => ⟨⟨a, ha⟩, b, hb⟩, fun s hs => ?_⟩
  obtain ⟨input, hinput, hfeeds⟩ := hg.exists_feeds hkind hs
  rcases List.mem_pair.mp hinput with rfl | rfl
  · exact hg.feeds_unique ha hfeeds ▸ hfirst
  · exact hg.feeds_unique hb hfeeds ▸ hsecond

lemma WellFormed.completeAbove_action (hg : g.WellFormed) (hkind : g.KindAt id .action)
    (hs : g.Feeds s id "condition") (habove : g.CompleteAbove s) : g.CompleteAbove id := by
  refine completeAbove_iff.mpr ⟨fun hlogical => ?_, fun s' hs' => ?_⟩
  · cases hkind.unique hlogical
  · obtain ⟨input, hinput, hfeeds⟩ := hg.exists_feeds hkind hs'
    obtain rfl := List.mem_singleton.mp hinput
    exact hg.feeds_unique hs hfeeds ▸ habove

/-! ### Growing -/

/-- A tree comes out where all above is complete; otherwise the fault is one of unfinished rules. -/
def Settles (g : Graph) (id : String) (outcome : Except TreeFault ConditionTree) : Prop :=
  match outcome with
  | .ok _ => g.CompleteAbove id
  | .error fault => fault.isIncomplete = true ∧ ¬g.CompleteAbove id

lemma Settles.ok_or_incomplete (h : g.Settles id outcome) :
    (∃ tree, outcome = .ok tree) ∨
      ∃ fault, outcome = .error fault ∧ (Fault.tree fault).family? = some .incompleteGraph := by
  cases outcome with
  | ok tree => exact Or.inl ⟨tree, rfl⟩
  | error fault => exact Or.inr ⟨fault, rfl, by simp [Fault.family?, h.1]⟩

lemma Settles.ok_iff (h : g.Settles id outcome) :
    (∃ tree, outcome = .ok tree) ↔ g.CompleteAbove id := by
  cases outcome with
  | ok tree => exact iff_of_true ⟨tree, rfl⟩ h
  | error fault => exact iff_of_false (fun ⟨_, hok⟩ => nomatch hok) h.2

/-- A fault on the way to a node that leads into another is a fault of the other one too. -/
lemma Settles.error_of_joins {fault : TreeFault} (h : g.Settles s (.error fault))
    (hs : Joins g.connections s id) : g.Settles id (.error fault) :=
  ⟨h.1, fun hcomplete => h.2 ((completeAbove_iff.mp hcomplete).2 s hs)⟩

/-- What grows at a node settles whether all above it is complete. -/
theorem Grows.settles (hg : g.WellFormed) (hgrows : g.Grows id outcome) : g.Settles id outcome := by
  induction hgrows with
  | condition hbody => exact hg.completeAbove_condition hbody.kindAt
  | firstUnfed hbody ha =>
    refine ⟨rfl, fun hcomplete => ?_⟩
    obtain ⟨a, hfeeds⟩ := ((completeAbove_iff.mp hcomplete).1 hbody.kindAt).1
    exact ha a hfeeds
  | firstFault _ ha _ iha => exact iha.error_of_joins ha.joins
  | secondUnfed hbody _ _ hb _ =>
    refine ⟨rfl, fun hcomplete => ?_⟩
    obtain ⟨b, hfeeds⟩ := ((completeAbove_iff.mp hcomplete).1 hbody.kindAt).2
    exact hb b hfeeds
  | secondFault _ _ _ hb _ _ ihb => exact ihb.error_of_joins hb.joins
  | gate hbody ha _ hb _ iha ihb => exact hg.completeAbove_logical hbody.kindAt ha hb iha ihb

/-! ### Trees of actions -/

lemma settles_tree (hg : g.Attainable) (hok : g.compile metadata now = .ok rule)
    (hact : g.KindAt act .action) (hs : g.Feeds s act "condition") :
    g.Settles act (rule.tree act) := by
  have hgrows := grows_resolve hg hok (Upstream.of_action hg.wellFormed hs)
  have hsettled := hgrows.settles hg.wellFormed
  rw [tree_of_feeds hg hok hact hs]
  cases houtcome : rule.resolve [act] s with
  | ok tree =>
    rw [houtcome] at hsettled
    exact hg.wellFormed.completeAbove_action hact hs hsettled
  | error fault =>
    rw [houtcome] at hsettled
    exact hsettled.error_of_joins hs.joins

/-- An action that nothing feeds has all conditions, if there are any, for its tree. -/
lemma tree_of_not_feeds (hg : g.Attainable) (hok : g.compile metadata now = .ok rule)
    (hact : g.KindAt act .action) (hs : ¬∃ s, g.Feeds s act "condition") :
    ((∃ tree, rule.tree act = .ok tree) ∧ ∃ c, g.KindAt c .condition) ∨
      rule.tree act = .error (.noConditions act) ∧ ¬∃ c, g.KindAt c .condition := by
  obtain ⟨hnone, hall⟩ := tree_of_unfed hg hok hact (not_exists.mp hs)
  rw [← conditionEntries_ne_nil_iff hg]
  by_cases hnil : g.conditionEntries = []
  · exact Or.inr ⟨hnone hnil, not_not.mpr hnil⟩
  · exact Or.inl ⟨⟨_, hall hnil⟩, hnil⟩

/-- In a graph from a session only what is left unconnected can stop the tree of an action: it comes
out exactly if every logical node that leads to the action has both inputs fed, or, if nothing feeds
the action, if there is a condition. Only the salience can stop the rule itself. -/
theorem tree_ok_iff_complete (hg : g.Attainable) (hact : g.KindAt act .action)
    (metadata : RuleMetadata) (now : DateTime) :
    ((∃ rule, g.compile metadata now = .ok rule) ↔
      ∃ salience, Check.whole metadata.salience = .valid salience) ∧
    ∀ rule, g.compile metadata now = .ok rule →
      ((∃ tree, rule.tree act = .ok tree) ∨
        ∃ fault, rule.tree act = .error fault ∧
          (Fault.tree fault).family? = some .incompleteGraph) ∧
      ((∃ s, g.Feeds s act "condition") →
        ((∃ tree, rule.tree act = .ok tree) ↔ g.CompleteAbove act)) ∧
      ((¬∃ s, g.Feeds s act "condition") →
        ((∃ tree, rule.tree act = .ok tree) ↔ ∃ c, g.KindAt c .condition)) := by
  refine ⟨hg.keepsRules.exists_compile_iff, fun rule hok => ?_⟩
  by_cases hfed : ∃ s, g.Feeds s act "condition"
  · obtain ⟨s, hs⟩ := hfed
    have hsettled := settles_tree hg hok hact hs
    exact ⟨hsettled.ok_or_incomplete, fun _ => hsettled.ok_iff, fun hunfed => absurd ⟨s, hs⟩ hunfed⟩
  · rcases tree_of_not_feeds hg hok hact hfed with ⟨htree, hcondition⟩ | ⟨hfault, hnone⟩
    · exact ⟨Or.inl htree, fun h => absurd h hfed, fun _ => iff_of_true htree hcondition⟩
    · have hstopped : ¬∃ tree, rule.tree act = .ok tree := by
        rintro ⟨tree, htree⟩
        rw [hfault] at htree
        cases htree
      exact ⟨Or.inr ⟨_, hfault, rfl⟩, fun h => absurd h hfed, fun _ => iff_of_false hstopped hnone⟩

theorem tree_ok_iff_complete_sample :
    (∃ tree, sampleRule.tree "off" = .ok tree) ∧ sample.CompleteAbove "off" := by
  have hact : sample.KindAt "off" .action := ⟨_, rfl, rfl⟩
  have hspec := (tree_ok_iff_complete sample_attainable hact sampleMetadata sampleNow).2
    sampleRule compile_sample
  have hfed : ∃ s, sample.Feeds s "off" "condition" :=
    ⟨"either", ⟨"either", "result", "off", "condition"⟩, by decide, rfl, rfl, rfl⟩
  exact ⟨⟨_, tree_sampleRule⟩, (hspec.2.1 hfed).mp ⟨_, tree_sampleRule⟩⟩

end Promotion.Graph
