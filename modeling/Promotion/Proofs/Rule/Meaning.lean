import Promotion.Proofs.Rule.Compiled

/-! The meaning of rule graphs. A graph from a session and the trees of its rule agree on what the
actions depend on, whatever the truth of the conditions. -/
namespace Promotion

/-- What a logical node makes of its two inputs. -/
def LogicalSubtype.join : LogicalSubtype → Bool → Bool → Bool
  | .and, first, second => first && second
  | .or, first, second => first || second

/-- What a node is worth in a graph, read off its nodes and connections. -/
inductive Graph.Worth (g : Graph) (leafHolds : ConditionType → String → Json → Bool) :
    String → Bool → Prop
  | condition {id : String} {subtype : ConditionSubtype} {operator : Operator} {value : Json}
      (hbody : g.BodyAt id (.condition subtype operator value)) :
      Worth g leafHolds id (leafHolds subtype.compiled operator.word value)
  | logical {id a b : String} {subtype : LogicalSubtype} {first second : Bool}
      (hbody : g.BodyAt id (.logical subtype)) (ha : g.Feeds a id "a") (hb : g.Feeds b id "b")
      (hfirst : Worth g leafHolds a first) (hsecond : Worth g leafHolds b second) :
      Worth g leafHolds id (subtype.join first second)
  | fed {id source : String} {truth : Bool} (hkind : g.KindAt id .action)
      (hsource : g.Feeds source id "condition") (htruth : Worth g leafHolds source truth) :
      Worth g leafHolds id truth
  | unfed {id : String} {truth : Bool} (hkind : g.KindAt id .action)
      (hsource : ∀ source, ¬g.Feeds source id "condition")
      (htruth : truth = true ↔ ∀ c subtype operator value,
        g.BodyAt c (.condition subtype operator value) →
          leafHolds subtype.compiled operator.word value = true) :
      Worth g leafHolds id truth

namespace ConditionTree
variable {leafHolds : ConditionType → String → Json → Bool}

lemma holds_gate_pair (type : LogicalSubtype) (first second : ConditionTree) :
    (gate type [first, second]).holds leafHolds =
      type.join (first.holds leafHolds) (second.holds leafHolds) := by
  cases type <;> simp [holds, allHold, anyHolds, LogicalSubtype.join]

lemma allHold_leaves (es : List ConditionEntry) :
    allHold leafHolds (es.map ConditionEntry.leaf) = true ↔
      ∀ e ∈ es, leafHolds e.type e.operator e.value = true := by
  induction es with
  | nil => simp [allHold]
  | cons e es ih => simp [allHold, ih, ConditionEntry.leaf, holds]

end ConditionTree

namespace Graph
variable {g : Graph} {metadata : RuleMetadata} {now : DateTime} {rule : Rule} {id act : String}
  {tree : ConditionTree} {leafHolds : ConditionType → String → Json → Bool} {truth truth' : Bool}

/-- Ids are distinct and no input is fed twice, so nothing is worth two truths. -/
theorem WellFormed.worth_unique (hg : g.WellFormed) (h : g.Worth leafHolds id truth)
    (h' : g.Worth leafHolds id truth') : truth = truth' := by
  induction h generalizing truth' with
  | condition hbody =>
    cases h' with
    | condition hbody' =>
      cases hbody.unique hbody'
      rfl
    | logical hbody' => cases hbody.unique hbody'
    | fed hkind => cases hbody.kindAt.unique hkind
    | unfed hkind => cases hbody.kindAt.unique hkind
  | logical hbody ha hb _ _ ihfirst ihsecond =>
    cases h' with
    | condition hbody' => cases hbody.unique hbody'
    | logical hbody' ha' hb' hfirst' hsecond' =>
      cases hbody.unique hbody'
      obtain rfl := hg.feeds_unique ha ha'
      obtain rfl := hg.feeds_unique hb hb'
      rw [ihfirst hfirst', ihsecond hsecond']
    | fed hkind => cases hbody.kindAt.unique hkind
    | unfed hkind => cases hbody.kindAt.unique hkind
  | fed hkind hsource _ ih =>
    cases h' with
    | condition hbody => cases hbody.kindAt.unique hkind
    | logical hbody => cases hbody.kindAt.unique hkind
    | fed _ hsource' htruth' =>
      obtain rfl := hg.feeds_unique hsource hsource'
      exact ih htruth'
    | unfed _ hsource' => exact absurd hsource (hsource' _)
  | unfed hkind hsource htruth =>
    cases h' with
    | condition hbody => cases hbody.kindAt.unique hkind
    | logical hbody => cases hbody.kindAt.unique hkind
    | fed _ hsource' => exact absurd hsource' (hsource _)
    | unfed _ _ htruth' => exact Bool.eq_iff_iff.mpr (htruth.trans htruth'.symm)

/-- A node from which a tree is resolved is worth the truth of the tree, along whatever path it was
reached. -/
theorem worth_of_resolve (hg : g.Attainable) (hok : g.compile metadata now = .ok rule)
    {path : List String} (htree : rule.resolve path id = .ok tree) :
    g.Worth leafHolds id (tree.holds leafHolds) := by
  fun_induction Rule.resolve rule path id generalizing tree with
  | case1 path id hpath => cases htree
  | case2 path id hpath e hcondition =>
    obtain ⟨subtype, operator, value, hbody, rfl⟩ := (condition?_eq_some_iff hg hok).mp hcondition
    obtain rfl := Except.ok.inj htree
    exact .condition hbody
  | case3 path id hpath hcondition hlogical => cases htree
  | case4 path id hpath hcondition e hlogical ha => cases htree
  | case5 path id hpath hcondition e hlogical a ha fault hfirst => cases htree
  | case6 path id hpath hcondition e hlogical a ha first hfirst hb => cases htree
  | case7 path id hpath hcondition e hlogical a ha first hfirst b hb fault hsecond => cases htree
  | case8 path id hpath hcondition e hlogical a ha first hfirst b hb second hsecond iha ihb =>
    obtain ⟨subtype, hbody, rfl⟩ := (logical?_eq_some_iff hg hok).mp hlogical
    obtain rfl := Except.ok.inj htree
    rw [ConditionTree.holds_gate_pair]
    exact .logical hbody ((source?_eq_some_iff hg hok).mp ha) ((source?_eq_some_iff hg hok).mp hb)
      (iha hfirst) (ihb hsecond)

lemma worth_of_tree (hg : g.Attainable) (hact : g.KindAt act .action)
    (hok : g.compile metadata now = .ok rule) (htree : rule.tree act = .ok tree) :
    g.Worth leafHolds act (tree.holds leafHolds) := by
  unfold Rule.tree at htree
  rw [if_pos ((any_action_iff hg hok).mpr hact)] at htree
  cases hsource : rule.source? act "condition" with
  | some source =>
    rw [hsource] at htree
    exact .fed hact ((source?_eq_some_iff hg hok).mp hsource) (worth_of_resolve hg hok htree)
  | none =>
    have hunfed : ∀ source, ¬g.Feeds source act "condition" := by
      intro source hfeeds
      rw [(source?_eq_some_iff hg hok).mpr hfeeds] at hsource
      cases hsource
    have htree' : .gate .and (rule.conditions.map ConditionEntry.leaf) = tree := by
      rw [hsource] at htree
      cases hconditions : rule.conditions with
      | nil => simp [hconditions] at htree
      | cons e es => simpa [hconditions] using htree
    refine .unfed hact hunfed ?_
    rw [← htree', ConditionTree.holds, ConditionTree.allHold_leaves]
    constructor
    · intro hall id subtype operator value hbody
      exact hall _ ((mem_conditions_iff hg hok).mpr ⟨id, subtype, operator, value, hbody, rfl⟩)
    · intro hall e he
      obtain ⟨id, subtype, operator, value, hbody, rfl⟩ := (mem_conditions_iff hg hok).mp he
      exact hall id subtype operator value hbody

/-- Compiling keeps the meaning of a graph: whenever an action of its rule has a tree, the truth of
the tree is what the action is worth in the graph, under any truth of the conditions. -/
theorem tree_holds_iff_worth (hg : g.Attainable) (hact : g.KindAt act .action)
    (hok : g.compile metadata now = .ok rule) (htree : rule.tree act = .ok tree)
    (leafHolds : ConditionType → String → Json → Bool) (truth : Bool) :
    tree.holds leafHolds = truth ↔ g.Worth leafHolds act truth := by
  have hworth : g.Worth leafHolds act (tree.holds leafHolds) := worth_of_tree hg hact hok htree
  constructor
  · rintro rfl
    exact hworth
  · exact fun h => hg.wellFormed.worth_unique hworth h

theorem tree_holds_iff_worth_sample :
    sampleTree.holds (fun type _ _ => type == .quantity) = true ∧
      sample.Worth (fun type _ _ => type == .quantity) "off" true := by
  have hiff := tree_holds_iff_worth sample_attainable ⟨_, rfl, rfl⟩ compile_sample tree_sampleRule
    (fun type _ _ => type == .quantity) true
  exact ⟨rfl, hiff.mp rfl⟩

end Graph
end Promotion
