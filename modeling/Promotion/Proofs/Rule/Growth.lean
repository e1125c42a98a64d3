import Promotion.Proofs.Rule.Compiled

/-! Trees as they grow in graphs. What resolving comes to at a node of a graph from a session is
read off from the bodies and connections that lead to it; the rule in between, with its metadata and
its time, plays no part in it. -/
namespace Promotion

namespace Rule
variable {r : Rule} {path : List String} {id : String}

lemma resolve_condition {e : ConditionEntry} (hid : id ∉ path) (he : r.condition? id = some e) :
    r.resolve path id = .ok e.leaf := by
  rw [resolve]
  simp [hid, he]

/-- At a logical node the first input that is not connected or has a fault decides. -/
lemma resolve_logical {e : LogicalEntry} (hid : id ∉ path) (hcondition : r.condition? id = none)
    (he : r.logical? id = some e) :
    r.resolve path id =
      match r.source? id "a" with
      | none => .error (.unconnected e.type id "a")
      | some a =>
        match r.resolve (path ++ [id]) a with
        | .error fault => .error fault
        | .ok first =>
          match r.source? id "b" with
          | none => .error (.unconnected e.type id "b")
          | some b =>
            match r.resolve (path ++ [id]) b with
            | .error fault => .error fault
            | .ok second => .ok (.gate e.type [first, second]) := by
  rw [resolve]
  simp only [hid, dite_false, hcondition]
  split
  · next hnone => simp [he] at hnone
  · next e' he' =>
    obtain rfl : e = e' := Option.some.inj (he.symm.trans he')
    rfl

end Rule

namespace Graph
open Connection Relation

/-- What comes of a condition or a logical node: a tree, or the fault that is met first. -/
inductive Grows (g : Graph) : String → Except TreeFault ConditionTree → Prop
  | condition {id : String} {subtype : ConditionSubtype} {operator : Operator} {value : Json}
      (hbody : g.BodyAt id (.condition subtype operator value)) :
      Grows g id (.ok (.leaf subtype.compiled operator.word value))
  | firstUnfed {id : String} {type : LogicalSubtype} (hbody : g.BodyAt id (.logical type))
      (ha : g.Unfed id "a") : Grows g id (.error (.unconnected type id "a"))
  | firstFault {id a : String} {type : LogicalSubtype} {fault : TreeFault}
      (hbody : g.BodyAt id (.logical type)) (ha : g.Feeds a id "a")
      (hfirst : Grows g a (.error fault)) : Grows g id (.error fault)
  | secondUnfed {id a : String} {type : LogicalSubtype} {first : ConditionTree}
      (hbody : g.BodyAt id (.logical type)) (ha : g.Feeds a id "a") (hfirst : Grows g a (.ok first))
      (hb : g.Unfed id "b") : Grows g id (.error (.unconnected type id "b"))
  | secondFault {id a b : String} {type : LogicalSubtype} {first : ConditionTree}
      {fault : TreeFault} (hbody : g.BodyAt id (.logical type)) (ha : g.Feeds a id "a")
      (hfirst : Grows g a (.ok first)) (hb : g.Feeds b id "b")
      (hsecond : Grows g b (.error fault)) : Grows g id (.error fault)
  | gate {id a b : String} {type : LogicalSubtype} {first second : ConditionTree}
      (hbody : g.BodyAt id (.logical type)) (ha : g.Feeds a id "a") (hfirst : Grows g a (.ok first))
      (hb : g.Feeds b id "b") (hsecond : Grows g b (.ok second)) :
      Grows g id (.ok (.gate type [first, second]))

/-- The node that is resolved leads to everything on the path to it, and it is no action. -/
structure Upstream (g : Graph) (path : List String) (id : String) : Prop where
  leads : ∀ p ∈ path, TransGen (Joins g.connections) id p
  kind : g.KindAt id .condition ∨ g.KindAt id .logical

/-- The entries that the conditions of a graph become, in order. -/
def conditionEntries (g : Graph) : List ConditionEntry :=
  g.nodes.filterMap fun
    | .rule r => (r.body.entry r.id).condition?
    | .loose _ => none

/-- What comes of an action. -/
inductive Bears (g : Graph) (act : String) : Except TreeFault ConditionTree → Prop
  | fed {s : String} {outcome : Except TreeFault ConditionTree} (hs : g.Feeds s act "condition")
      (hgrows : g.Grows s outcome) : Bears g act outcome
  | all (hunfed : g.Unfed act "condition") (hsome : g.conditionEntries ≠ []) :
      Bears g act (.ok (.gate .and (g.conditionEntries.map ConditionEntry.leaf)))
  | none (hunfed : g.Unfed act "condition") (hnil : g.conditionEntries = []) :
      Bears g act (.error (.noConditions act))

/-- Whenever the salience lets the graph be compiled, this is what comes of an action. -/
def Yields (g : Graph) (act : String) (outcome : Except TreeFault ConditionTree) : Prop :=
  ∀ (metadata : RuleMetadata) (now : DateTime) (salience : Int),
    Check.whole metadata.salience = .valid salience →
      ∃ rule, g.compile metadata now = .ok rule ∧ rule.tree act = outcome

variable {g : Graph} {metadata : RuleMetadata} {now : DateTime} {rule : Rule}
  {id act s input : String} {path : List String} {outcome : Except TreeFault ConditionTree}
  {fault : TreeFault}

/-! ### Looking up -/

lemma source?_eq_none_iff (hg : g.Attainable) (hok : g.compile metadata now = .ok rule) :
    rule.source? id input = none ↔ g.Unfed id input := by
  rw [Option.eq_none_iff_forall_ne_some]
  exact forall_congr' fun s => not_congr (source?_eq_some_iff hg hok)

lemma condition_of_kindAt (hg : g.KeepsRules) (hkind : g.KindAt id .condition) :
    ∃ subtype operator value, g.BodyAt id (.condition subtype operator value) := by
  obtain ⟨body, hbody, hkind⟩ := hg.exists_bodyAt hkind
  cases body with
  | condition subtype operator value => exact ⟨subtype, operator, value, hbody⟩
  | action subtype value => cases hkind
  | logical subtype => cases hkind

lemma logical_of_kindAt (hg : g.KeepsRules) (hkind : g.KindAt id .logical) :
    ∃ type, g.BodyAt id (.logical type) := by
  obtain ⟨body, hbody, hkind⟩ := hg.exists_bodyAt hkind
  cases body with
  | condition subtype operator value => cases hkind
  | action subtype value => cases hkind
  | logical type => exact ⟨type, hbody⟩

lemma condition?_of_bodyAt {subtype : ConditionSubtype} {operator : Operator} {value : Json}
    (hg : g.Attainable) (hok : g.compile metadata now = .ok rule)
    (hbody : g.BodyAt id (.condition subtype operator value)) :
    rule.condition? id = some ⟨subtype.compiled, operator.word, value, id⟩ :=
  (condition?_eq_some_iff hg hok).mpr ⟨subtype, operator, value, hbody, rfl⟩

/-- A logical node is found among the logical nodes only. -/
lemma lookup_of_logical {type : LogicalSubtype} (hg : g.Attainable)
    (hok : g.compile metadata now = .ok rule) (hbody : g.BodyAt id (.logical type)) :
    rule.condition? id = none ∧ rule.logical? id = some ⟨type, id⟩ := by
  refine ⟨Option.eq_none_iff_forall_ne_some.mpr fun e he => ?_,
    (logical?_eq_some_iff hg hok).mpr ⟨type, hbody, rfl⟩⟩
  obtain ⟨_, _, _, hcondition, _⟩ := (condition?_eq_some_iff hg hok).mp he
  cases hcondition.unique hbody

lemma conditions_eq (hg : g.Attainable) (hok : g.compile metadata now = .ok rule) :
    rule.conditions = g.conditionEntries := by
  obtain ⟨rs, hrs⟩ := hg.keepsRules.exists_map
  obtain ⟨entries, hentries, hconditions, -, -, -⟩ := lists_of_compile hok
  rw [hrs, RuleNode.mapM_compile] at hentries
  obtain rfl := Except.ok.inj hentries
  rw [hconditions, conditionEntries, hrs, List.filterMap_map, List.filterMap_map]
  rfl

lemma kindAt_of_mem_conditionEntries {e : ConditionEntry} (hg : g.WellFormed)
    (he : e ∈ g.conditionEntries) : g.KindAt e.id .condition := by
  obtain ⟨n, hn, hpick⟩ := List.mem_filterMap.mp he
  cases n with
  | rule r =>
    obtain ⟨_, _, _, hbody, rfl⟩ := Body.condition?_entry_eq_some_iff.mp hpick
    refine ⟨.rule r, node?_key hg.keys_nodup hn, ?_⟩
    rw [Node.kind?_rule, RuleNode.kind, hbody]
    rfl
  | loose l => cases hpick

lemma conditionEntries_ne_nil_iff (hg : g.Attainable) :
    g.conditionEntries ≠ [] ↔ ∃ c, g.KindAt c .condition := by
  constructor
  · intro hsome
    obtain ⟨e, he⟩ := List.exists_mem_of_ne_nil _ hsome
    exact ⟨e.id, kindAt_of_mem_conditionEntries hg.wellFormed he⟩
  · rintro ⟨c, hc⟩
    obtain ⟨_, _, _, r, hr, hbody⟩ := condition_of_kindAt hg.keepsRules hc
    have hpick : (r.body.entry r.id).condition? = some ⟨_, _, _, r.id⟩ :=
      Body.condition?_entry_eq_some_iff.mpr ⟨_, _, _, hbody, rfl⟩
    exact List.ne_nil_of_mem (List.mem_filterMap.mpr ⟨.rule r, (node?_eq_some hr).1, hpick⟩)

/-! ### Resolving -/

lemma Upstream.step (hg : g.WellFormed) (h : g.Upstream path id) (hs : g.Feeds s id input) :
    g.Upstream (path ++ [id]) s := by
  refine ⟨fun p hp => ?_, hg.source_kind hs⟩
  rcases List.mem_append.mp hp with hold | hnew
  · exact (h.leads p hold).head hs.joins
  · obtain rfl := List.mem_singleton.mp hnew
    exact .single hs.joins

/-- A way around would be a cycle, so the path is never met again. -/
lemma Upstream.not_mem (hg : g.WellFormed) (h : g.Upstream path id) : id ∉ path :=
  fun hmem => hg.acyclic id (h.leads id hmem)

/-- Resolving a node along a path that it leads to comes to something that grows there. -/
theorem grows_resolve (hg : g.Attainable) (hok : g.compile metadata now = .ok rule)
    (hup : g.Upstream path id) : g.Grows id (rule.resolve path id) := by
  have hwell := hg.wellFormed
  fun_induction Rule.resolve rule path id with
  | case1 path id hpath => exact absurd hpath (hup.not_mem hwell)
  | case2 path id hpath e hcondition =>
    obtain ⟨_, _, _, hbody, rfl⟩ := (condition?_eq_some_iff hg hok).mp hcondition
    exact .condition hbody
  | case3 path id hpath hcondition hlogical =>
    rcases hup.kind with hkind | hkind
    · obtain ⟨_, _, _, hbody⟩ := condition_of_kindAt hg.keepsRules hkind
      simp [condition?_of_bodyAt hg hok hbody] at hcondition
    · obtain ⟨_, hbody⟩ := logical_of_kindAt hg.keepsRules hkind
      simp [(lookup_of_logical hg hok hbody).2] at hlogical
  | case4 path id hpath hcondition e hlogical ha =>
    obtain ⟨_, hbody, rfl⟩ := (logical?_eq_some_iff hg hok).mp hlogical
    exact .firstUnfed hbody ((source?_eq_none_iff hg hok).mp ha)
  | case5 path id hpath hcondition e hlogical a ha fault hfirst iha =>
    obtain ⟨_, hbody, rfl⟩ := (logical?_eq_some_iff hg hok).mp hlogical
    have ha' := (source?_eq_some_iff hg hok).mp ha
    have hfirst' := hfirst ▸ iha (hup.step hwell ha')
    exact .firstFault hbody ha' hfirst'
  | case6 path id hpath hcondition e hlogical a ha first hfirst hb iha =>
    obtain ⟨_, hbody, rfl⟩ := (logical?_eq_some_iff hg hok).mp hlogical
    have ha' := (source?_eq_some_iff hg hok).mp ha
    have hfirst' := hfirst ▸ iha (hup.step hwell ha')
    exact .secondUnfed hbody ha' hfirst' ((source?_eq_none_iff hg hok).mp hb)
  | case7 path id hpath hcondition e hlogical a ha first hfirst b hb fault hsecond iha ihb =>
    obtain ⟨_, hbody, rfl⟩ := (logical?_eq_some_iff hg hok).mp hlogical
    have ha' := (source?_eq_some_iff hg hok).mp ha
    have hb' := (source?_eq_some_iff hg hok).mp hb
    have hfirst' := hfirst ▸ iha (hup.step hwell ha')
    have hsecond' := hsecond ▸ ihb (hup.step hwell hb')
    exact .secondFault hbody ha' hfirst' hb' hsecond'
  | case8 path id hpath hcondition e hlogical a ha first hfirst b hb second hsecond iha ihb =>
    obtain ⟨_, hbody, rfl⟩ := (logical?_eq_some_iff hg hok).mp hlogical
    have ha' := (source?_eq_some_iff hg hok).mp ha
    have hb' := (source?_eq_some_iff hg hok).mp hb
    have hfirst' := hfirst ▸ iha (hup.step hwell ha')
    have hsecond' := hsecond ▸ ihb (hup.step hwell hb')
    exact .gate hbody ha' hfirst' hb' hsecond'

/-- Whatever grows at a node, resolving comes to it along any path that the node leads to. -/
theorem Grows.resolve_eq (hg : g.Attainable) (hok : g.compile metadata now = .ok rule)
    (hgrows : g.Grows id outcome) (hup : g.Upstream path id) :
    rule.resolve path id = outcome := by
  have hwell := hg.wellFormed
  induction hgrows generalizing path with
  | condition hbody =>
    rw [Rule.resolve_condition (hup.not_mem hwell) (condition?_of_bodyAt hg hok hbody)]
    rfl
  | firstUnfed hbody ha =>
    obtain ⟨hcondition, hlogical⟩ := lookup_of_logical hg hok hbody
    rw [Rule.resolve_logical (hup.not_mem hwell) hcondition hlogical,
      (source?_eq_none_iff hg hok).mpr ha]
  | firstFault hbody ha _ iha =>
    obtain ⟨hcondition, hlogical⟩ := lookup_of_logical hg hok hbody
    rw [Rule.resolve_logical (hup.not_mem hwell) hcondition hlogical,
      (source?_eq_some_iff hg hok).mpr ha]
    simp only [iha (hup.step hwell ha)]
  | secondUnfed hbody ha _ hb iha =>
    obtain ⟨hcondition, hlogical⟩ := lookup_of_logical hg hok hbody
    rw [Rule.resolve_logical (hup.not_mem hwell) hcondition hlogical,
      (source?_eq_some_iff hg hok).mpr ha, (source?_eq_none_iff hg hok).mpr hb]
    simp only [iha (hup.step hwell ha)]
  | secondFault hbody ha _ hb _ iha ihb =>
    obtain ⟨hcondition, hlogical⟩ := lookup_of_logical hg hok hbody
    rw [Rule.resolve_logical (hup.not_mem hwell) hcondition hlogical,
      (source?_eq_some_iff hg hok).mpr ha, (source?_eq_some_iff hg hok).mpr hb]
    simp only [iha (hup.step hwell ha), ihb (hup.step hwell hb)]
  | gate hbody ha _ hb _ iha ihb =>
    obtain ⟨hcondition, hlogical⟩ := lookup_of_logical hg hok hbody
    rw [Rule.resolve_logical (hup.not_mem hwell) hcondition hlogical,
      (source?_eq_some_iff hg hok).mpr ha, (source?_eq_some_iff hg hok).mpr hb]
    simp only [iha (hup.step hwell ha), ihb (hup.step hwell hb)]

/-- Only an open input of a logical node can stop a tree from growing. -/
lemma Grows.unconnected (hgrows : g.Grows id (.error fault)) :
    ∃ type n socket, fault = .unconnected type n socket := by
  generalize houtcome : (.error fault : Except TreeFault ConditionTree) = outcome at hgrows
  induction hgrows with
  | condition _ => cases houtcome
  | firstUnfed _ _ => exact ⟨_, _, _, Except.error.inj houtcome⟩
  | firstFault _ _ _ iha => exact iha houtcome
  | secondUnfed _ _ _ _ _ => exact ⟨_, _, _, Except.error.inj houtcome⟩
  | secondFault _ _ _ _ _ _ ihb => exact ihb houtcome
  | gate _ _ _ _ _ _ _ => cases houtcome

/-! ### Trees of actions -/

lemma Upstream.of_action (hg : g.WellFormed) (hs : g.Feeds s act input) : g.Upstream [act] s := by
  refine ⟨fun p hp => ?_, hg.source_kind hs⟩
  obtain rfl := List.mem_singleton.mp hp
  exact .single hs.joins

lemma tree_of_feeds (hg : g.Attainable) (hok : g.compile metadata now = .ok rule)
    (hact : g.KindAt act .action) (hs : g.Feeds s act "condition") :
    rule.tree act = rule.resolve [act] s := by
  unfold Rule.tree
  rw [if_pos ((any_action_iff hg hok).mpr hact), (source?_eq_some_iff hg hok).mpr hs]

lemma tree_of_unfed (hg : g.Attainable) (hok : g.compile metadata now = .ok rule)
    (hact : g.KindAt act .action) (hunfed : g.Unfed act "condition") :
    (g.conditionEntries = [] → rule.tree act = .error (.noConditions act)) ∧
      (g.conditionEntries ≠ [] →
        rule.tree act = .ok (.gate .and (g.conditionEntries.map ConditionEntry.leaf))) := by
  unfold Rule.tree
  rw [if_pos ((any_action_iff hg hok).mpr hact), (source?_eq_none_iff hg hok).mpr hunfed,
    conditions_eq hg hok]
  cases g.conditionEntries <;> simp

/-- The tree of an action, or its fault, is what the action bears. -/
theorem bears_tree (hg : g.Attainable) (hok : g.compile metadata now = .ok rule)
    (hact : g.KindAt act .action) : g.Bears act (rule.tree act) := by
  by_cases hfed : ∃ s, g.Feeds s act "condition"
  · obtain ⟨s, hs⟩ := hfed
    rw [tree_of_feeds hg hok hact hs]
    exact .fed hs (grows_resolve hg hok (Upstream.of_action hg.wellFormed hs))
  · have hunfed : g.Unfed act "condition" := fun s hs => hfed ⟨s, hs⟩
    obtain ⟨hnone, hall⟩ := tree_of_unfed hg hok hact hunfed
    by_cases hnil : g.conditionEntries = []
    · exact hnone hnil ▸ .none hunfed hnil
    · exact hall hnil ▸ .all hunfed hnil

theorem Bears.tree_eq (hg : g.Attainable) (hok : g.compile metadata now = .ok rule)
    (hact : g.KindAt act .action) (hbears : g.Bears act outcome) : rule.tree act = outcome := by
  cases hbears with
  | fed hs hgrows =>
    rw [tree_of_feeds hg hok hact hs]
    exact hgrows.resolve_eq hg hok (Upstream.of_action hg.wellFormed hs)
  | all hunfed hsome => exact (tree_of_unfed hg hok hact hunfed).2 hsome
  | none hunfed hnil => exact (tree_of_unfed hg hok hact hunfed).1 hnil

/-- What comes of an action is the same under all metadata and at all times. -/
theorem Bears.yields (hg : g.Attainable) (hact : g.KindAt act .action)
    (hbears : g.Bears act outcome) : g.Yields act outcome := by
  intro metadata now salience hsalience
  obtain ⟨rule, hok⟩ : ∃ rule, g.compile metadata now = .ok rule :=
    hg.keepsRules.exists_compile_iff.mpr ⟨salience, hsalience⟩
  exact ⟨rule, hok, hbears.tree_eq hg hok hact⟩

lemma Yields.tree_eq (hyields : g.Yields act outcome) (hg : g.Attainable)
    (hok : g.compile metadata now = .ok rule) : rule.tree act = outcome := by
  obtain ⟨salience, hsalience⟩ := hg.keepsRules.exists_compile_iff.mp ⟨rule, hok⟩
  obtain ⟨rule', hok', htree⟩ := hyields metadata now salience hsalience
  obtain rfl := Except.ok.inj (hok.symm.trans hok')
  exact htree

/-- What stops an action is an open input, or that there are no conditions. -/
lemma Bears.incomplete (hbears : g.Bears act (.error fault)) :
    (Fault.tree fault).family? = some .incompleteGraph := by
  cases hbears with
  | fed _ hgrows =>
    obtain ⟨_, _, _, rfl⟩ := hgrows.unconnected
    rfl
  | none _ _ => rfl

lemma exists_bears (hg : g.Attainable) (hact : g.KindAt act .action) :
    ∃ outcome, g.Bears act outcome := by
  obtain ⟨rule, hok⟩ : ∃ rule, g.compile (.standard (.int 0)) sampleNow = .ok rule :=
    hg.keepsRules.exists_compile_iff.mpr ⟨0, rfl⟩
  exact ⟨_, bears_tree hg hok hact⟩

end Graph
end Promotion
