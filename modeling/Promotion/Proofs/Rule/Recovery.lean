import Promotion.Proofs.Rule.Compiled

/-! Reading a graph back from its rule. The entries of each kind stand for the nodes of that kind in
their order, and the links for the connections, so that graphs with the same rule agree in these. -/
namespace Promotion

/-! ### Entries -/

/-- The node with an id and a body, if these keep the rules. -/
def Node.of? (id : String) (body : Body) : Option Node := (RuleNode.of id body).value?.map .rule

/-- The node that a condition comes from. Its type stands for one subtype. -/
def ConditionEntry.node? (e : ConditionEntry) : Option Node :=
  (Operator.ofWord? e.operator).bind fun operator =>
    Node.of? e.id (.condition e.type.subtype operator e.value)

def ActionEntry.node? (e : ActionEntry) : Option Node :=
  Node.of? e.id (.action e.type e.value.toJson)

def LogicalEntry.node? (e : LogicalEntry) : Option Node := Node.of? e.id (.logical e.type)

def Link.connection (l : Link) : Connection := ⟨l.source, l.output, l.target, l.input⟩

@[simp] lemma Link.connection_ofConnection (c : Connection) : (ofConnection c).connection = c := rfl

/-- A number that was read from a value is written as that value. -/
lemma Amount.toJson_of_ofJson? {value : Json} {a : Amount} (h : ofJson? value = some a) :
    a.toJson = value := by
  cases value <;> cases h <;> rfl

lemma Node.of?_rule (r : RuleNode) : Node.of? r.id r.body = some (.rule r) := by
  rw [Node.of?, r.of_id_body]
  rfl

/-- The entries of a kind are picked out of all, and each is read back as its node. -/
structure ReadsBack {α : Type} (kind : Kind) (pick : Entry → Option α) (back : α → Option Node) :
    Prop where
  isSome_pick : ∀ id body, (pick (Body.entry id body)).isSome = decide (body.kind = kind)
  back_pick : ∀ (r : RuleNode) (a : α), pick (r.body.entry r.id) = some a → back a = some (.rule r)

lemma readsBack_condition : ReadsBack .condition Entry.condition? ConditionEntry.node? where
  isSome_pick id body := by cases body <;> rfl
  back_pick r e he := by
    obtain ⟨subtype, operator, value, hbody, rfl⟩ := Body.condition?_entry_eq_some_iff.mp he
    simp [ConditionEntry.node?, ← hbody, Node.of?_rule]

lemma readsBack_action : ReadsBack .action Entry.action? ActionEntry.node? where
  isSome_pick id body := by cases body <;> rfl
  back_pick r e he := by
    obtain ⟨subtype, value, hbody, rfl⟩ := Body.action?_entry_eq_some_iff.mp he
    have hfit := r.bodyFits
    rw [hbody] at hfit
    obtain ⟨a, ha⟩ := RuleNode.ofJson?_of_admits (Body.fault?_action_eq_none_iff.mp hfit)
    simp [ActionEntry.node?, ha, Amount.toJson_of_ofJson? ha, ← hbody, Node.of?_rule]

lemma readsBack_logical : ReadsBack .logical Entry.logical? LogicalEntry.node? where
  isSome_pick id body := by cases body <;> rfl
  back_pick r e he := by
    obtain ⟨subtype, hbody, rfl⟩ := Body.logical?_entry_eq_some_iff.mp he
    simp [LogicalEntry.node?, ← hbody, Node.of?_rule]

namespace ReadsBack
variable {α : Type} {kind : Kind} {pick : Entry → Option α} {back : α → Option Node}

/-- What is picked from the entries of nodes is read back as the nodes of the kind, in their
order. -/
lemma mapM_back (h : ReadsBack kind pick back) (rs : List RuleNode) :
    ((rs.map fun r => r.body.entry r.id).filterMap pick).mapM back =
      some ((rs.map Node.rule).filter fun n => n.kind? = some kind) := by
  induction rs with
  | nil => rfl
  | cons r rs ih =>
    have hsome := h.isSome_pick r.id r.body
    by_cases hkind : r.body.kind = kind
    · obtain ⟨a, ha⟩ := Option.isSome_iff_exists.mp (hsome.trans (decide_eq_true hkind))
      simp only [List.map_cons, List.filterMap_cons, ha, List.mapM_cons, h.back_pick r a ha, ih]
      simp [RuleNode.kind, hkind]
    · have hnone : pick (r.body.entry r.id) = none := by simpa [hkind] using hsome
      simp only [List.map_cons, List.filterMap_cons, hnone, ih]
      simp [RuleNode.kind, hkind]

/-- The nodes of other kinds do not count for what is picked. -/
lemma filterMap_pick (h : ReadsBack kind pick back) (rs : List RuleNode) :
    (rs.map fun r => r.body.entry r.id).filterMap pick =
      ((rs.filter fun r => r.kind = kind).map fun r => r.body.entry r.id).filterMap pick := by
  simp only [List.filterMap_map, List.filterMap_filter]
  refine List.filterMap_congr fun r _ => ?_
  have hsome := h.isSome_pick r.id r.body
  by_cases hkind : r.body.kind = kind <;> simp_all [RuleNode.kind]

end ReadsBack

/-! ### Documents -/

lemma ConditionType.word_injective : Function.Injective word :=
  fun s t h => Option.some.inj (by rw [← ofWord?_word s, h, ofWord?_word])

lemma ActionSubtype.word_injective : Function.Injective word :=
  fun s t h => Option.some.inj (by rw [← ofWord?_word s, h, ofWord?_word])

lemma LogicalSubtype.word_injective : Function.Injective word :=
  fun s t h => Option.some.inj (by rw [← ofWord?_word s, h, ofWord?_word])

lemma Amount.toJson_injective : Function.Injective toJson :=
  fun a b h => Option.some.inj (by rw [← ofJson?_toJson a, h, ofJson?_toJson])

lemma ConditionEntry.toJson_injective : Function.Injective toJson := by
  rintro ⟨type, operator, value, id⟩ ⟨type', operator', value', id'⟩ h
  simp only [toJson, Json.obj.injEq, List.cons.injEq, Prod.mk.injEq, Json.str.injEq, true_and,
    and_true] at h
  obtain ⟨htype, rfl, rfl, rfl⟩ := h
  rw [ConditionType.word_injective htype]

lemma ActionEntry.toJson_injective : Function.Injective toJson := by
  rintro ⟨type, value, id⟩ ⟨type', value', id'⟩ h
  simp only [toJson, Json.obj.injEq, List.cons.injEq, Prod.mk.injEq, Json.str.injEq, true_and,
    and_true] at h
  obtain ⟨htype, hvalue, rfl⟩ := h
  rw [ActionSubtype.word_injective htype, Amount.toJson_injective hvalue]

lemma LogicalEntry.toJson_injective : Function.Injective toJson := by
  rintro ⟨type, id⟩ ⟨type', id'⟩ h
  simp only [toJson, Json.obj.injEq, List.cons.injEq, Prod.mk.injEq, Json.str.injEq, true_and,
    and_true] at h
  obtain ⟨htype, rfl⟩ := h
  rw [LogicalSubtype.word_injective htype]

lemma Link.toJson_injective : Function.Injective toJson := by
  rintro ⟨source, target, output, input⟩ ⟨source', target', output', input'⟩ h
  simpa [toJson, and_assoc] using h

/-- Rules with one document have the same entries and links. -/
lemma Rule.lists_eq_of_document_eq {r r' : Rule} {stamp stamp' : String}
    (h : r.document stamp = r'.document stamp') :
    r.conditions = r'.conditions ∧ r.actions = r'.actions ∧ r.logicals = r'.logicals ∧
      r.links = r'.links := by
  simp only [document, Json.obj.injEq, List.cons.injEq, Prod.mk.injEq, Json.arr.injEq, true_and]
    at h
  obtain ⟨_, _, _, _, _, _, hconditions, hactions, hlogicals, hlinks, _⟩ := h
  exact ⟨List.map_injective_iff.mpr ConditionEntry.toJson_injective hconditions,
    List.map_injective_iff.mpr ActionEntry.toJson_injective hactions,
    List.map_injective_iff.mpr LogicalEntry.toJson_injective hlogicals,
    List.map_injective_iff.mpr Link.toJson_injective hlinks⟩

namespace Graph
variable {g g' : Graph} {metadata : RuleMetadata} {now : DateTime} {salience : Int}
  {rs ss : List RuleNode}

/-- The nodes of a kind, in their order. -/
def ofKind (g : Graph) (kind : Kind) : List Node := g.nodes.filter fun n => n.kind? = some kind

/-- Graphs agree if they have the same nodes of each kind and the same connections, each in the same
order. How nodes of different kinds are mixed does not count. -/
structure Agrees (g g' : Graph) : Prop where
  ofKind : ∀ kind, g.ofKind kind = g'.ofKind kind
  connections : g.connections = g'.connections

/-- The rule that checked nodes and connections make. -/
def ruleOf (metadata : RuleMetadata) (salience : Int) (now : DateTime) (rs : List RuleNode)
    (connections : List Connection) : Rule where
  name := if metadata.name = "" then defaultName now.orUtc else metadata.name
  salience
  stackable := metadata.stackable
  active := metadata.active
  validFrom := metadata.validFrom
  validUntil := metadata.validUntil
  conditions := (rs.map fun r => r.body.entry r.id).filterMap Entry.condition?
  actions := (rs.map fun r => r.body.entry r.id).filterMap Entry.action?
  logicals := (rs.map fun r => r.body.entry r.id).filterMap Entry.logical?
  links := connections.map Link.ofConnection
  createdAt := now.orUtc

lemma compile_eq (hnodes : g.nodes = rs.map .rule)
    (hsalience : Check.whole metadata.salience = .valid salience) :
    g.compile metadata now = .ok (ruleOf metadata salience now rs g.connections) := by
  simp only [compile, hnodes, RuleNode.mapM_compile, hsalience]
  rfl

lemma ofKind_eq (hnodes : g.nodes = rs.map .rule) (kind : Kind) :
    g.ofKind kind = (rs.filter fun r => r.kind = kind).map .rule := by
  rw [ofKind, hnodes, List.filter_map]
  simp [Function.comp_def]

lemma filter_kind_eq (hnodes : g.nodes = rs.map .rule) (hnodes' : g'.nodes = ss.map .rule)
    {kind : Kind} (h : g.ofKind kind = g'.ofKind kind) :
    rs.filter (fun r => r.kind = kind) = ss.filter fun r => r.kind = kind := by
  rw [ofKind_eq hnodes, ofKind_eq hnodes'] at h
  exact List.map_injective_iff.mpr (fun _ _ => Node.rule.inj) h

/-- Of graphs that agree the same entries are picked. -/
lemma filterMap_pick_eq {α : Type} {kind : Kind} {pick : Entry → Option α} {back : α → Option Node}
    (hback : ReadsBack kind pick back) (hnodes : g.nodes = rs.map .rule)
    (hnodes' : g'.nodes = ss.map .rule) (h : g.ofKind kind = g'.ofKind kind) :
    (rs.map fun r => r.body.entry r.id).filterMap pick =
      (ss.map fun r => r.body.entry r.id).filterMap pick := by
  rw [hback.filterMap_pick rs, hback.filterMap_pick ss, filter_kind_eq hnodes hnodes' h]

lemma ruleOf_eq_of_agrees (hnodes : g.nodes = rs.map .rule) (hnodes' : g'.nodes = ss.map .rule)
    (h : g.Agrees g') :
    ruleOf metadata salience now rs g.connections =
      ruleOf metadata salience now ss g'.connections := by
  unfold ruleOf
  rw [filterMap_pick_eq readsBack_condition hnodes hnodes' (h.ofKind _),
    filterMap_pick_eq readsBack_action hnodes hnodes' (h.ofKind _),
    filterMap_pick_eq readsBack_logical hnodes hnodes' (h.ofKind _), h.connections]

/-- A rule that a graph can be read back from. -/
structure ReadFrom (g : Graph) (r : Rule) : Prop where
  conditions : r.conditions.mapM ConditionEntry.node? = some (g.ofKind .condition)
  actions : r.actions.mapM ActionEntry.node? = some (g.ofKind .action)
  logicals : r.logicals.mapM LogicalEntry.node? = some (g.ofKind .logical)
  connections : r.links.map Link.connection = g.connections

lemma readFrom_ruleOf (hnodes : g.nodes = rs.map .rule) :
    g.ReadFrom (ruleOf metadata salience now rs g.connections) where
  conditions := by rw [ofKind, hnodes]; exact readsBack_condition.mapM_back rs
  actions := by rw [ofKind, hnodes]; exact readsBack_action.mapM_back rs
  logicals := by rw [ofKind, hnodes]; exact readsBack_logical.mapM_back rs
  connections := by simp [ruleOf, Function.comp_def]

/-- What is read back depends on the entries and the links only. -/
lemma ReadFrom.agrees {r r' : Rule} (h : g.ReadFrom r) (h' : g'.ReadFrom r')
    (hlists : r.conditions = r'.conditions ∧ r.actions = r'.actions ∧ r.logicals = r'.logicals ∧
      r.links = r'.links) : g.Agrees g' := by
  obtain ⟨hconditions, hactions, hlogicals, hlinks⟩ := hlists
  refine ⟨fun kind => ?_, ?_⟩
  · apply Option.some.inj
    cases kind with
    | condition => rw [← h.conditions, ← h'.conditions, hconditions]
    | action => rw [← h.actions, ← h'.actions, hactions]
    | logical => rw [← h.logicals, ← h'.logicals, hlogicals]
  · rw [← h.connections, ← h'.connections, hlinks]

/-- Compilation loses nothing of a graph but how its nodes of different kinds are mixed: it
succeeds, the graph is read back from the rule, and graphs that make one rule, or rules with one
document, agree. -/
theorem compile_lossless (hg : g.Attainable) (hsalience : metadata.salience = .int salience) :
    ∃ rule, g.compile metadata now = .ok rule ∧ g.ReadFrom rule ∧
      ∀ g' : Graph, g'.Attainable → ∃ rule', g'.compile metadata now = .ok rule' ∧
        (rule = rule' ↔ g.Agrees g') ∧
        ∀ stamp, rule.document stamp = rule'.document stamp ↔ g.Agrees g' := by
  have hwhole : Check.whole metadata.salience = .valid salience := by rw [hsalience]; rfl
  obtain ⟨rs, hrs⟩ := hg.keepsRules.exists_map
  refine ⟨_, compile_eq hrs hwhole, readFrom_ruleOf hrs, fun g' hg' => ?_⟩
  obtain ⟨ss, hss⟩ := hg'.keepsRules.exists_map
  have hback : g.ReadFrom (ruleOf metadata salience now rs g.connections) := readFrom_ruleOf hrs
  have hback' : g'.ReadFrom (ruleOf metadata salience now ss g'.connections) := readFrom_ruleOf hss
  refine ⟨_, compile_eq hss hwhole, ⟨fun h => ?_, ruleOf_eq_of_agrees hrs hss⟩,
    fun stamp => ⟨fun h => ?_, fun h => ?_⟩⟩
  · exact hback.agrees hback' (by rw [h]; exact ⟨rfl, rfl, rfl, rfl⟩)
  · exact hback.agrees hback' (Rule.lists_eq_of_document_eq h)
  · rw [ruleOf_eq_of_agrees hrs hss h]

theorem compile_lossless_sample : ∃ rule, sample.compile sampleMetadata sampleNow = .ok rule ∧
    sample.ReadFrom rule ∧
      ∀ g' : Graph, g'.Attainable → ∃ rule', g'.compile sampleMetadata sampleNow = .ok rule' ∧
        (rule = rule' ↔ sample.Agrees g') ∧
        ∀ stamp, rule.document stamp = rule'.document stamp ↔ sample.Agrees g' :=
  compile_lossless sample_attainable (rfl : sampleMetadata.salience = .int 5)

end Graph
end Promotion
