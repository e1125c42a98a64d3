import Promotion.Rule.Compiler
import Promotion.Rule.Tree
import Promotion.Proofs.Editor.Attainable
import Promotion.Proofs.Node.Payload

/-! Rules of graphs from sessions. Compiling such a graph fails only over the salience, and what is
looked up in its rule is what the graph has at that place. -/
namespace Promotion

namespace Node

lemma knownSubtype_of_get? {α : Type} {n : Node} {ofWord? : String → Option α} {word : String}
    {a : α} (hget : n.get? "subtype" = some (.str word)) (hword : ofWord? word = some a) :
    n.knownSubtype ofWord? = .ok a := by
  simp [knownSubtype, subtypeValue, hget, Json.str?, hword]

lemma needed_of_get? {n : Node} {key : String} {json : Json} (hget : n.get? key = some json) :
    n.needed key = .ok json := by
  simp [needed, hget]

end Node

/-- The entry that a body becomes under an id. -/
def Body.entry (id : String) : Body → Entry
  | .condition subtype operator value => .condition ⟨subtype.compiled, operator.word, value, id⟩
  | .action subtype value => .action ⟨subtype, (Amount.ofJson? value).getD (.whole 0), id⟩
  | .logical subtype => .logical ⟨subtype, id⟩

namespace Body
variable {id : String} {body : Body}

lemma condition?_entry_eq_some_iff {e : ConditionEntry} :
    (body.entry id).condition? = some e ↔ ∃ subtype operator value,
      body = .condition subtype operator value ∧
        e = ⟨subtype.compiled, operator.word, value, id⟩ := by
  cases body <;> simp [entry, Entry.condition?, eq_comm]

lemma action?_entry_eq_some_iff {e : ActionEntry} :
    (body.entry id).action? = some e ↔ ∃ subtype value,
      body = .action subtype value ∧ e = ⟨subtype, (Amount.ofJson? value).getD (.whole 0), id⟩ := by
  cases body <;> simp [entry, Entry.action?, eq_comm]

lemma logical?_entry_eq_some_iff {e : LogicalEntry} :
    (body.entry id).logical? = some e ↔ ∃ subtype, body = .logical subtype ∧ e = ⟨subtype, id⟩ := by
  cases body <;> simp [entry, Entry.logical?, eq_comm]

lemma kind_eq_action_iff : body.kind = .action ↔ ∃ subtype value, body = .action subtype value := by
  cases body <;> simp [kind]

end Body

namespace RuleNode

lemma checkId_rule (r : RuleNode) : (Node.rule r).checkId = .valid r.id := rfl

lemma get?_of_ne_id {key : String} (r : RuleNode) (hne : "id" ≠ key) :
    (Node.rule r).get? key = r.body.fields.get? key := by
  simp [Node.get?, Node.fields, fields, hne]

/-- The size of an action that fits is a number. -/
lemma ofJson?_of_admits {subtype : ActionSubtype} {value : Json} (h : subtype.admits value = true) :
    ∃ a, Amount.ofJson? value = some a := by
  cases value with
  | int n => exact ⟨_, rfl⟩
  | float x => exact ⟨_, rfl⟩
  | _ => cases subtype <;> cases h

theorem compile_rule (r : RuleNode) : (Node.rule r).compile = .ok (r.body.entry r.id) := by
  have hkind := Node.kind?_rule r
  have hsubtype := r.get?_of_ne_id (show "id" ≠ "subtype" by decide)
  have hoperator := r.get?_of_ne_id (show "id" ≠ "operator" by decide)
  have hvalue := r.get?_of_ne_id (show "id" ≠ "value" by decide)
  have hfit := r.bodyFits
  cases hbody : r.body with
  | condition subtype operator value =>
    rw [hbody] at hsubtype hoperator hvalue
    have hknown := Node.knownSubtype_of_get? hsubtype (ConditionSubtype.ofWord?_word subtype)
    have hop := Node.needed_of_get? hoperator
    have hval := Node.needed_of_get? hvalue
    simp only [Node.compile, hkind, kind, hbody, Body.kind, hknown, hop, hval, checkId_rule]
    rfl
  | action subtype value =>
    rw [hbody] at hsubtype hvalue hfit
    obtain ⟨a, ha⟩ := ofJson?_of_admits (Body.fault?_action_eq_none_iff.mp hfit)
    have hknown := Node.knownSubtype_of_get? hsubtype (ActionSubtype.ofWord?_word subtype)
    have hval := Node.needed_of_get? hvalue
    have hamount : Check.amount value = .valid a := by simp [Check.amount, ha]
    simp only [Node.compile, hkind, kind, hbody, Body.kind, hknown, hval, checkId_rule,
      Body.entry, ha]
    show Node.entryOf _ ((_ <$> (Check.amount value).under "value") <*> _) = _
    rw [hamount]
    rfl
  | logical subtype =>
    rw [hbody] at hsubtype
    have hknown := Node.knownSubtype_of_get? hsubtype (LogicalSubtype.ofWord?_word subtype)
    simp only [Node.compile, hkind, kind, hbody, Body.kind, hknown, checkId_rule]
    rfl

lemma mapM_compile (rs : List RuleNode) :
    (rs.map Node.rule).mapM Node.compile = .ok (rs.map fun r => r.body.entry r.id) := by
  induction rs with
  | nil => rfl
  | cons r rs ih =>
    rw [List.map_cons, List.mapM_cons, compile_rule, ih]
    rfl

end RuleNode

lemma CompileFault.ofChecked_eq_ok_iff {α : Type} {c : Checked α} {a : α} :
    CompileFault.ofChecked c = .ok a ↔ c = .valid a := by
  cases c <;> simp [CompileFault.ofChecked]

/-- Where at most one element passes a test, the last that passes is the one that does. -/
lemma Rule.lastWith?_eq_some_iff {α : Type} {p : α → Bool} {xs : List α} {x : α}
    (hunique : ∀ y ∈ xs, ∀ z ∈ xs, p y = true → p z = true → y = z) :
    lastWith? p xs = some x ↔ x ∈ xs ∧ p x = true := by
  unfold lastWith?
  constructor
  · intro hx
    exact ⟨by simpa using List.mem_of_find?_eq_some hx, List.find?_some hx⟩
  · rintro ⟨hmem, hx⟩
    obtain ⟨y, hy⟩ : ∃ y, xs.reverse.find? p = some y := by
      refine Option.ne_none_iff_exists'.mp fun hnone => ?_
      exact List.find?_eq_none.mp hnone x (List.mem_reverse.mpr hmem) hx
    have hymem : y ∈ xs := by simpa using List.mem_of_find?_eq_some hy
    rw [hy, hunique y hymem x hmem (List.find?_some hy) hx]

namespace Graph
variable {g : Graph} {metadata : RuleMetadata} {now : DateTime} {rule : Rule} {id s t : String}
  {body body' : Body}

/-- A node with this id and body is there. -/
def BodyAt (g : Graph) (id : String) (body : Body) : Prop :=
  ∃ r, g.node? (.text id) = some (.rule r) ∧ r.body = body

lemma BodyAt.unique (h : g.BodyAt id body) (h' : g.BodyAt id body') : body = body' := by
  obtain ⟨r, hr, rfl⟩ := h
  obtain ⟨r', hr', rfl⟩ := h'
  rw [hr] at hr'
  cases hr'
  rfl

lemma BodyAt.kindAt (h : g.BodyAt id body) : g.KindAt id body.kind := by
  obtain ⟨r, hr, rfl⟩ := h
  exact ⟨.rule r, hr, Node.kind?_rule r⟩

lemma KeepsRules.exists_bodyAt {kind : Kind} (hg : g.KeepsRules) (h : g.KindAt id kind) :
    ∃ body, g.BodyAt id body ∧ body.kind = kind := by
  obtain ⟨n, hn, hkind⟩ := h
  obtain ⟨r, rfl⟩ := hg n (node?_eq_some hn).1
  rw [Node.kind?_rule] at hkind
  exact ⟨r.body, ⟨r, hn, rfl⟩, Option.some.inj hkind⟩

/-! ### Compiling -/

/-- The parts of a rule that come from its graph. -/
lemma lists_of_compile (hok : g.compile metadata now = .ok rule) :
    ∃ entries, g.nodes.mapM Node.compile = .ok entries ∧
      rule.conditions = entries.filterMap Entry.condition? ∧
      rule.actions = entries.filterMap Entry.action? ∧
      rule.logicals = entries.filterMap Entry.logical? ∧
      rule.links = g.connections.map Link.ofConnection := by
  obtain ⟨entries, hentries, hrest⟩ := bind_eq_ok_iff.mp hok
  obtain ⟨salience, _, hrule⟩ := bind_eq_ok_iff.mp hrest
  obtain rfl := Except.ok.inj hrule
  exact ⟨entries, hentries, rfl, rfl, rfl, rfl⟩

/-- Only the salience can stop a graph of checked nodes from being compiled. -/
theorem KeepsRules.exists_compile_iff (hg : g.KeepsRules) :
    (∃ rule, g.compile metadata now = .ok rule) ↔
      ∃ salience, Check.whole metadata.salience = .valid salience := by
  obtain ⟨rs, hrs⟩ := hg.exists_map
  constructor
  · rintro ⟨rule, hok⟩
    obtain ⟨entries, _, hrest⟩ := bind_eq_ok_iff.mp hok
    obtain ⟨salience, hsalience, _⟩ := bind_eq_ok_iff.mp hrest
    exact ⟨salience, by simpa [CompileFault.ofChecked_eq_ok_iff] using hsalience⟩
  · rintro ⟨salience, hsalience⟩
    have hentries := RuleNode.mapM_compile rs
    rw [← hrs] at hentries
    have hchecked : CompileFault.ofChecked ((Check.whole metadata.salience).under "salience") =
        .ok salience := by
      simpa [CompileFault.ofChecked_eq_ok_iff] using hsalience
    exact ⟨_, bind_eq_ok_iff.mpr ⟨_, hentries, bind_eq_ok_iff.mpr ⟨_, hchecked, rfl⟩⟩⟩

/-- The entries are what the nodes become. -/
lemma KeepsRules.mem_entries_iff {entries : List Entry} {e : Entry} (hg : g.KeepsRules)
    (hentries : g.nodes.mapM Node.compile = .ok entries) :
    e ∈ entries ↔ ∃ r, .rule r ∈ g.nodes ∧ r.body.entry r.id = e := by
  obtain ⟨rs, hrs⟩ := hg.exists_map
  rw [hrs, RuleNode.mapM_compile] at hentries
  obtain rfl := Except.ok.inj hentries
  simp [hrs]

lemma mem_entries_iff {entries : List Entry} {e : Entry} (hwell : g.WellFormed)
    (hrules : g.KeepsRules) (hentries : g.nodes.mapM Node.compile = .ok entries) :
    e ∈ entries ↔ ∃ id body, g.BodyAt id body ∧ body.entry id = e := by
  rw [hrules.mem_entries_iff hentries]
  constructor
  · rintro ⟨r, hr, he⟩
    exact ⟨r.id, r.body, ⟨r, node?_key hwell.keys_nodup hr, rfl⟩, he⟩
  · rintro ⟨id, body, ⟨r, hr, rfl⟩, he⟩
    obtain ⟨hmem, hkey⟩ := node?_eq_some hr
    obtain rfl := NodeKey.text.inj hkey
    exact ⟨r, hmem, he⟩

/-- What is picked from the entries comes from the bodies that are there. -/
lemma mem_filterMap_entries_iff {α : Type} {pick : Entry → Option α} {entries : List Entry} {a : α}
    (hg : g.Attainable) (hentries : g.nodes.mapM Node.compile = .ok entries) :
    a ∈ entries.filterMap pick ↔ ∃ id body, g.BodyAt id body ∧ pick (body.entry id) = some a := by
  rw [List.mem_filterMap]
  constructor
  · rintro ⟨e, he, ha⟩
    obtain ⟨id, body, hbody, rfl⟩ := (mem_entries_iff hg.wellFormed hg.keepsRules hentries).mp he
    exact ⟨id, body, hbody, ha⟩
  · rintro ⟨id, body, hbody, ha⟩
    have he := (mem_entries_iff hg.wellFormed hg.keepsRules hentries).mpr ⟨id, body, hbody, rfl⟩
    exact ⟨_, he, ha⟩

/-! ### Looking up -/

/-- Ids are distinct, so what is looked up by an id is picked from the body that is there. -/
lemma lookup_eq_some_iff {α : Type} {pick : Entry → Option α} {idOf : α → String}
    {entries : List Entry} {a : α} (hg : g.Attainable)
    (hentries : g.nodes.mapM Node.compile = .ok entries)
    (hid : ∀ (i : String) (body : Body) (a : α), pick (body.entry i) = some a → idOf a = i) :
    Rule.lastWith? (fun a => idOf a == id) (entries.filterMap pick) = some a ↔
      ∃ body, g.BodyAt id body ∧ pick (body.entry id) = some a := by
  rw [Rule.lastWith?_eq_some_iff]
  · rw [mem_filterMap_entries_iff hg hentries]
    constructor
    · rintro ⟨⟨i, body, hbody, ha⟩, hsame⟩
      obtain rfl : i = id := (hid i body a ha).symm.trans (beq_iff_eq.mp hsame)
      exact ⟨body, hbody, ha⟩
    · rintro ⟨body, hbody, ha⟩
      exact ⟨⟨id, body, hbody, ha⟩, beq_iff_eq.mpr (hid id body a ha)⟩
  · intro y hy z hz hyid hzid
    obtain ⟨i, body, hbody, hpick⟩ := (mem_filterMap_entries_iff hg hentries).mp hy
    obtain ⟨j, body', hbody', hpick'⟩ := (mem_filterMap_entries_iff hg hentries).mp hz
    obtain rfl : i = id := (hid i body y hpick).symm.trans (beq_iff_eq.mp hyid)
    obtain rfl : j = i := (hid j body' z hpick').symm.trans (beq_iff_eq.mp hzid)
    obtain rfl := hbody.unique hbody'
    exact Option.some.inj (hpick.symm.trans hpick')

theorem condition?_eq_some_iff {e : ConditionEntry} (hg : g.Attainable)
    (hok : g.compile metadata now = .ok rule) :
    rule.condition? id = some e ↔ ∃ subtype operator value,
      g.BodyAt id (.condition subtype operator value) ∧
        e = ⟨subtype.compiled, operator.word, value, id⟩ := by
  obtain ⟨entries, hentries, hconditions, -, -, -⟩ := lists_of_compile hok
  have hid : ∀ (i : String) (body : Body) (e : ConditionEntry),
      (body.entry i).condition? = some e → e.id = i := by
    intro i body e he
    obtain ⟨_, _, _, _, rfl⟩ := Body.condition?_entry_eq_some_iff.mp he
    rfl
  unfold Rule.condition?
  rw [hconditions, lookup_eq_some_iff hg hentries hid]
  simp only [Body.condition?_entry_eq_some_iff]
  constructor
  · rintro ⟨_, hbody, subtype, operator, value, rfl, rfl⟩
    exact ⟨subtype, operator, value, hbody, rfl⟩
  · rintro ⟨subtype, operator, value, hbody, rfl⟩
    exact ⟨_, hbody, subtype, operator, value, rfl, rfl⟩

theorem logical?_eq_some_iff {e : LogicalEntry} (hg : g.Attainable)
    (hok : g.compile metadata now = .ok rule) :
    rule.logical? id = some e ↔ ∃ subtype, g.BodyAt id (.logical subtype) ∧ e = ⟨subtype, id⟩ := by
  obtain ⟨entries, hentries, -, -, hlogicals, -⟩ := lists_of_compile hok
  have hid : ∀ (i : String) (body : Body) (e : LogicalEntry),
      (body.entry i).logical? = some e → e.id = i := by
    intro i body e he
    obtain ⟨_, _, rfl⟩ := Body.logical?_entry_eq_some_iff.mp he
    rfl
  unfold Rule.logical?
  rw [hlogicals, lookup_eq_some_iff hg hentries hid]
  simp only [Body.logical?_entry_eq_some_iff]
  constructor
  · rintro ⟨_, hbody, subtype, rfl, rfl⟩
    exact ⟨subtype, hbody, rfl⟩
  · rintro ⟨subtype, hbody, rfl⟩
    exact ⟨_, hbody, subtype, rfl, rfl⟩

theorem mem_conditions_iff {e : ConditionEntry} (hg : g.Attainable)
    (hok : g.compile metadata now = .ok rule) :
    e ∈ rule.conditions ↔ ∃ id subtype operator value,
      g.BodyAt id (.condition subtype operator value) ∧
        e = ⟨subtype.compiled, operator.word, value, id⟩ := by
  obtain ⟨entries, hentries, hconditions, -, -, -⟩ := lists_of_compile hok
  rw [hconditions, mem_filterMap_entries_iff hg hentries]
  simp only [Body.condition?_entry_eq_some_iff]
  constructor
  · rintro ⟨id, _, hbody, subtype, operator, value, rfl, rfl⟩
    exact ⟨id, subtype, operator, value, hbody, rfl⟩
  · rintro ⟨id, subtype, operator, value, hbody, rfl⟩
    exact ⟨id, _, hbody, subtype, operator, value, rfl, rfl⟩

theorem any_action_iff (hg : g.Attainable) (hok : g.compile metadata now = .ok rule) :
    (rule.actions.any fun e => e.id == id) = true ↔ g.KindAt id .action := by
  obtain ⟨entries, hentries, -, hactions, -, -⟩ := lists_of_compile hok
  simp only [List.any_eq_true, beq_iff_eq, hactions, mem_filterMap_entries_iff hg hentries,
    Body.action?_entry_eq_some_iff]
  constructor
  · rintro ⟨_, ⟨id, _, hbody, subtype, value, rfl, rfl⟩, rfl⟩
    exact hbody.kindAt
  · intro hkind
    obtain ⟨body, hbody, hkind⟩ := hg.keepsRules.exists_bodyAt hkind
    obtain ⟨subtype, value, rfl⟩ := Body.kind_eq_action_iff.mp hkind
    exact ⟨_, ⟨id, _, hbody, subtype, value, rfl, rfl⟩, rfl⟩

/-- Of the links into an input there is only one, so the last of them is what feeds it. -/
theorem source?_eq_some_iff {input : String} (hg : g.Attainable)
    (hok : g.compile metadata now = .ok rule) :
    rule.source? t input = some s ↔ g.Feeds s t input := by
  obtain ⟨_, _, -, -, -, hlinks⟩ := lists_of_compile hok
  have hunique : ∀ l ∈ rule.links, ∀ l' ∈ rule.links, (l.target == t && l.input == input) = true →
      (l'.target == t && l'.input == input) = true → l = l' := by
    rw [hlinks]
    intro l hl l' hl' hinto hinto'
    obtain ⟨c, hc, rfl⟩ := List.mem_map.mp hl
    obtain ⟨c', hc', rfl⟩ := List.mem_map.mp hl'
    simp only [Link.ofConnection, Bool.and_eq_true, beq_iff_eq] at hinto hinto'
    have hsame : (c.target, c.input) = (c'.target, c'.input) := by
      rw [hinto.1, hinto.2, hinto'.1, hinto'.2]
    rw [List.inj_on_of_nodup_map hg.wellFormed.inputs_nodup hc hc' hsame]
  unfold Rule.source?
  simp only [Option.map_eq_some_iff, Rule.lastWith?_eq_some_iff hunique]
  simp only [hlinks, List.mem_map, Bool.and_eq_true, beq_iff_eq]
  constructor
  · rintro ⟨_, ⟨⟨c, hc, rfl⟩, htarget, hinput⟩, hsource⟩
    exact ⟨c, hc, hsource, htarget, hinput⟩
  · rintro ⟨c, hc, hsource, htarget, hinput⟩
    exact ⟨_, ⟨⟨c, hc, rfl⟩, htarget, hinput⟩, hsource⟩

/-! ### The sample -/

def sampleMetadata : RuleMetadata := { RuleMetadata.standard (.int 5) with name := "Gold" }

def sampleNow : DateTime := ⟨⟨2025, 3, 1, by decide⟩, ⟨9, 30, 0, 0, by decide⟩, none⟩

def sampleRule : Rule where
  name := "Gold"
  salience := 5
  stackable := true
  active := true
  validFrom := none
  validUntil := none
  conditions := [⟨.quantity, "less_than", .int 3, "few"⟩,
    ⟨.customerTier, "equals", .str "gold", "gold"⟩]
  actions := [⟨.percentageDiscount, .whole 10, "off"⟩]
  logicals := [⟨.or, "either"⟩]
  links := [⟨"few", "either", "condition", "a"⟩, ⟨"gold", "either", "condition", "b"⟩,
    ⟨"either", "off", "result", "condition"⟩]
  createdAt := sampleNow.orUtc

def sampleTree : ConditionTree :=
  .gate .or [.leaf .quantity "less_than" (.int 3), .leaf .customerTier "equals" (.str "gold")]

lemma compile_sample : sample.compile sampleMetadata sampleNow = .ok sampleRule := rfl

lemma tree_sampleRule : sampleRule.tree "off" = .ok sampleTree := by
  cbv

end Graph
end Promotion
