import Promotion.Proofs.Graph.Order
import Promotion.Proofs.Json.Wholeness
import Promotion.Proofs.Rule.Wire

/-! Rules that can be printed. All that a rule holds comes from its graph and its metadata, so that
its document and its trees hold half of a pair on its own, or a number with too many digits, only if
the document of the graph does. -/
namespace Promotion
open Json (Tame tame_str_iff tame_int_iff tame_arr_iff tame_obj_iff)

variable {limits : Json.Limits} {fields : Fields} {json value other : Json} {id : String}

/-- Room for the documents of rules, and for every whole number that is read from an argument. -/
structure Json.Limits.Ample (limits : Json.Limits) : Prop where
  depth : 4 ≤ limits.depth
  digits : ∀ most ∈ limits.digits, Number.maxDigits ≤ most

lemma Fields.mem_of_get? {key : String} (h : fields.get? key = some value) :
    (key, value) ∈ fields := by
  unfold Fields.get? at h
  obtain ⟨⟨k, v⟩, hfound, rfl⟩ := Option.map_eq_some_iff.mp h
  obtain rfl : k = key := by simpa using List.find?_some hfound
  exact List.mem_of_find?_eq_some hfound

lemma tame_of_get? {key : String} (hfields : (Json.obj fields).Everywhere (Tame limits))
    (h : fields.get? key = some value) : value.Everywhere (Tame limits) :=
  (tame_obj_iff.mp hfields).2 _ (Fields.mem_of_get? h)

lemma tame_valueOr (hfields : (Json.obj fields).Everywhere (Tame limits))
    (hother : other.Everywhere (Tame limits)) :
    (valueOr fields other).Everywhere (Tame limits) := by
  unfold valueOr
  cases hget : fields.get? "value" with
  | none => exact hother
  | some value =>
    have hvalue := tame_of_get? hfields hget
    cases value <;> first | exact hother | exact hvalue

/-- The numbers that stand for missing values are short. -/
lemma tame_int_of_short {n : Int} (hlimits : limits.Ample)
    (h : (Text.decimal n.natAbs).length ≤ Number.maxDigits) :
    (Json.int n).Everywhere (Tame limits) :=
  tame_int_iff.mpr fun most hmost => h.trans (hlimits.digits most hmost)

lemma ConditionSubtype.tame_standIn (hlimits : limits.Ample) (subtype : ConditionSubtype) :
    subtype.standIn.Everywhere (Tame limits) := by
  cases subtype <;> first | exact ⟨trivial, trivial⟩ | exact tame_int_of_short hlimits (by decide)

lemma ActionSubtype.tame_standIn (hlimits : limits.Ample) (subtype : ActionSubtype) :
    subtype.standIn.Everywhere (Tame limits) := by
  cases subtype <;> exact tame_int_of_short hlimits (by decide)

/-- The value in a body, if there is one, is tame. -/
def Body.Tame (limits : Json.Limits) : Body → Prop
  | .condition _ _ value => value.Everywhere (Json.Tame limits)
  | .action _ value => value.Everywhere (Json.Tame limits)
  | .logical _ => True

lemma Spells.tame {body : Body} (h : Spells fields id body) (hlimits : limits.Ample)
    (hfields : (Json.obj fields).Everywhere (Tame limits)) : body.Tame limits := by
  cases h with
  | condition _ _ _ _ _ => exact tame_valueOr hfields (ConditionSubtype.tame_standIn hlimits _)
  | action _ _ _ => exact tame_valueOr hfields (ActionSubtype.tame_standIn hlimits _)
  | logical _ _ => trivial

/-- A text under a key of a tame object has no half of a pair on its own. -/
lemma whole_of_get? {key text : String} (hfields : (Json.obj fields).Everywhere (Tame limits))
    (h : ∃ json, fields.get? key = some json ∧ json = .str text) : Text.holdsHalf text = false := by
  obtain ⟨_, hget, rfl⟩ := h
  exact tame_str_iff.mp (tame_of_get? hfields hget)

/-- The names in a link are those in the data of its connection. -/
lemma Link.tame_of_ofJson {c : Connection} (h : Connection.ofJson json = .valid c)
    (hjson : json.Everywhere (Tame limits)) :
    (Link.ofConnection c).toJson.Everywhere (Tame limits) := by
  have hkeys : ∀ key ∈ ["from", "to", "fromOutput", "toInput"], Text.holdsHalf key = false := by
    decide
  unfold Connection.ofJson Check.model at h
  split at h
  · simp only [Connection.ofFields, Checked.seq_eq_valid_iff, Checked.map_eq_valid_iff,
      Check.required_eq_valid_iff, Check.text_eq_valid_iff] at h
    obtain ⟨_, input, ⟨_, target, ⟨_, output, ⟨_, hsource, rfl⟩, houtput, rfl⟩, htarget, rfl⟩,
      hinput, rfl⟩ := h
    refine tame_obj_iff.mpr ⟨hkeys, ?_⟩
    simp [ofConnection, tame_str_iff, whole_of_get? hjson hsource, whole_of_get? hjson houtput,
      whole_of_get? hjson htarget, whole_of_get? hjson hinput]
  · exact absurd h (Checked.reject_ne_valid _ _)

lemma exists_of_mem_forall₂ {α β : Type} {R : α → β → Prop} {xs : List α} {ys : List β} {y : β}
    (h : List.Forall₂ R xs ys) (hy : y ∈ ys) : ∃ x ∈ xs, R x y := by
  induction h with
  | nil => cases hy
  | cons hfirst _ ih =>
    rcases List.mem_cons.mp hy with rfl | hrest
    · exact ⟨_, List.mem_cons_self, hfirst⟩
    · obtain ⟨x, hx, hxy⟩ := ih hrest
      exact ⟨x, List.mem_cons_of_mem _ hx, hxy⟩

/-- What goes from a graph into its rules is tame. -/
structure Graph.Tame (limits : Json.Limits) (g : Graph) : Prop where
  bodies : ∀ r, .rule r ∈ g.nodes → r.body.Tame limits
  links : ∀ c ∈ g.connections, (Link.ofConnection c).toJson.Everywhere (Json.Tame limits)

lemma tame_of_listIn? {payload : Json} {key : String} {items : List Json}
    (h : Graph.listIn? payload key = some items) (hpayload : payload.Everywhere (Tame limits)) :
    ∀ item ∈ items, item.Everywhere (Tame limits) := by
  unfold Graph.listIn? at h
  split at h
  · next fields =>
    cases hget : Fields.get? fields key with
    | none =>
      obtain rfl : [] = items := by simpa [hget, Json.items?] using h
      exact List.forall_mem_nil _
    | some value =>
      have hvalue := tame_of_get? hpayload hget
      rw [hget, Option.getD_some] at h
      cases value with
      | arr xs =>
        obtain rfl : xs = items := by simpa [Json.items?] using h
        exact tame_arr_iff.mp hvalue
      | _ => simp [Json.items?] at h
  · cases h

/-- The graph of a tame document is tame. -/
lemma Graph.tame_of_ofPayload {limit payload : Json} {g : Graph} (hlimits : limits.Ample)
    (hpayload : payload.Everywhere (Json.Tame limits)) (hok : ofPayload limit payload = .ok g) :
    g.Tame limits := by
  cases hnodes : listIn? payload "nodes" with
  | none => simp [ofPayload, load, hnodes] at hok
  | some nodes =>
    cases hconnections : listIn? payload "connections" with
    | none => simp [ofPayload, load, hnodes, hconnections] at hok
    | some connections =>
      obtain ⟨rs, cs, hreads, hlinks, -, -, rfl⟩ :=
        (ofPayload_eq_ok_iff hnodes hconnections).mp hok
      constructor
      · intro r hr
        obtain ⟨r', hmem, hsame⟩ := List.mem_map.mp hr
        obtain rfl := Node.rule.inj hsame
        obtain ⟨json, hjson, hread⟩ := exists_of_mem_forall₂ hreads hmem
        obtain ⟨fields, rfl, hspells⟩ := RuleNode.parse_eq_valid_iff.mp hread
        exact hspells.tame hlimits (tame_of_listIn? hnodes hpayload _ hjson)
      · intro c hc
        obtain ⟨json, hjson, hread⟩ := exists_of_mem_forall₂ hlinks hc
        exact Link.tame_of_ofJson hread (tame_of_listIn? hconnections hpayload _ hjson)

/-! ### Rules -/

/-- What goes from a rule into its document is tame. -/
structure Rule.Tame (limits : Json.Limits) (r : Rule) : Prop where
  name : Text.holdsHalf r.name = false
  salience : Json.KeepsLimit limits.digits r.salience
  conditions : ∀ e ∈ r.conditions, e.toJson.Everywhere (Json.Tame limits)
  actions : ∀ e ∈ r.actions, e.toJson.Everywhere (Json.Tame limits)
  logicals : ∀ e ∈ r.logicals, e.toJson.Everywhere (Json.Tame limits)
  links : ∀ l ∈ r.links, l.toJson.Everywhere (Json.Tame limits)

lemma Date.whole_text (d : Date) : Text.holdsHalf d.text = false :=
  Text.Plain.whole (by simp [chars, Text.plain_padded, Text.isPlain])

lemma whole_defaultName (now : DateTime) : Text.holdsHalf (defaultName now) = false := by
  have hstart : Text.holdsHalf "Rule_" = false := by decide
  rw [defaultName, Text.holdsHalf_append, hstart, Bool.false_or]
  exact (Json.plain_intText _).whole

/-- The entry of a tame body. -/
lemma Body.Tame.entry {body : Body} (h : body.Tame limits) (hlimits : limits.Ample)
    (hid : Text.holdsHalf id = false) :
    (body.entry id).toJson.Everywhere (Json.Tame limits) := by
  cases body with
  | condition subtype operator value =>
    have hkeys : ∀ key ∈ ["type", "operator", "value", "id"], Text.holdsHalf key = false := by
      decide
    have htype : Text.holdsHalf subtype.compiled.word = false := by cases subtype <;> decide
    have hoperator : Text.holdsHalf operator.word = false := by cases operator <;> decide
    have hvalue : value.Everywhere (Json.Tame limits) := h
    exact tame_obj_iff.mpr ⟨hkeys, by simp [tame_str_iff, htype, hoperator, hvalue, hid]⟩
  | action subtype value =>
    have hkeys : ∀ key ∈ ["type", "value", "id"], Text.holdsHalf key = false := by decide
    have htype : Text.holdsHalf subtype.word = false := by cases subtype <;> decide
    have hvalue :
        ((Amount.ofJson? value).getD (.whole 0)).toJson.Everywhere (Json.Tame limits) := by
      cases value <;> first | exact h | exact tame_int_of_short hlimits (by decide)
    exact tame_obj_iff.mpr ⟨hkeys, by simp [tame_str_iff, htype, hvalue, hid]⟩
  | logical subtype =>
    have hkeys : ∀ key ∈ ["type", "id"], Text.holdsHalf key = false := by decide
    have htype : Text.holdsHalf subtype.word = false := by cases subtype <;> decide
    exact tame_obj_iff.mpr ⟨hkeys, by simp [tame_str_iff, htype, hid]⟩

/-- A rule of a tame graph is tame, if the metadata are. -/
lemma Graph.Tame.compile {g : Graph} {metadata : RuleMetadata} {now : DateTime} {rule : Rule}
    (hg : g.Tame limits) (hrules : g.KeepsRules) (hlimits : limits.Ample)
    (hname : Text.holdsHalf metadata.name = false)
    (hsalience : ∀ n, Check.whole metadata.salience = .valid n → Json.KeepsLimit limits.digits n)
    (hok : g.compile metadata now = .ok rule) : rule.Tame limits := by
  obtain ⟨entries, hentries, hrest⟩ := bind_eq_ok_iff.mp hok
  obtain ⟨salience, hwhole, hrule⟩ := bind_eq_ok_iff.mp hrest
  obtain rfl := Except.ok.inj hrule
  rw [CompileFault.ofChecked_eq_ok_iff, Checked.under_eq_valid_iff] at hwhole
  have hentry : ∀ entry ∈ entries, entry.toJson.Everywhere (Json.Tame limits) := by
    intro entry hmem
    obtain ⟨r, hr, rfl⟩ := (hrules.mem_entries_iff hentries).mp hmem
    exact (hg.bodies r hr).entry hlimits (isNodeId_iff.mp r.idFits).2
  constructor
  case name =>
    dsimp only
    split
    · exact whole_defaultName _
    · exact hname
  case salience => exact hsalience salience hwhole
  case links => exact List.forall_mem_map.mpr hg.links
  all_goals
    intro e he
    obtain ⟨entry, hmem, hpick⟩ := List.mem_filterMap.mp he
    have htame := hentry entry hmem
    cases entry <;> simp [Entry.condition?, Entry.action?, Entry.logical?] at hpick
    exact hpick ▸ htame

namespace Rule
variable {r : Rule} {stamp : String} {path : List String}

lemma Tame.document (hr : r.Tame limits) (hstamp : Text.holdsHalf stamp = false) :
    (r.document stamp).Everywhere (Json.Tame limits) := by
  have hkeys : ∀ key ∈ ["name", "salience", "stackable", "active", "valid_from", "valid_until",
      "conditions", "actions", "logicalNodes", "connections", "createdAt"],
      Text.holdsHalf key = false := by decide
  have hday : ∀ d? : Option Date,
      (Json.ofOption (fun d => .str d.text) d?).Everywhere (Json.Tame limits) := by
    intro d?
    cases d? with
    | none => exact ⟨trivial, trivial⟩
    | some d => exact tame_str_iff.mpr d.whole_text
  refine tame_obj_iff.mpr ⟨hkeys, ?_⟩
  simp only [List.forall_mem_cons, List.not_mem_nil, false_implies, implies_true, and_true,
    tame_str_iff, tame_int_iff, tame_arr_iff, List.forall_mem_map]
  exact ⟨hr.name, hr.salience, ⟨trivial, trivial⟩, ⟨trivial, trivial⟩, hday _, hday _,
    hr.conditions, hr.actions, hr.logicals, hr.links, hstamp⟩

lemma Tame.leaf (hr : r.Tame limits) {e : ConditionEntry} (he : e ∈ r.conditions) :
    e.leaf.toJson.Everywhere (Json.Tame limits) := by
  obtain ⟨hkeys, hvalues⟩ := tame_obj_iff.mp (hr.conditions e he)
  have hfewer : [("type", Json.str e.type.word), ("operator", .str e.operator),
      ("value", e.value)] ⊆ [("type", Json.str e.type.word), ("operator", .str e.operator),
        ("value", e.value), ("id", .str e.id)] := by simp
  exact tame_obj_iff.mpr ⟨fun key hkey => hkeys key (List.map_subset _ hfewer hkey),
    fun field hfield => hvalues field (hfewer hfield)⟩

lemma tame_gate {type : LogicalSubtype} {parts : List ConditionTree}
    (h : ∀ t ∈ parts, t.toJson.Everywhere (Json.Tame limits)) :
    (ConditionTree.gate type parts).toJson.Everywhere (Json.Tame limits) := by
  have hparts : ∀ json ∈ ConditionTree.partsToJson parts, json.Everywhere (Json.Tame limits) := by
    induction parts with
    | nil => exact List.forall_mem_nil _
    | cons t parts ih =>
      obtain ⟨hfirst, hrest⟩ := List.forall_mem_cons.mp h
      exact List.forall_mem_cons.mpr ⟨hfirst, ih hrest⟩
  have hword : Text.holdsHalf type.word = false := by cases type <;> decide
  exact tame_obj_iff.mpr ⟨List.forall_mem_singleton.mpr hword,
    List.forall_mem_singleton.mpr (tame_arr_iff.mpr hparts)⟩

lemma Tame.resolve (hr : r.Tame limits) {t : ConditionTree} (h : r.resolve path id = .ok t) :
    t.toJson.Everywhere (Json.Tame limits) := by
  fun_induction r.resolve path id generalizing t with
  | case2 path id _ e he =>
    obtain rfl := Except.ok.inj h
    have hmem : e ∈ r.conditions := by
      simpa using List.mem_of_find?_eq_some he
    exact hr.leaf hmem
  | case8 path id _ _ e _ a ha first hfirst b hb second hsecond ihfirst ihsecond =>
    obtain rfl := Except.ok.inj h
    exact tame_gate (by simp [ihfirst hfirst, ihsecond hsecond])
  | _ => cases h

lemma Tame.tree (hr : r.Tame limits) {action : String} {t : ConditionTree}
    (h : r.tree action = .ok t) : t.toJson.Everywhere (Json.Tame limits) := by
  unfold Rule.tree at h
  split_ifs at h
  split at h
  · exact hr.resolve h
  · split at h
    · cases h
    · obtain rfl := Except.ok.inj h
      exact tame_gate (List.forall_mem_map.mpr fun e he => hr.leaf he)

lemma mem_actionIds_iff : id ∈ r.actionIds ↔ ∃ e ∈ r.actions, e.id = id := by
  have hfold : ∀ ids known : List String, id ∈ ids.foldl
      (fun ids id => if ids.contains id then ids else ids ++ [id]) known ↔
        id ∈ known ∨ id ∈ ids := by
    intro ids
    induction ids with
    | nil => simp
    | cons first ids ih =>
      intro known
      rw [List.foldl_cons, ih]
      by_cases hfirst : first ∈ known
      · simp only [List.contains_eq_mem, hfirst, decide_true, if_true, List.mem_cons]
        constructor
        · exact fun h => h.imp_right .inr
        · rintro (h | rfl | h)
          exacts [.inl h, .inl hfirst, .inr h]
      · simp [hfirst, or_assoc]
  unfold Rule.actionIds
  rw [hfold]
  simp

/-- The trees of a tame rule are tame, and so are the ids of its actions. -/
lemma Tame.trees (hr : r.Tame limits) {trees : List (String × ConditionTree)}
    (h : r.trees = .ok trees) : (treesJson trees).Everywhere (Json.Tame limits) := by
  have hentry : ∀ entry ∈ trees, Text.holdsHalf entry.1 = false ∧
      entry.2.toJson.Everywhere (Json.Tame limits) := by
    intro entry hmem
    obtain ⟨id, hid, hentry⟩ := exists_of_mem_forall₂ (forall₂_of_mapM h) hmem
    obtain ⟨tree, htree, hentry⟩ := bind_eq_ok_iff.mp hentry
    obtain rfl := Except.ok.inj hentry
    obtain ⟨e, he, rfl⟩ := mem_actionIds_iff.mp hid
    have hfield := (tame_obj_iff.mp (hr.actions e he)).2 ("id", .str e.id) (by simp)
    exact ⟨tame_str_iff.mp hfield, hr.tree htree⟩
  refine tame_obj_iff.mpr ⟨?_, ?_⟩
  · simpa [Fields.keys] using fun id tree hmem => (hentry (id, tree) hmem).1
  · exact List.forall_mem_map.mpr fun entry hmem => (hentry entry hmem).2

end Rule

end Promotion
