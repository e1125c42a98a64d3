import Promotion.Proofs.Json.Canonical
import Promotion.Proofs.Node.Grammar
import Promotion.Proofs.Rule.CreatedAt

/-! Rules that were sent and read again. The canonical text of a compiled rule leads back to that
rule, made at its time cut to the millisecond. -/
namespace Promotion

/-! ### Fields in another order -/

namespace Fields
variable {fields xs ys : Fields} {key : String} {value : Json}

lemma get?_eq_some_iff (hkeys : (keys fields).Nodup) :
    fields.get? key = some value ↔ (key, value) ∈ fields := by
  induction fields with
  | nil => simp
  | cons field fields ih =>
    obtain ⟨k, v⟩ := field
    obtain ⟨hnew, hrest⟩ := List.nodup_cons.mp hkeys
    by_cases hk : k = key
    · subst hk
      have hnot : (k, value) ∉ fields := fun hmem =>
        hnew (List.mem_map.mpr ⟨_, hmem, rfl⟩)
      simp [hnot, eq_comm]
    · have hne : ¬ key = k := fun heq => hk heq.symm
      simp [hk, hne, ih hrest]

/-- Where no key stands twice, the order of the fields does not count. -/
lemma get?_of_perm (hkeys : (keys xs).Nodup) (h : xs.Perm ys) : xs.get? key = ys.get? key := by
  ext value
  rw [get?_eq_some_iff hkeys, get?_eq_some_iff ((h.map _).nodup hkeys), h.mem_iff]

lemma get?_map_values (f : Json → Json) :
    get? (fields.map fun field => (field.1, f field.2)) key = (fields.get? key).map f := by
  induction fields with
  | nil => rfl
  | cons field fields ih =>
    obtain ⟨k, v⟩ := field
    by_cases hk : k = key
    · simp [hk]
    · simpa [hk] using ih

end Fields

/-- Sorting the keys of an object leaves each value under its key. -/
lemma Json.exists_sorted {x : Json} {fields : Fields} (hx : x = .obj fields)
    (hkeys : (Fields.keys fields).Nodup) : ∃ sorted, x.sortKeys = .obj sorted ∧
      ∀ key, Fields.get? sorted key = (fields.get? key).map sortKeys := by
  refine ⟨_, by rw [hx, sortKeys_obj], fun key => ?_⟩
  rw [← Fields.get?_map_values]
  have hperm := List.mergeSort_perm (fields.map fun field => (field.1, sortKeys field.2)) byKey
  refine (Fields.get?_of_perm ?_ hperm.symm).symm
  simpa [Fields.keys, Function.comp_def] using hkeys

/-! ### Fields that were written -/

namespace Check
variable {α : Type} {fields : Fields} {key first second : String} {json : Json} {a fallback : α}
  {check : Json → Checked α} {xs : List α} {f : α → Json}

lemma required_of_get? (hget : fields.get? key = some json) (h : check json = .valid a) :
    required fields key check = .valid a :=
  required_eq_valid_iff.mpr ⟨json, hget, h⟩

lemma optional_of_get? (hget : fields.get? key = some json) (h : check json = .valid a) :
    optional fields key fallback check = .valid a :=
  optional_eq_valid_iff.mpr (.inl ⟨json, hget, h⟩)

/-- A field that goes by its first name has no use for the second. -/
lemma withAlias_of_get? (hget : fields.get? first = some json) :
    withAlias first second fields = fields := by
  simp [withAlias, hget]

lemma word_of_ofWord? {ofWord? : String → Option α} {s : String} (h : ofWord? s = some a) :
    word ofWord? (.str s) = .valid a := by
  simp [word, Json.str?, h]

lemma amount_toJson (amount : Amount) : Check.amount amount.toJson = .valid amount := by
  simp [Check.amount]

lemma date_text (d : Date) : date (.str d.text) = .valid d := by
  simp [date, Json.str?, Date.text, Calendar.readDay_chars]

lemma orNull_date (d? : Option Date) :
    orNull date (Json.ofOption (fun d => .str d.text) d?) = .valid d? := by
  cases d? with
  | none => rfl
  | some d =>
    show (date (.str d.text)).map some = _
    rw [date_text]
    rfl

lemma all_map (h : ∀ a ∈ xs, check (f a) = .valid a) (index : Nat) :
    Checked.all check index (xs.map f) = .valid xs := by
  induction xs generalizing index with
  | nil => rfl
  | cons a xs ih =>
    obtain ⟨hfirst, hrest⟩ := List.forall_mem_cons.mp h
    rw [List.map_cons, Checked.all, hfirst, ih hrest]
    rfl

lemma tuple_map (h : ∀ a ∈ xs, check (f a) = .valid a) :
    tuple check (.arr (xs.map f)) = .valid xs := all_map h 0

end Check

open Check

/-! ### Entries -/

theorem ConditionEntry.ofJson_sortKeys {e : ConditionEntry} (hvalue : e.value.sortKeys = e.value) :
    ofJson e.toJson.sortKeys = .valid e := by
  obtain ⟨sorted, hsorted, hget⟩ := Json.exists_sorted (x := e.toJson) rfl (by simp [Fields.keys])
  have htype : required sorted "type" (word ConditionType.ofWord?) = .valid e.type :=
    required_of_get? (hget _) (word_of_ofWord? e.type.ofWord?_word)
  have hoperator : required sorted "operator" text = .valid e.operator :=
    required_of_get? (hget _) rfl
  have hany : required sorted "value" anything = .valid e.value.sortKeys :=
    required_of_get? (hget _) rfl
  have hid : required sorted "id" text = .valid e.id := required_of_get? (hget _) rfl
  rw [hsorted, ofJson, model, ofFields, htype, hoperator, hany, hid, hvalue]
  rfl

lemma ConditionEntry.everywhere_toJson {e : ConditionEntry}
    (hvalue : e.value.Everywhere Json.Faithful) : e.toJson.Everywhere Json.Faithful := by
  simpa [toJson, Json.everywhere_obj_iff, Json.Faithful, Fields.keys, Json.Everywhere] using hvalue

theorem ActionEntry.ofJson_sortKeys (e : ActionEntry) : ofJson e.toJson.sortKeys = .valid e := by
  obtain ⟨sorted, hsorted, hget⟩ := Json.exists_sorted (x := e.toJson) rfl (by simp [Fields.keys])
  have hsame : e.value.toJson.sortKeys = e.value.toJson := by cases e.value <;> rfl
  have htype : required sorted "type" (word ActionSubtype.ofWord?) = .valid e.type :=
    required_of_get? (hget _) (word_of_ofWord? e.type.ofWord?_word)
  have hvalue : required sorted "value" amount = .valid e.value :=
    required_of_get? (hget _) (hsame.symm ▸ amount_toJson e.value)
  have hid : required sorted "id" text = .valid e.id := required_of_get? (hget _) rfl
  rw [hsorted, ofJson, model, ofFields, htype, hvalue, hid]
  rfl

lemma ActionEntry.everywhere_toJson {e : ActionEntry}
    (hreads : ∀ x, e.value = .real x → x.ReadsBack) : e.toJson.Everywhere Json.Faithful := by
  have hvalue : e.value.toJson.Everywhere Json.Faithful := by
    cases hvalue : e.value with
    | whole n => trivial
    | real x => exact hreads x hvalue
  simpa [toJson, Json.everywhere_obj_iff, Json.Faithful, Fields.keys, Json.Everywhere] using hvalue

theorem LogicalEntry.ofJson_sortKeys (e : LogicalEntry) : ofJson e.toJson.sortKeys = .valid e := by
  obtain ⟨sorted, hsorted, hget⟩ := Json.exists_sorted (x := e.toJson) rfl (by simp [Fields.keys])
  have htype : required sorted "type" (word LogicalSubtype.ofWord?) = .valid e.type :=
    required_of_get? (hget _) (word_of_ofWord? e.type.ofWord?_word)
  have hid : required sorted "id" text = .valid e.id := required_of_get? (hget _) rfl
  rw [hsorted, ofJson, model, ofFields, htype, hid]
  rfl

lemma LogicalEntry.everywhere_toJson (e : LogicalEntry) : e.toJson.Everywhere Json.Faithful := by
  simp [toJson, Json.everywhere_obj_iff, Json.Faithful, Fields.keys, Json.Everywhere]

theorem Link.ofJson_sortKeys (l : Link) : ofJson l.toJson.sortKeys = .valid l := by
  obtain ⟨sorted, hsorted, hget⟩ := Json.exists_sorted (x := l.toJson) rfl (by simp [Fields.keys])
  have hfrom : required sorted "from" text = .valid l.source := required_of_get? (hget _) rfl
  have hto : required sorted "to" text = .valid l.target := required_of_get? (hget _) rfl
  have houtput : required sorted "fromOutput" text = .valid l.output :=
    required_of_get? (hget _) rfl
  have hinput : required sorted "toInput" text = .valid l.input := required_of_get? (hget _) rfl
  rw [hsorted, ofJson, model, ofFields]
  simp only [withAlias_of_get? (hget "toInput"), withAlias_of_get? (hget "fromOutput"),
    withAlias_of_get? (hget "to"), withAlias_of_get? (hget "from"), hfrom, hto, houtput, hinput]
  rfl

lemma Link.everywhere_toJson (l : Link) : l.toJson.Everywhere Json.Faithful := by
  simp [toJson, Json.everywhere_obj_iff, Json.Faithful, Fields.keys, Json.Everywhere]

/-! ### Rules -/

/-- What gets through unchanged: the keys in the values of conditions are sorted, all that such a
value is made of is written faithfully, a list in it holds no further lists, and the doubles of
actions are read back. -/
structure Rule.Portable (r : Rule) : Prop where
  sorted : ∀ e ∈ r.conditions, e.value.sortKeys = e.value
  faithful : ∀ e ∈ r.conditions, e.value.Everywhere Json.Faithful
  shallow : ∀ e ∈ r.conditions, e.value.depth ≤ 1
  readsBack : ∀ e ∈ r.actions, ∀ x, e.value = .real x → x.ReadsBack

namespace Rule
variable {r : Rule} {t : DateTime} {stamp : String} {json : Json}

lemma sortKeys_map {α : Type} (f : α → Json) (xs : List α) :
    (Json.arr (xs.map f)).sortKeys = .arr (xs.map fun x => (f x).sortKeys) := by
  rw [Json.sortKeys_arr, List.map_map]
  rfl

/-- A document whose keys are sorted is read as its rule, made at the time that its text names. -/
theorem ofJson_document (hr : r.Portable) (hstamp : Calendar.readDateTime stamp = .read t) :
    ofJson (r.document stamp).sortKeys = .valid (r.madeAt t) := by
  obtain ⟨sorted, hsorted, hget⟩ := Json.exists_sorted (x := r.document stamp) rfl
    (by simp [Fields.keys])
  have hday : ∀ d? : Option Date, (Json.ofOption (fun d => .str d.text) d?).sortKeys =
      Json.ofOption (fun d => .str d.text) d? := fun d? => by cases d? <;> rfl
  have hname : required sorted "name" text = .valid r.name := required_of_get? (hget _) rfl
  have hsalience : required sorted "salience" whole = .valid r.salience :=
    required_of_get? (hget _) rfl
  have hstackable : required sorted "stackable" truth = .valid r.stackable :=
    required_of_get? (hget _) rfl
  have hactive : required sorted "active" truth = .valid r.active := required_of_get? (hget _) rfl
  have hfrom : optional sorted "valid_from" none (orNull date) = .valid r.validFrom :=
    optional_of_get? (hget _) ((hday _).symm ▸ orNull_date _)
  have huntil : optional sorted "valid_until" none (orNull date) = .valid r.validUntil :=
    optional_of_get? (hget _) ((hday _).symm ▸ orNull_date _)
  have hconditions : optional sorted "conditions" [] (tuple ConditionEntry.ofJson) =
      .valid r.conditions := by
    refine optional_of_get? ((hget _).trans (congrArg some (sortKeys_map _ _))) (tuple_map ?_)
    exact fun e he => ConditionEntry.ofJson_sortKeys (hr.sorted e he)
  have hactions : optional sorted "actions" [] (tuple ActionEntry.ofJson) = .valid r.actions := by
    refine optional_of_get? ((hget _).trans (congrArg some (sortKeys_map _ _))) (tuple_map ?_)
    exact fun e _ => e.ofJson_sortKeys
  have hlogicals : optional sorted "logicalNodes" [] (tuple LogicalEntry.ofJson) =
      .valid r.logicals := by
    refine optional_of_get? ((hget _).trans (congrArg some (sortKeys_map _ _))) (tuple_map ?_)
    exact fun e _ => e.ofJson_sortKeys
  have hlinks : optional sorted "connections" [] (tuple Link.ofJson) = .valid r.links := by
    refine optional_of_get? ((hget _).trans (congrArg some (sortKeys_map _ _))) (tuple_map ?_)
    exact fun l _ => l.ofJson_sortKeys
  have hmade : required sorted "createdAt" dateTime = .valid t :=
    required_of_get? (hget _) (by simp [dateTime, dateTimeOf?, Json.sortKeys, hstamp])
  rw [hsorted, ofJson, model, ofFields]
  simp only [withAlias_of_get? (hget "createdAt"), withAlias_of_get? (hget "logicalNodes"), hname,
    hsalience, hstackable, hactive, hfrom, huntil, hconditions, hactions, hlogicals, hlinks, hmade]
  rfl

lemma everywhere_arr_map {α : Type} {f : α → Json} {xs : List α}
    (h : ∀ a ∈ xs, (f a).Everywhere Json.Faithful) :
    (Json.arr (xs.map f)).Everywhere Json.Faithful :=
  Json.everywhere_arr_iff.mpr ⟨trivial, List.forall_mem_map.mpr h⟩

lemma everywhere_document (hr : r.Portable) (stamp : String) :
    (r.document stamp).Everywhere Json.Faithful := by
  have hday : ∀ d? : Option Date,
      (Json.ofOption (fun d => .str d.text) d?).Everywhere Json.Faithful :=
    fun d? => by cases d? <;> trivial
  have hconditions := everywhere_arr_map fun e he =>
    ConditionEntry.everywhere_toJson (hr.faithful e he)
  have hactions := everywhere_arr_map fun e he =>
    ActionEntry.everywhere_toJson (hr.readsBack e he)
  have hlogicals := everywhere_arr_map fun e (_ : e ∈ r.logicals) => e.everywhere_toJson
  have hlinks := everywhere_arr_map fun l (_ : l ∈ r.links) => l.everywhere_toJson
  refine Json.everywhere_obj_iff.mpr ⟨by simp [Json.Faithful, Fields.keys], ?_⟩
  simp only [List.forall_mem_cons, List.not_mem_nil, false_implies, implies_true, and_true]
  exact ⟨trivial, trivial, trivial, trivial, hday _, hday _, hconditions, hactions, hlogicals,
    hlinks, trivial⟩

lemma depth_arr_map_le {α : Type} {f : α → Json} {xs : List α} {n : Nat}
    (h : ∀ a ∈ xs, (f a).depth ≤ n) : (Json.arr (xs.map f)).depth ≤ n + 1 :=
  Json.depth_arr_le_iff.mpr ⟨n.succ_pos, List.forall_mem_map.mpr h⟩

/-- A document has four levels at most: itself, its lists, their entries and the list that a
condition compares with. -/
lemma depth_document_le (hshallow : ∀ e ∈ r.conditions, e.value.depth ≤ 1) (stamp : String) :
    (r.document stamp).depth ≤ 4 := by
  have hday : ∀ d? : Option Date, (Json.ofOption (fun d => .str d.text) d?).depth ≤ 3 :=
    fun d? => by cases d? <;> exact Nat.zero_le 3
  have hconditions : (Json.arr (r.conditions.map ConditionEntry.toJson)).depth ≤ 3 :=
    depth_arr_map_le fun e he => by
      simp [ConditionEntry.toJson, Json.depth, Json.depthOfFields, hshallow e he]
  have hactions : (Json.arr (r.actions.map ActionEntry.toJson)).depth ≤ 3 :=
    depth_arr_map_le fun e _ => by
      cases h : e.value <;>
        simp [ActionEntry.toJson, Amount.toJson, h, Json.depth, Json.depthOfFields]
  have hlogicals : (Json.arr (r.logicals.map LogicalEntry.toJson)).depth ≤ 3 :=
    depth_arr_map_le fun e _ => by simp [LogicalEntry.toJson, Json.depth, Json.depthOfFields]
  have hlinks : (Json.arr (r.links.map Link.toJson)).depth ≤ 3 :=
    depth_arr_map_le fun l _ => by simp [Link.toJson, Json.depth, Json.depthOfFields]
  refine Json.depth_obj_le_iff.mpr ⟨by decide, ?_⟩
  simp only [List.forall_mem_cons, List.not_mem_nil, false_implies, implies_true, and_true]
  exact ⟨Nat.zero_le 3, Nat.zero_le 3, Nat.zero_le 3, Nat.zero_le 3, hday _, hday _, hconditions,
    hactions, hlogicals, hlinks, Nat.zero_le 3⟩

/-- Where four levels are let through, a document keeps to the limits if its whole numbers do. -/
lemma keepsTo_document_iff {limits : Json.Limits} (hr : r.Portable) (hdepth : 4 ≤ limits.depth) :
    (r.document stamp).KeepsTo limits ↔
      (r.document stamp).Everywhere (Json.InLimit limits.digits) :=
  ⟨fun h => h.digits, fun h => ⟨(depth_document_le hr.shallow stamp).trans hdepth, h⟩⟩

/-! ### What does not depend on the time -/

@[simp] lemma condition?_madeAt (id : String) : (r.madeAt t).condition? id = r.condition? id := rfl

@[simp] lemma logical?_madeAt (id : String) : (r.madeAt t).logical? id = r.logical? id := rfl

@[simp] lemma source?_madeAt (id input : String) :
    (r.madeAt t).source? id input = r.source? id input := rfl

lemma resolve_madeAt (r : Rule) (t : DateTime) (path : List String) (id : String) :
    (r.madeAt t).resolve path id = r.resolve path id := by
  fun_induction r.resolve path id <;> rw [resolve]
  case case1 hpath => simp [hpath]
  case case2 hpath e he => simp [hpath, he]
  -- The lookup of a logical node keeps its equation for termination, which only `split` opens.
  all_goals
    simp_all only [dite_false, condition?_madeAt, logical?_madeAt, source?_madeAt]
    split <;> simp_all

/-- The trees of a rule do not depend on the time it was made. -/
theorem tree_madeAt (r : Rule) (t : DateTime) (action : String) :
    (r.madeAt t).tree action = r.tree action := by
  unfold tree
  simp only [source?_madeAt, resolve_madeAt]
  rfl

theorem trees_madeAt (r : Rule) (t : DateTime) : (r.madeAt t).trees = r.trees := by
  unfold trees
  simp only [tree_madeAt]
  rfl

theorem checkReady_madeAt (r : Rule) (t : DateTime) (enforceWindow : Option Bool) :
    (r.madeAt t).checkReady enforceWindow = r.checkReady enforceWindow := rfl

end Rule

/-! ### There and back -/

/-- A value without keys and doubles that holds no lists inside a list. -/
structure Json.Plain (value : Json) : Prop where
  sorted : value.sortKeys = value
  faithful : value.Everywhere Json.Faithful
  shallow : value.depth ≤ 1

lemma ConditionSubtype.Item.plain {subtype : ConditionSubtype} {value : Json}
    (h : subtype.Item value) : value.Plain ∧ value.depth = 0 := by
  cases h <;> exact ⟨⟨rfl, trivial, Nat.zero_le 1⟩, rfl⟩

/-- What a condition compares with is plain. -/
lemma ConditionSubtype.Operand.plain {subtype : ConditionSubtype} {operator : Operator}
    {value : Json} (h : subtype.Operand operator value) : value.Plain := by
  cases h with
  | list _ _ hitems =>
    refine ⟨?_, ?_, ?_⟩
    · rw [Json.sortKeys_arr,
        List.map_congr_left fun item hitem => (hitems item hitem).plain.1.sorted, List.map_id']
    · exact Json.everywhere_arr_iff.mpr
        ⟨trivial, fun item hitem => (hitems item hitem).plain.1.faithful⟩
    · exact Json.depth_arr_le_iff.mpr
        ⟨Nat.one_pos, fun item hitem => (hitems item hitem).plain.2.le⟩
  | single _ hitem => exact hitem.plain.1

namespace DateTime
variable {t : DateTime}

/-- A time that was cut to the millisecond is not cut any further. -/
lemma stampChars_cut (t : DateTime) : t.cut.stampChars = t.stampChars := by
  simp [stampChars, cut, TimeOfDay.cut, dayAndTime, TimeOfDay.chars]

end DateTime

namespace Graph
variable {g : Graph} {metadata : RuleMetadata} {now : DateTime} {rule : Rule}

/-- The conditions of a rule come from checked nodes. -/
lemma KeepsRules.plain_of_compile (hg : g.KeepsRules) (hok : g.compile metadata now = .ok rule) :
    ∀ e ∈ rule.conditions, e.value.Plain := by
  obtain ⟨entries, hentries, hconditions, -⟩ := lists_of_compile hok
  intro e he
  rw [hconditions, List.mem_filterMap] at he
  obtain ⟨_, hentry, he⟩ := he
  obtain ⟨r, -, rfl⟩ := (hg.mem_entries_iff hentries).mp hentry
  obtain ⟨subtype, operator, value, hbody, rfl⟩ := Body.condition?_entry_eq_some_iff.mp he
  have hfits := r.bodyFits
  rw [hbody] at hfits
  exact (Body.fits_condition_iff.mp hfits).2.plain

/-- Of the values in a rule, only its doubles are left to be asked for. -/
lemma KeepsRules.portable_of_compile (hg : g.KeepsRules) (hok : g.compile metadata now = .ok rule)
    (hdoubles : ∀ e ∈ rule.actions, ∀ x, e.value = .real x → x.ReadsBack) : rule.Portable := by
  have hplain := hg.plain_of_compile hok
  exact ⟨fun e he => (hplain e he).sorted, fun e he => (hplain e he).faithful,
    fun e he => (hplain e he).shallow, hdoubles⟩

/-- The canonical text of a compiled rule is read back as that rule, made at its time cut to the
millisecond; what is read has the same text, the same trees and is as ready. Where four levels are
let through, there is a text unless a whole number in the rule has too many digits. -/
theorem wire_roundTrip (limits : Json.Limits) (hg : g.KeepsRules)
    (hok : g.compile metadata now = .ok rule) (hnow : now.InYears)
    (hdoubles : ∀ e ∈ rule.actions, ∀ x, e.value = .real x → x.ReadsBack) :
    ∃ document, rule.toJson? = some document ∧
      (4 ≤ limits.depth → ((∃ text, rule.canonical? limits = some (.ok text)) ↔
        document.Everywhere (Json.InLimit limits.digits))) ∧
      ∀ text, rule.canonical? limits = some (.ok text) → ∃ json back,
        (∀ wider, limits.Wider wider → Json.readWithin wider text = .ok json) ∧
        Rule.ofJson json = .valid back ∧ back.canonical? limits = some (.ok text) ∧
        back = { rule with createdAt := back.createdAt } ∧ back.createdAt.offset = some 0 ∧
        back.createdAt.instant = now.instant / 1000 * 1000 ∧
        back.trees = rule.trees ∧ (∀ action, back.tree action = rule.tree action) ∧
        ∀ enforceWindow, back.checkReady enforceWindow = rule.checkReady enforceWindow := by
  obtain ⟨u, hutc, hu, -⟩ := hnow.exists_stamp
  have hportable := hg.portable_of_compile hok hdoubles
  have hstamp : rule.createdAt.stamp? = some (String.ofList u.stampChars) := by
    rw [createdAt_of_compile hok]
    exact DateTime.stamp?_eq hutc hu
  have hdocument : rule.toJson? = some (rule.document (String.ofList u.stampChars)) := by
    rw [Rule.toJson?, hstamp]
    rfl
  have hback : (rule.madeAt u.cut).toJson? =
      some (rule.document (String.ofList u.stampChars)) := by
    have hcut : u.cut.stamp? = some (String.ofList u.stampChars) := by
      rw [DateTime.stamp?_eq (u := u.cut) hutc rfl, DateTime.stampChars_cut]
    rw [Rule.toJson?, Rule.madeAt, hcut]
    rfl
  have hfaithful := Rule.everywhere_document hportable (String.ofList u.stampChars)
  -- The rule and what is read of it have one document, and so the same text.
  have htext : ∀ text, rule.canonical? limits = some (.ok text) ↔
      (rule.document (String.ofList u.stampChars)).canonicalText limits = .ok text := by
    simp [Rule.canonical?, hdocument]
  obtain ⟨hexists, -, -, hread, -⟩ := Json.canonical_normalForm limits hfaithful hfaithful
  refine ⟨_, hdocument, fun hdepth => ?_, fun text h => ?_⟩
  · simp only [htext, hexists]
    exact Rule.keepsTo_document_iff hportable hdepth
  · refine ⟨_, rule.madeAt u.cut, hread text (.inl ((htext text).mp h)),
      Rule.ofJson_document hportable (DateTime.readDateTime_stampChars hutc), ?_, rfl, hutc, ?_,
      Rule.trees_madeAt _ _, Rule.tree_madeAt _ _, Rule.checkReady_madeAt _ _⟩
    · rw [Rule.canonical?, hback, ← hdocument]
      exact h
    · exact (DateTime.instant_cut hutc).trans (by rw [hu])

/-- Twelve and a half, an eighth of a hundred. -/
def eighth : Double := ⟨false, ⟨1026, by decide⟩, ⟨2533274790395904, by decide⟩⟩

/-- A graph with a list of goods and a discount that is not whole. -/
def priced : Graph where
  nodes := [.rule ⟨"goods", .condition .productId .isIn (.arr [.int 2, .int 1]), rfl, rfl⟩,
    .rule ⟨"off", .action .percentageDiscount (.float eighth), rfl, rfl⟩]
  connections := [⟨"goods", "condition", "off", "condition"⟩]
  limit := .int 5

def pricedRule : Rule where
  name := "Gold"
  salience := 5
  stackable := true
  active := true
  validFrom := none
  validUntil := none
  conditions := [⟨.productId, "in", .arr [.int 2, .int 1], "goods"⟩]
  actions := [⟨.percentageDiscount, .real eighth, "off"⟩]
  logicals := []
  links := [⟨"goods", "off", "condition", "condition"⟩]
  createdAt := sampleEast

theorem wire_roundTrip_priced : priced.KeepsRules ∧
    priced.compile sampleMetadata sampleEast = .ok pricedRule ∧ sampleEast.InYears ∧
    eighth.ReadsBack ∧ ∃ text json back, pricedRule.canonical? .writing = some (.ok text) ∧
      Json.read text = .ok json ∧ Rule.ofJson json = .valid back ∧
      back.canonical? .writing = some (.ok text) ∧ back.trees = pricedRule.trees := by
  have hg : priced.KeepsRules := by simp [KeepsRules, priced]
  have hok : priced.compile sampleMetadata sampleEast = .ok pricedRule := by decide +kernel
  have hnow : sampleEast.InYears := by decide +kernel
  have hreads : eighth.ReadsBack := by decide +kernel
  have hdoubles : ∀ e ∈ pricedRule.actions, ∀ x, e.value = .real x → x.ReadsBack := by
    simp [pricedRule, hreads]
  obtain ⟨document, hdocument, htexts, hback⟩ := wire_roundTrip .writing hg hok hnow hdoubles
  have hkeeps : ∀ document ∈ pricedRule.toJson?, document.KeepsTo .writing := by
    simp only [Json.keepsTo_iff]
    decide +kernel
  obtain ⟨text, htext⟩ := (htexts (by decide)).mpr (hkeeps document hdocument).digits
  obtain ⟨json, back, hread, hback, hsame, -, -, -, htrees, -, -⟩ := hback text htext
  exact ⟨hg, hok, hnow, hreads, text, json, back, htext, hread _ Json.Limits.wider_reading, hback,
    hsame, htrees⟩

end Graph
end Promotion
