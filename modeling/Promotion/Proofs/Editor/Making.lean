import Promotion.Editor.Session
import Promotion.Proofs.Graph.WellFormed
import Promotion.Proofs.Node.Grammar
import Mathlib.Data.List.Perm.Subperm

/-! All ways of making a node. Whether a node is made by its class, by an edit of another node or by
a session under a new id, it comes out as it does when its data are read by the kind they name. -/
namespace Promotion
open Checked Check

/-! ### Fields that are read alike -/

/-- The keys that nodes of a kind have no field for. -/
def strayKeys (kind : Kind) (fields : Fields) : List String :=
  fields.keys.filter fun key => !(fieldNames kind).contains key

/-- The same fields for a reader who knows the kind, equality for an operator that is not given and
null for a value that is not given. -/
structure ReadAlike (kind : Kind) (fields others : Fields) : Prop where
  id : fields.get? "id" = others.get? "id"
  tag : (fields.get? "kind").getD (.str kind.word) = (others.get? "kind").getD (.str kind.word)
  subtype : fields.get? "subtype" = others.get? "subtype"
  operator : (fields.get? "operator").getD (.str Operator.equals.word) =
    (others.get? "operator").getD (.str Operator.equals.word)
  value : (fields.get? "value").getD .null = (others.get? "value").getD .null
  stray : strayKeys kind fields = strayKeys kind others

variable {fields others changes : Fields} {kind : Kind} {key : String} {json : Json}

lemma strayKeys_put (hname : key ∈ fieldNames kind) :
    strayKeys kind (fields.put key json) = strayKeys kind fields := by
  unfold strayKeys Fields.put
  split_ifs with hhas
  · congr 1
    unfold Fields.keys
    rw [List.map_map]
    apply List.map_congr_left
    intro field _
    by_cases hkey : field.1 = key <;> simp [hkey]
  · simp [Fields.keys, hname]

lemma strayKeys_fillValue : strayKeys kind (fillValue kind fields) = strayKeys kind fields := by
  unfold fillValue
  split
  · next hinitial => exact strayKeys_put (mem_fieldNames_of_initialValue? hinitial)
  · rfl

lemma ReadAlike.fillValue (h : ReadAlike kind fields others) :
    ReadAlike kind (fillValue kind fields) (fillValue kind others) where
  id := by rw [get?_fillValue (by decide), get?_fillValue (by decide), h.id]
  tag := by rw [get?_fillValue (by decide), get?_fillValue (by decide), h.tag]
  subtype := by rw [get?_fillValue (by decide), get?_fillValue (by decide), h.subtype]
  operator := by rw [get?_fillValue (by decide), get?_fillValue (by decide), h.operator]
  value := by
    have hinitial : initialValue? kind fields = initialValue? kind others := by
      simp only [initialValue?, h.subtype]
    rw [value_fillValue, value_fillValue, hinitial, valueOr, valueOr, h.value]
  stray := by rw [strayKeys_fillValue, strayKeys_fillValue, h.stray]

/-- A field that is not there is looked at as if it had the value that passes for the fallback. -/
lemma optional_eq_under {α : Type} {fallback : α} {check : Json → Checked α} (json : Json)
    (h : check json = .valid fallback) :
    Check.optional fields key fallback check =
      (check ((fields.get? key).getD json)).under key := by
  unfold Check.optional
  cases fields.get? key with
  | some given => rfl
  | none => simp [h, under]

lemma ReadAlike.fixedKind (h : ReadAlike kind fields others) :
    fixedKind kind fields = fixedKind kind others := by
  have hword : (Json.str kind.word).str? = some kind.word := rfl
  unfold Promotion.fixedKind
  rw [optional_eq_under (.str kind.word) (by simp [hword]),
    optional_eq_under (.str kind.word) (by simp [hword]), h.tag]

lemma ReadAlike.readBody (h : ReadAlike kind fields others) :
    readBody kind fields = readBody kind others := by
  have hnull : anything .null = .valid .null := rfl
  have hequals : Check.word Operator.ofWord? (.str Operator.equals.word) = .valid .equals := rfl
  have hvalue : Check.optional fields "value" .null anything =
      Check.optional others "value" .null anything := by
    rw [optional_eq_under .null hnull, optional_eq_under .null hnull, h.value]
  have hoperator : Check.optional fields "operator" .equals (Check.word Operator.ofWord?) =
      Check.optional others "operator" .equals (Check.word Operator.ofWord?) := by
    rw [optional_eq_under _ hequals, optional_eq_under _ hequals, h.operator]
  cases kind with
  | condition => simp only [Promotion.readBody, required, h.subtype, hoperator, hvalue]
  | action => simp only [Promotion.readBody, required, h.subtype, hvalue]
  | logical => simp only [Promotion.readBody, required, h.subtype]

lemma ReadAlike.onlyFields (h : ReadAlike kind fields others) :
    onlyFields (fieldNames kind) fields = onlyFields (fieldNames kind) others := by
  have hstray := h.stray
  unfold strayKeys at hstray
  unfold Promotion.onlyFields
  rw [hstray]

/-- Fields that are read alike give the same node, or the same issues. -/
theorem ReadAlike.ofFields (h : ReadAlike kind fields others) :
    RuleNode.ofFields kind fields = RuleNode.ofFields kind others := by
  have hfill := h.fillValue
  have hparts : readParts kind (Promotion.fillValue kind fields) =
      readParts kind (Promotion.fillValue kind others) := by
    simp only [readParts, required, hfill.id, hfill.fixedKind, hfill.readBody, hfill.onlyFields]
  rw [RuleNode.ofFields, RuleNode.ofFields, hparts]

/-- A class knows its own kind, so its name may be left out. -/
lemma readAlike_put_kind (h : fields.has "kind" = false) :
    ReadAlike kind fields (fields.put "kind" (.str kind.word)) where
  id := (Fields.get?_put_of_ne (by decide)).symm
  tag := by simp [Fields.get?_put_self, Fields.has_eq_false_iff_get?.mp h]
  subtype := (Fields.get?_put_of_ne (by decide)).symm
  operator := by rw [Fields.get?_put_of_ne (by decide)]
  value := by rw [Fields.get?_put_of_ne (by decide)]
  stray := (strayKeys_put (by cases kind <;> decide)).symm

/-! ### New ids -/

namespace Editor
variable {g : Graph} {e : Editor} {stem subtype : String} {tries n : Nat}

lemma numberedId_injective (stem : String) : Function.Injective (numberedId stem) := by
  intro n m h
  have htext : toString n = toString m := (String.append_right_inj _).mp h
  -- The digits of a number give it back.
  have hdigits := congrArg (fun s : String => Nat.ofDigitChars 10 s.toList 0) htext
  simpa using hdigits

/-- The search stops at an id that is taken only after a run of ids that are all taken. -/
lemma taken_of_freeNumber (h : g.has (.text (numberedId stem (freeNumber g stem tries n))) = true) :
    ∀ i ≤ tries, g.has (.text (numberedId stem (n + i))) = true := by
  induction tries generalizing n with
  | zero =>
    intro i hi
    obtain rfl := Nat.le_zero.mp hi
    exact h
  | succ tries ih =>
    intro i hi
    by_cases htaken : g.has (.text (numberedId stem n)) = true
    · cases i with
      | zero => exact htaken
      | succ i =>
        rw [freeNumber, if_pos htaken] at h
        have hlater := ih h i (Nat.le_of_succ_le_succ hi)
        rwa [Nat.add_assoc, Nat.add_comm 1 i] at hlater
    · rw [freeNumber, if_neg htaken] at h
      exact absurd h htaken

/-- A new id is free: there are more numbers to try than nodes. -/
theorem has_newId (e : Editor) (stem : String) :
    e.graph.has (.text (e.newId stem).1) = false := by
  refine Bool.eq_false_iff.mpr fun htaken => ?_
  have hall := taken_of_freeNumber htaken
  let ids := (List.range (e.graph.size + 1)).map fun i =>
    NodeKey.text (numberedId stem (e.counter + i))
  have hnodup : ids.Nodup := by
    refine List.nodup_range.map fun i j h => ?_
    exact Nat.add_left_cancel (numberedId_injective stem (NodeKey.text.inj h))
  have hsubset : ids ⊆ e.graph.keys := by
    intro key hkey
    obtain ⟨i, hi, rfl⟩ := List.mem_map.mp hkey
    exact Graph.has_iff.mp (hall i (Nat.lt_succ_iff.mp (List.mem_range.mp hi)))
  have hlength := (List.subperm_of_subset hnodup hsubset).length_le
  simp [ids, Graph.keys, Graph.size] at hlength

end Editor

/-! ### The same end -/

/-- Another way to make a node ends as reading its data does: with the same node, or with the same
issues, apart from the kind that reading puts in front of their paths. -/
inductive Echoes {β : Type} (kind : Kind) (made : RuleNode → β) (refused : List Issue → β) :
    Checked RuleNode → β → Prop
  | made (n : RuleNode) : Echoes kind made refused (.valid n) (made n)
  | refused (issues : List Issue) :
      Echoes kind made refused
        (.invalid (issues.map fun issue => { issue with path := kind.word :: issue.path }))
        (refused issues)

namespace Echoes
variable {β γ : Type} {made : RuleNode → β} {refused : List Issue → β} {read : Checked RuleNode}
  {out : β} {n : RuleNode}

lemma map (h : Echoes kind made refused read out) (f : β → γ) :
    Echoes kind (fun n => f (made n)) (fun issues => f (refused issues)) read (f out) := by
  cases h with
  | made n => exact .made n
  | refused issues => exact .refused issues

lemma eq_made (h : Echoes kind made refused read out) (hread : read = .valid n) : out = made n := by
  subst hread
  cases h
  rfl

/-- Whatever follows the fields of a kind echoes the data with these fields. -/
lemma of_ofFields (hkind : fields.get? "kind" = some (.str kind.word))
    (hmade : ∀ n, RuleNode.ofFields kind fields = .valid n → out = made n)
    (hrefused : ∀ issues, RuleNode.ofFields kind fields = .invalid issues → out = refused issues) :
    Echoes kind made refused (RuleNode.parse (.obj fields)) out := by
  rw [RuleNode.parse_obj hkind]
  cases hread : RuleNode.ofFields kind fields with
  | valid n =>
    rw [hmade n hread]
    exact .made n
  | invalid issues =>
    rw [hrefused issues hread]
    exact .refused issues

end Echoes

/-! ### Edits -/

/-- No change goes by the name of a fixed field, or by one that calls take for themselves. -/
def Changeable (changes : Fields) : Prop :=
  ∀ name ∈ ["id", "kind", "node_id", "self"], changes.has name = false

instance : Decidable (Changeable changes) :=
  inferInstanceAs (Decidable (∀ name ∈ ["id", "kind", "node_id", "self"], changes.has name = false))

namespace RuleNode
variable {r : RuleNode}

/-- The data of a node with changes put over them. -/
def merged (r : RuleNode) (changes : Fields) : Json := .obj (r.fields.putAll changes)

/-- Edits of a node end as reading its changed data does. It keeps its id and its kind, and in a
graph also its place. -/
structure RevisedAlike (r : RuleNode) (changes : Fields) : Prop where
  kept : ∀ n, parse (r.merged changes) = .valid n → n.id = r.id ∧ n.kind = r.kind
  updated : Echoes r.kind (fun n => .ok (.rule n)) (fun issues => .error (.invalid issues))
    (parse (r.merged changes)) ((Node.rule r).updated changes)
  update : ∀ (g : Graph) (ref : Json), g.get ref = .ok (.rule r) →
    Echoes r.kind (fun n => .ok (g.replace (.rule n), .rule n))
      (fun issues => .error (.invalid issues)) (parse (r.merged changes)) (g.update ref changes)

lemma get?_kind_putAll (r : RuleNode) (hchanges : Changeable changes) :
    (r.fields.putAll changes).get? "kind" = some (.str r.kind.word) :=
  (Fields.get?_putAll_of_not_has (hchanges "kind" (by decide))).trans r.get?_kind

lemma revised_eq (r : RuleNode) (changes : Fields) :
    (Node.rule r).revised changes = (ofFields r.kind (r.fields.putAll changes)).map .rule := rfl

end RuleNode

lemma Node.updated_eq (n : Node) (hchanges : Changeable changes) :
    n.updated changes = (n.revised changes).toExcept.mapError .invalid := by
  have hself := hchanges "self" (by decide)
  have hid := hchanges "id" (by decide)
  have hkind := hchanges "kind" (by decide)
  simp only [updated, fixedFields, List.find?_cons, List.find?_nil, hself, hid, hkind]
  cases n.revised changes <;> rfl

lemma Graph.update_eq {g : Graph} {ref : Json} {n : Node} (hchanges : Changeable changes)
    (hget : g.get ref = .ok n) :
    g.update ref changes =
      (EditFault.ofChecked (n.revised changes)).map fun m => (g.replace m, m) := by
  have hself := hchanges "self" (by decide)
  have hnode := hchanges "node_id" (by decide)
  have hid := hchanges "id" (by decide)
  have hkind := hchanges "kind" (by decide)
  simp only [update, reservedNames, fixedFields, List.any_cons, List.any_nil, List.filter_cons,
    List.filter_nil, hself, hnode, hid, hkind, hget]
  rfl

theorem RuleNode.revisedAlike (r : RuleNode) (hchanges : Changeable changes) :
    r.RevisedAlike changes where
  kept n hn := by
    have hkind := r.get?_kind_putAll hchanges
    rw [merged, parse_obj hkind, under_eq_valid_iff] at hn
    obtain ⟨hsame, hid, _⟩ := ofFields_eq_valid hn
    have hkept : (r.fields.putAll changes).get? "id" = some (.str r.id) :=
      (Fields.get?_putAll_of_not_has (hchanges "id" (by decide))).trans (Node.rule r).get?_id
    rw [hid, Option.some.injEq, Json.str.injEq] at hkept
    exact ⟨hkept, hsame⟩
  updated := by
    refine .of_ofFields (r.get?_kind_putAll hchanges) (fun n hn => ?_) fun issues hissues => ?_
    · rw [Node.updated_eq _ hchanges, revised_eq, hn]
      rfl
    · rw [Node.updated_eq _ hchanges, revised_eq, hissues]
      rfl
  update g ref hget := by
    refine .of_ofFields (r.get?_kind_putAll hchanges) (fun n hn => ?_) fun issues hissues => ?_
    · rw [Graph.update_eq hchanges hget, revised_eq, hn]
      rfl
    · rw [Graph.update_eq hchanges hget, revised_eq, hissues]
      rfl

/-! ### Setters -/

/-- Setting one field ends as reading the data with another value for that field does. -/
structure RuleNode.SetAlike (r : RuleNode) (json : Json) : Prop where
  withValue : r.kind ≠ .logical →
    Echoes r.kind (fun n => .ok (.rule n)) (fun issues => .error (.invalid issues))
      (parse (r.merged [("value", json)])) ((Node.rule r).withValue json)
  withOperator : r.kind = .condition →
    Echoes r.kind (fun n => .ok (.rule n)) (fun issues => .error (.invalid issues))
      (parse (r.merged [("operator", json)])) ((Node.rule r).withOperator json)
  setValue : ∀ (e : Editor) (ref : Json), e.graph.get ref = .ok (.rule r) →
    Echoes r.kind
      (fun n => ⟨{ e with graph := e.graph.replace (.rule n) }, [.updated ref ["value"]],
        .ok (.rule n)⟩)
      (fun issues => e.fail (.invalid issues))
      (parse (r.merged [("value", json)])) (e.setValue ref json)
  setOperator : ∀ (e : Editor) (ref : Json), e.graph.get ref = .ok (.rule r) →
    Echoes r.kind
      (fun n => ⟨{ e with graph := e.graph.replace (.rule n) }, [.updated ref ["operator"]],
        .ok (.rule n)⟩)
      (fun issues => e.fail (.invalid issues))
      (parse (r.merged [("operator", json)])) (e.setOperator ref json)

theorem RuleNode.setAlike (r : RuleNode) (json : Json) : r.SetAlike json := by
  have hvalue : r.RevisedAlike [("value", json)] :=
    r.revisedAlike (by simp [Changeable, Fields.has])
  have hoperator : r.RevisedAlike [("operator", json)] :=
    r.revisedAlike (by simp [Changeable, Fields.has])
  have hform : (Node.rule r).form = some r.kind := rfl
  refine ⟨?_, ?_, ?_, ?_⟩
  · intro hkind
    have hset : (Node.rule r).withValue json = (Node.rule r).updated [("value", json)] := by
      rw [Node.withValue, hform]
      cases h : r.kind with
      | condition => rfl
      | action => rfl
      | logical => exact absurd h hkind
    exact hset ▸ hvalue.updated
  · intro hkind
    have hset : (Node.rule r).withOperator json = (Node.rule r).updated [("operator", json)] := by
      rw [Node.withOperator, hform, hkind]
    exact hset ▸ hoperator.updated
  · intro e ref hget
    exact (hvalue.update e.graph ref hget).map fun outcome =>
      e.ofGraphEdit outcome fun _ => .updated ref ["value"]
  · intro e ref hget
    exact (hoperator.update e.graph ref hget).map fun outcome =>
      e.ofGraphEdit outcome fun _ => .updated ref ["operator"]

/-! ### Additions -/

/-- An argument as a field, if it is given. -/
def argument (key : String) (given : Option Json) : Fields :=
  (given.map fun json => (key, json)).toList

namespace Editor

/-- The data of a node under the next new id: its kind, its subtype and what else is given. -/
def newFields (e : Editor) (kind : Kind) (subtype : String) (given : Fields) : Fields :=
  [("id", .str (e.newId (idStem subtype)).1), ("kind", .str kind.word),
    ("subtype", .str subtype)] ++ given

/-- How an addition ends that makes a node: it goes to the end of the graph. -/
def added (e : Editor) (subtype : String) (n : RuleNode) : Edit Node :=
  ⟨⟨{ e.graph with nodes := e.graph.nodes ++ [.rule n] }, (e.newId (idStem subtype)).2⟩,
    [.added (.rule n)], .ok (.rule n)⟩

/-- How an addition ends that is refused: the number is spent. -/
def notAdded (e : Editor) (subtype : String) (issues : List Issue) : Edit Node :=
  ⟨{ e with counter := (e.newId (idStem subtype)).2 }, [], .error (.invalid issues)⟩

/-- Adding a node of a subtype ends as reading the data for it does, which names only what is given.
Equality stands for an operator that is not given, and null for a value. -/
structure AddsAlike (e : Editor) (subtype : String) : Prop where
  condition : Kind.condition.knowsSubtype subtype = true → ∀ operator value : Option Json,
    Echoes .condition (e.added subtype) (e.notAdded subtype)
      (RuleNode.parse (.obj (e.newFields .condition subtype
        (argument "operator" operator ++ argument "value" value))))
      (e.addCondition (.str subtype) (operator.getD (.str Operator.equals.word))
        (value.getD .null))
  action : Kind.action.knowsSubtype subtype = true → ∀ value : Option Json,
    Echoes .action (e.added subtype) (e.notAdded subtype)
      (RuleNode.parse (.obj (e.newFields .action subtype (argument "value" value))))
      (e.addAction (.str subtype) (value.getD .null))
  logical : Kind.logical.knowsSubtype subtype = true →
    Echoes .logical (e.added subtype) (e.notAdded subtype)
      (RuleNode.parse (.obj (e.newFields .logical subtype []))) (e.addLogical (.str subtype))

variable {e : Editor} {subtype : String} {given more : Fields}

/-- A node under a new id fits into a graph with room. -/
lemma insert_new {n : RuleNode} (hroom : Graph.reached? e.graph.size e.graph.limit = some false)
    (hid : n.id = (e.newId (idStem subtype)).1) :
    e.graph.insert (.rule n) = .ok { e.graph with nodes := e.graph.nodes ++ [.rule n] } := by
  refine Graph.insert_eq_ok_iff.mpr ⟨fun htaken => ?_, hroom, rfl⟩
  rw [Node.key_rule, hid, ← Graph.has_iff, has_newId] at htaken
  cases htaken

/-- An addition reads the fields of the new node by its kind. -/
lemma addNew_eq (e : Editor) (kind : Kind) (subtype : String) (more : Fields) :
    e.addNew kind subtype more =
      match RuleNode.ofFields kind (e.newFields kind subtype more) with
      | .invalid issues => e.notAdded subtype issues
      | .valid n =>
        ofGraphEdit { e with counter := (e.newId (idStem subtype)).2 }
          ((e.graph.insert (.rule n)).map fun g => (g, .rule n)) .added := by
  unfold addNew newFields
  dsimp only
  generalize RuleNode.ofFields kind _ = checked
  cases checked <;> rfl

lemma echoes_addNew (hroom : Graph.reached? e.graph.size e.graph.limit = some false)
    (halike : ReadAlike kind (e.newFields kind subtype given) (e.newFields kind subtype more)) :
    Echoes kind (e.added subtype) (e.notAdded subtype)
      (RuleNode.parse (.obj (e.newFields kind subtype given))) (e.addNew kind subtype more) := by
  have hkind : (e.newFields kind subtype given).get? "kind" = some (.str kind.word) := by
    simp [newFields]
  have hid : (e.newFields kind subtype given).get? "id" =
      some (.str (e.newId (idStem subtype)).1) := by
    simp [newFields]
  refine .of_ofFields hkind (fun n hn => ?_) fun issues hissues => ?_
  · have hnew : n.id = (e.newId (idStem subtype)).1 := by
      obtain ⟨_, hread, _⟩ := RuleNode.ofFields_eq_valid hn
      rw [hid, Option.some.injEq, Json.str.injEq] at hread
      exact hread.symm
    rw [addNew_eq, ← halike.ofFields, hn]
    dsimp only
    rw [insert_new hroom hnew]
    rfl
  · rw [addNew_eq, ← halike.ofFields, hissues]

lemma addKnown_str (hknown : kind.knowsSubtype subtype = true) :
    e.addKnown kind (.str subtype) more = e.addNew kind subtype more := by
  simp [addKnown, hknown]

theorem addsAlike (hroom : Graph.reached? e.graph.size e.graph.limit = some false) :
    e.AddsAlike subtype where
  condition hknown operator value := by
    rw [addCondition, addKnown_str hknown]
    refine echoes_addNew hroom ?_
    cases operator <;> cases value <;> constructor <;>
      simp [newFields, argument, strayKeys, Fields.keys, fieldNames]
  action hknown value := by
    rw [addAction, addKnown_str hknown]
    refine echoes_addNew hroom ?_
    cases value <;> constructor <;> simp [newFields, argument, strayKeys, Fields.keys, fieldNames]
  logical hknown := by
    rw [addLogical, addKnown_str hknown]
    refine echoes_addNew hroom ?_
    exact ⟨rfl, rfl, rfl, rfl, rfl, rfl⟩

end Editor

/-! ### All ways -/

/-- All ways of making a node agree with reading its data: by its class, which may do without the
kind; by an edit of a node, in a graph or not; and by an addition to a graph that has room. -/
theorem making_alike :
    (∀ (kind : Kind) (fields : Fields), fields.has "kind" = false →
      Echoes kind .valid .invalid (RuleNode.parse (.obj (fields.put "kind" (.str kind.word))))
        (RuleNode.ofFields kind fields)) ∧
      (∀ (r : RuleNode) (changes : Fields), Changeable changes → r.RevisedAlike changes) ∧
      (∀ (r : RuleNode) (json : Json), r.SetAlike json) ∧
      ∀ (e : Editor) (subtype : String),
        Graph.reached? e.graph.size e.graph.limit = some false → e.AddsAlike subtype := by
  refine ⟨fun kind fields h => ?_, fun r changes => r.revisedAlike, RuleNode.setAlike,
    fun e subtype => Editor.addsAlike⟩
  have hsame : RuleNode.ofFields kind fields =
      RuleNode.ofFields kind (fields.put "kind" (.str kind.word)) := (readAlike_put_kind h).ofFields
  refine .of_ofFields (Fields.get?_put_self ..) (fun n hn => ?_) fun issues hissues => ?_
  · exact hsame.trans hn
  · exact hsame.trans hissues

/-- A gift of which only the subtype is given, a value set back to null in a node and in a graph,
and a new condition of which nothing is said. What is missing is filled in each time. -/
theorem making_alike_sample :
    RuleNode.ofFields .action [("id", .str "gift"), ("subtype", .str "free_units")] =
      .valid ⟨"gift", .action .freeUnits (.int 1), by decide, by decide⟩ ∧
    (Node.rule ⟨"few", .condition .quantity .lessThan (.int 3), by decide, by decide⟩).updated
        [("value", .null)] =
      .ok (.rule ⟨"few", .condition .quantity .lessThan (.int 1), by decide, by decide⟩) ∧
    ((Editor.ofGraph Graph.sample).setValue (.str "few") .null).outcome =
      .ok (.rule ⟨"few", .condition .quantity .lessThan (.int 1), by decide, by decide⟩) ∧
    (Editor.ofGraph Graph.sample).addCondition (.str "product_id") (.str "equals") .null =
      (Editor.ofGraph Graph.sample).added "product_id"
        ⟨"product-id-1", .condition .productId .equals (.int 1), by decide, by decide⟩ := by
  obtain ⟨hclass, hrevised, hset, hadds⟩ := making_alike
  have hgift := hclass .action [("id", .str "gift"), ("subtype", .str "free_units")] (by decide)
  have hupdated := (hrevised ⟨"few", .condition .quantity .lessThan (.int 3), by decide, by decide⟩
    [("value", .null)] (by decide)).updated
  have hvalue := (hset ⟨"few", .condition .quantity .lessThan (.int 3), by decide, by decide⟩
    .null).setValue (.ofGraph Graph.sample) (.str "few") rfl
  have hread : RuleNode.parse (RuleNode.merged
      ⟨"few", .condition .quantity .lessThan (.int 3), by decide, by decide⟩ [("value", .null)]) =
      .valid ⟨"few", .condition .quantity .lessThan (.int 1), by decide, by decide⟩ := rfl
  have hadded := (hadds (.ofGraph Graph.sample) "product_id" (by decide)).condition (by decide)
    none none
  have hid : ((Editor.ofGraph Graph.sample).newId (Editor.idStem "product_id")).1 =
      "product-id-1" := by decide +kernel
  refine ⟨hgift.eq_made rfl, hupdated.eq_made hread, ?_, hadded.eq_made ?_⟩
  · exact congrArg Edit.outcome (hvalue.eq_made hread)
  · rw [Editor.newFields, hid]
    rfl

end Promotion
