import Promotion.Proofs.Node.Revision

/-! The payload of a node that keeps the rules is read back as that very node: no value is filled
in, no field is too many, and the parts fit as they did. -/
namespace Promotion
open Checked Check

namespace Body
variable {subtype : ConditionSubtype} {operator : Operator} {value : Json}

lemma badItem?_eq_none_iff {items : List Json} :
    badItem? subtype items = none ↔ ∀ item ∈ items, subtype.admits item = true := by
  simp [badItem?]

/-- A condition fits if its operator is allowed, and its value or all of its listed values are
admitted. -/
theorem fault?_condition_eq_none_iff :
    fault? (.condition subtype operator value) = none ↔
      operator ∈ Operator.allowed subtype ∧
        if operator.takesList then
          ∃ items, value = .arr items ∧ items ≠ [] ∧ ∀ item ∈ items, subtype.admits item = true
        else subtype.admits value = true := by
  by_cases hallowed : operator ∈ Operator.allowed subtype
  · by_cases hlist : operator.takesList = true
    · cases value with
      | arr items => cases items <;> simp [fault?, hallowed, hlist, badItem?_eq_none_iff]
      | _ => simp [fault?, hallowed, hlist]
    · cases value with
      | arr items => simp [fault?, hallowed, hlist, ConditionSubtype.admits]
      | _ => simp [fault?, hallowed, hlist, badItem?_eq_none_iff]
  · simp [fault?, hallowed]

lemma fault?_action_eq_none_iff {subtype : ActionSubtype} :
    fault? (.action subtype value) = none ↔ subtype.admits value = true := by
  simp [fault?]

/-- A body that fits has a value wherever its kind has one. -/
lemma value_ne_null {body : Body} (hfit : body.fault? = none) :
    body.fields.get? "value" ≠ some .null := by
  intro hnull
  cases body with
  | condition subtype operator value =>
    obtain rfl : value = .null := by simpa [fields] using hnull
    obtain ⟨_, hvalue⟩ := fault?_condition_eq_none_iff.mp hfit
    split_ifs at hvalue
    · obtain ⟨items, hitems, _⟩ := hvalue
      cases hitems
    · cases subtype <;> cases hvalue
  | action subtype value =>
    obtain rfl : value = .null := by simpa [fields] using hnull
    have hvalue := fault?_action_eq_none_iff.mp hfit
    cases subtype <;> cases hvalue
  | logical subtype => simp [fields] at hnull

end Body

/-- Nothing is filled in where there is a value, or where there could be none. -/
lemma fillValue_eq_self {kind : Kind} {fields : Fields}
    (h : (∃ value, fields.get? "value" = some value ∧ value ≠ .null) ∨ kind = .logical) :
    fillValue kind fields = fields := by
  unfold fillValue
  rcases h with ⟨value, hvalue, hne⟩ | rfl
  · cases value <;> simp_all
  · simp [initialValue?]

/-- The fields of a body are read as the body that they were written from. -/
lemma readBody_of_fields {body : Body} {fields : Fields}
    (h : ∀ key, key ≠ "id" → fields.get? key = body.fields.get? key) :
    readBody body.kind fields = .valid body := by
  have hsubtype := h "subtype" (by decide)
  have hoperator := h "operator" (by decide)
  have hvalue := h "value" (by decide)
  cases body with
  | condition subtype operator value =>
    simp only [Body.fields, Fields.get?_cons, String.reduceBEq, Bool.false_eq_true, if_false,
      if_true] at hsubtype hoperator hvalue
    simp only [readBody, Body.kind, required, Check.optional, hsubtype, hoperator, hvalue]
    simp only [Check.word, Json.str?, Option.bind_some, ConditionSubtype.ofWord?_word,
      Operator.ofWord?_word]
    rfl
  | action subtype value =>
    simp only [Body.fields, Fields.get?_cons, String.reduceBEq, Bool.false_eq_true, if_false,
      if_true] at hsubtype hvalue
    simp only [readBody, Body.kind, required, Check.optional, hsubtype, hvalue]
    simp only [Check.word, Json.str?, Option.bind_some, ActionSubtype.ofWord?_word]
    rfl
  | logical subtype =>
    simp only [Body.fields, Fields.get?_cons, String.reduceBEq, Bool.false_eq_true, if_false,
      if_true] at hsubtype
    simp only [readBody, Body.kind, required, hsubtype]
    simp only [Check.word, Json.str?, Option.bind_some, LogicalSubtype.ofWord?_word]
    rfl

namespace RuleNode
variable (r : RuleNode)

lemma get?_kind : r.fields.get? "kind" = some (.str r.kind.word) := by
  obtain ⟨id, body, _, _⟩ := r
  cases body <;> simp [fields, Body.fields, kind, Body.kind]

lemma fillValue_fields : fillValue r.kind r.fields = r.fields := by
  have hvalue := Body.value_ne_null r.bodyFits
  apply fillValue_eq_self
  obtain ⟨id, body, _, _⟩ := r
  cases body with
  | condition subtype operator value =>
    exact Or.inl ⟨value, by simp [fields, Body.fields], by simpa [Body.fields] using hvalue⟩
  | action subtype value =>
    exact Or.inl ⟨value, by simp [fields, Body.fields], by simpa [Body.fields] using hvalue⟩
  | logical subtype => exact Or.inr rfl

lemma nodeId_id : nodeId (.str r.id) = .valid r.id := nodeId_eq_valid_iff.mpr ⟨rfl, r.idFits⟩

/-- Each field of a node is read as what it was written from. -/
lemma readParts_fields : readParts r.kind r.fields = .valid (r.id, r.body) := by
  apply readParts_eq_valid_iff.mpr
  refine ⟨?_, ?_, ?_, ?_⟩
  · exact required_eq_valid_iff.mpr ⟨.str r.id, by simp [fields], r.nodeId_id⟩
  · have hword : (Json.str r.kind.word).str? = some r.kind.word := rfl
    exact optional_eq_valid_iff.mpr (Or.inl ⟨_, r.get?_kind, by simp [hword]⟩)
  · exact readBody_of_fields fun key hne => by simp [fields, hne.symm]
  · obtain ⟨id, body, _, _⟩ := r
    cases body <;> simp [onlyFields, kind, Body.kind, fields, Body.fields, fieldNames, Fields.keys]

/-- A node comes out of its own id and body. -/
lemma of_id_body : of r.id r.body = .valid r := by
  unfold of
  split
  · split
    · rfl
    · next hfault => simp [r.bodyFits] at hfault
  · next hid => exact absurd r.idFits hid

theorem ofFields_fields : ofFields r.kind r.fields = .valid r := by
  rw [ofFields, r.fillValue_fields, r.readParts_fields]
  exact r.of_id_body

theorem parse_payload : parse (Node.rule r).payload = .valid r := by
  have hkind : Kind.ofWord? r.kind.word = some r.kind := Kind.ofWord?_word _
  simp only [Node.payload, Node.fields, parse, r.get?_kind, Json.str?, Option.bind_some, hkind]
  rw [r.ofFields_fields]
  rfl

end RuleNode
end Promotion
