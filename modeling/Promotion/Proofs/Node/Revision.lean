import Promotion.Node.Reading
import Promotion.Proofs.Check.Outcome
import Mathlib.Tactic.SplitIfs

/-! What an edit of a node leaves as it was: its key, and its kind where that is a known one. A node
that keeps the rules goes on keeping them. -/
namespace Promotion
open Checked Check

variable {kind : Kind} {fields changes : Fields} {key id : String} {json : Json}

lemma nodeId_eq_valid_iff : nodeId json = .valid id ↔ json = .str id ∧ isNodeId id = true := by
  cases json with
  | str s =>
    simp only [nodeId, isNodeId, Json.str.injEq, Bool.and_eq_true, Bool.not_eq_eq_eq_not,
      Bool.not_true]
    split_ifs with hhalf hempty hblank
    · exact iff_of_false (reject_ne_valid _ _) fun h => by simp [← h.1, hhalf] at h
    · refine iff_of_false (reject_ne_valid _ _) fun ⟨hs, hspoken, _⟩ => ?_
      rw [← hs, hempty] at hspoken
      exact absurd hspoken (by decide)
    · exact iff_of_false (reject_ne_valid _ _) fun h => by simp [← h.1, hblank] at h
    · rw [Checked.valid.injEq]
      refine ⟨?_, And.left⟩
      rintro rfl
      exact ⟨rfl, Bool.eq_false_iff.mpr hblank, Bool.eq_false_iff.mpr hhalf⟩
  | _ => exact iff_of_false (reject_ne_valid _ _) (by nofun)

lemma eq_str_of_nodeId (h : nodeId json = .valid id) : json = .str id :=
  (nodeId_eq_valid_iff.mp h).1

lemma tag_of_fixedKind {u : Unit} {tag : Json} (h : fixedKind kind fields = .valid u)
    (htag : fields.get? "kind" = some tag) : tag = .str kind.word := by
  rcases optional_eq_valid_iff.mp h with ⟨json, hjson, hcheck⟩ | ⟨hnone, _⟩
  · obtain rfl : json = tag := Option.some.inj (hjson.symm.trans htag)
    split_ifs at hcheck with hword
    · cases json <;> simp_all [Json.str?]
    · exact absurd hcheck (reject_ne_valid _ _)
  · simp [hnone] at htag

lemma kind_of_readBody {body : Body} (h : readBody kind fields = .valid body) :
    body.kind = kind := by
  cases kind with
  | condition =>
    obtain ⟨f, _, hf, _, rfl⟩ := seq_eq_valid_iff.mp h
    obtain ⟨g, _, hg, _, rfl⟩ := seq_eq_valid_iff.mp hf
    obtain ⟨_, _, rfl⟩ := map_eq_valid_iff.mp hg
    rfl
  | action =>
    obtain ⟨f, _, hf, _, rfl⟩ := seq_eq_valid_iff.mp h
    obtain ⟨_, _, rfl⟩ := map_eq_valid_iff.mp hf
    rfl
  | logical =>
    obtain ⟨_, _, rfl⟩ := map_eq_valid_iff.mp h
    rfl

lemma readParts_eq_valid_iff {id : String} {body : Body} :
    readParts kind fields = .valid (id, body) ↔
      required fields "id" nodeId = .valid id ∧ fixedKind kind fields = .valid () ∧
        readBody kind fields = .valid body ∧ onlyFields (fieldNames kind) fields = .valid () := by
  constructor
  · intro h
    obtain ⟨f, _, hrest, honly, hmk⟩ := seq_eq_valid_iff.mp h
    obtain ⟨g, _, hhead, hbody, rfl⟩ := seq_eq_valid_iff.mp hrest
    obtain ⟨_, _, hfirst, hkind, rfl⟩ := seq_eq_valid_iff.mp hhead
    obtain ⟨_, hid, rfl⟩ := map_eq_valid_iff.mp hfirst
    obtain ⟨rfl, rfl⟩ := Prod.mk.inj hmk
    exact ⟨hid, hkind, hbody, honly⟩
  · rintro ⟨hid, hkind, hbody, honly⟩
    simp only [readParts, hid, hkind, hbody, honly]
    rfl

lemma get?_fillValue (hne : "value" ≠ key) :
    (fillValue kind fields).get? key = fields.get? key := by
  unfold fillValue
  split
  · exact Fields.get?_put_of_ne hne
  · rfl

namespace RuleNode

lemma of_eq_valid {id : String} {body : Body} {n : RuleNode} (h : of id body = .valid n) :
    n.id = id ∧ n.body = body := by
  unfold of at h
  split at h
  · split at h
    · cases h
      exact ⟨rfl, rfl⟩
    · exact absurd h (reject_ne_valid _ _)
  · exact absurd h (reject_ne_valid _ _)

/-- A node read from fields has the kind it was read as and the id that the fields give. The fields
name no other kind. -/
theorem ofFields_eq_valid {n : RuleNode} (h : ofFields kind fields = .valid n) :
    n.kind = kind ∧ fields.get? "id" = some (.str n.id) ∧
      ∀ tag, fields.get? "kind" = some tag → tag = .str kind.word := by
  obtain ⟨⟨id, body⟩, hparts, hof⟩ := andThen_eq_valid_iff.mp h
  obtain ⟨rfl, rfl⟩ := of_eq_valid hof
  obtain ⟨hid, hkind, hbody, _⟩ := readParts_eq_valid_iff.mp hparts
  obtain ⟨json, hget, hnode⟩ := required_eq_valid_iff.mp hid
  obtain rfl := eq_str_of_nodeId hnode
  refine ⟨kind_of_readBody hbody, ?_, fun tag htag => ?_⟩
  · rwa [get?_fillValue (by decide)] at hget
  · exact tag_of_fixedKind hkind ((get?_fillValue (by decide)).trans htag)

end RuleNode

namespace LooseNode

lemma get?_filter_id (hne : "id" ≠ key) :
    Fields.get? (fields.filter fun field => field.1 != "id") key = fields.get? key := by
  unfold Fields.get?
  rw [List.find?_filter]
  congr 2
  funext field
  by_cases hkey : field.1 = key
  · simp [hkey, hne.symm]
  · simp [hkey]

lemma ofFields_eq_valid {n : LooseNode} (h : ofFields fields = .valid n) :
    (∃ s, fields.get? "id" = some (.str s) ∧ n.key = .text s) ∧
      (Node.loose n).get? "kind" = fields.get? "kind" := by
  obtain ⟨_, _, hhead, _, rfl⟩ := seq_eq_valid_iff.mp h
  obtain ⟨s, hid, rfl⟩ := map_eq_valid_iff.mp hhead
  obtain ⟨json, hget, hnode⟩ := required_eq_valid_iff.mp hid
  obtain rfl := eq_str_of_nodeId hnode
  refine ⟨⟨s, hget, rfl⟩, ?_⟩
  simp [Node.get?, Node.fields, get?_filter_id]

end LooseNode

namespace Node

@[simp] lemma key_rule (r : RuleNode) : (Node.rule r).key = .text r.id := rfl

lemma get?_id (n : Node) : n.fields.get? "id" = some n.id := by
  cases n <;> simp [fields, RuleNode.fields, Node.id]

lemma kind?_eq_some_iff {n : Node} :
    n.kind? = some kind ↔
      ∃ word, n.get? "kind" = some (.str word) ∧ Kind.ofWord? word = some kind := by
  unfold kind? kindValue
  rcases h : n.get? "kind" with _ | json
  · simp [Json.str?]
  · cases json <;> simp [Json.str?]

/-- An edit that names neither id nor kind keeps both. -/
theorem revised_keeps {n m : Node} (h : n.revised changes = .valid m)
    (hid : changes.has "id" = false) (hkind : changes.has "kind" = false) :
    m.key = n.key ∧ ∀ kind, n.kind? = some kind → m.kind? = some kind := by
  have hgetId : (n.fields.putAll changes).get? "id" = some n.id :=
    (Fields.get?_putAll_of_not_has hid).trans n.get?_id
  have hgetKind : (n.fields.putAll changes).get? "kind" = n.get? "kind" :=
    Fields.get?_putAll_of_not_has hkind
  unfold revised at h
  split at h
  · next form hform =>
    obtain ⟨r, hr, rfl⟩ := map_eq_valid_iff.mp h
    obtain ⟨rfl, hid, htag⟩ := RuleNode.ofFields_eq_valid hr
    rw [hgetId, Option.some.injEq] at hid
    refine ⟨(key_eq_text_iff.mpr hid).symm, fun kind hk => ?_⟩
    obtain ⟨word, hword, hof⟩ := kind?_eq_some_iff.mp hk
    obtain ⟨rfl⟩ := Json.str.inj (htag _ (hgetKind.trans hword))
    rw [Kind.ofWord?_word] at hof
    rw [kind?_rule, hof]
  · obtain ⟨l, hl, rfl⟩ := map_eq_valid_iff.mp h
    obtain ⟨⟨s, hs, hkey⟩, hget⟩ := LooseNode.ofFields_eq_valid hl
    rw [hgetId, Option.some.injEq] at hs
    refine ⟨hkey.trans (key_eq_text_iff.mpr hs).symm, fun kind hk => ?_⟩
    rw [kind?_eq_some_iff] at hk ⊢
    rwa [hget, hgetKind]

/-- A node that keeps the rules keeps them after an edit, with the same id and kind. -/
theorem revised_rule {r : RuleNode} {m : Node} (h : (Node.rule r).revised changes = .valid m) :
    ∃ r', m = .rule r' ∧ r'.kind = r.kind := by
  obtain ⟨r', hr', rfl⟩ := map_eq_valid_iff.mp h
  exact ⟨r', rfl, (RuleNode.ofFields_eq_valid hr').1⟩

end Node
end Promotion
