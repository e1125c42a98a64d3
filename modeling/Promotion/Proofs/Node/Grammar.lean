import Promotion.Proofs.Node.Payload
import Mathlib.Algebra.Order.Field.Rat
import Mathlib.Tactic.Linarith
import Mathlib.Tactic.Positivity

/-! The grammar of nodes as data. A value is read as a node exactly if it is an object by this
grammar, and the node has the id and the body that the grammar finds in it. -/
namespace Promotion
open Checked Check

/-- The exact value of a finite double. -/
def Double.exact (x : Double) : ℚ := x.signedRatio.1 / x.signedRatio.2

/-- Text with a character that is not blank. -/
def Spoken (s : String) : Prop := ∃ c ∈ s.toList, Text.isBlankChar c = false

/-- What a condition compares with, one value at a time. -/
inductive ConditionSubtype.Item : ConditionSubtype → Json → Prop
  | productId {n : Int} (h : 1 ≤ n) : Item .productId (.int n)
  | category {n : Int} (h : 1 ≤ n) : Item .category (.int n)
  | quantity {n : Int} (h : 0 ≤ n) : Item .quantity (.int n)
  | email {s : String} (h : Spoken s) : Item .email (.str s)
  | customerTier {s : String} (h : Spoken s) : Item .customerTier (.str s)

/-- What an operator takes: a list that is not empty, or a single value. -/
inductive ConditionSubtype.Operand (subtype : ConditionSubtype) : Operator → Json → Prop
  | list {operator : Operator} {items : List Json} (hlist : operator = .isIn ∨ operator = .notIn)
      (hsome : items ≠ []) (hitems : ∀ item ∈ items, subtype.Item item) :
      Operand subtype operator (.arr items)
  | single {operator : Operator} {value : Json} (hlist : ¬(operator = .isIn ∨ operator = .notIn))
      (hitem : subtype.Item value) : Operand subtype operator value

/-- How much an action does. -/
inductive ActionSubtype.Size : ActionSubtype → Json → Prop
  | percent {n : Int} (hpositive : 0 < n) (hmost : n ≤ 100) : Size .percentageDiscount (.int n)
  | fraction {x : Double} (hfinite : x.isFinite = true) (hpositive : 0 < x.exact)
      (hmost : x.exact ≤ 100) : Size .percentageDiscount (.float x)
  | units {n : Int} (h : 1 ≤ n) : Size .freeUnits (.int n)

/-- What stands for the value of a condition that has none. -/
def ConditionSubtype.standIn : ConditionSubtype → Json
  | .productId => .int 1
  | .category => .int 1
  | .quantity => .int 1
  | .email => .null
  | .customerTier => .null

/-- What stands for the size of an action that has none. -/
def ActionSubtype.standIn : ActionSubtype → Json
  | .percentageDiscount => .int 10
  | .freeUnits => .int 1

/-- The value among fields, or another one if it is missing or null. -/
def valueOr (fields : Fields) (other : Json) : Json :=
  ((fields.get? "value").getD .null).orElse other

/-- The fields that only nodes of a kind have. -/
def ownNames : Kind → List String
  | .condition => ["operator", "value"]
  | .action => ["value"]
  | .logical => []

/-- What the fields of all nodes have in common. The id is a text of whole characters. -/
structure Headed (kind : Kind) (fields : Fields) (id : String) : Prop where
  ofKind : fields.get? "kind" = some (.str kind.word)
  names : ∀ key ∈ fields.keys, key ∈ ["id", "kind", "subtype"] ++ ownNames kind
  named : fields.get? "id" = some (.str id)
  spoken : Spoken id
  whole : Text.holdsHalf id = false

/-- The grammar, kind by kind. An operator that is not given is the one for equality. -/
inductive Spells (fields : Fields) (id : String) : Body → Prop
  | condition {subtype : ConditionSubtype} {operator : Operator}
      (head : Headed .condition fields id)
      (hsubtype : fields.get? "subtype" = some (.str subtype.word))
      (hoperator : fields.get? "operator" = some (.str operator.word) ∨
        fields.get? "operator" = none ∧ operator = .equals)
      (hallowed : operator ∈ Operator.allowed subtype)
      (hvalue : subtype.Operand operator (valueOr fields subtype.standIn)) :
      Spells fields id (.condition subtype operator (valueOr fields subtype.standIn))
  | action {subtype : ActionSubtype} (head : Headed .action fields id)
      (hsubtype : fields.get? "subtype" = some (.str subtype.word))
      (hvalue : subtype.Size (valueOr fields subtype.standIn)) :
      Spells fields id (.action subtype (valueOr fields subtype.standIn))
  | logical {subtype : LogicalSubtype} (head : Headed .logical fields id)
      (hsubtype : fields.get? "subtype" = some (.str subtype.word)) :
      Spells fields id (.logical subtype)

variable {fields : Fields} {json value : Json} {id key : String} {kind : Kind} {body : Body}

/-! ### Words -/

lemma findWord_eq_some_iff {α : Type} {all : List α} {word : α → String} {s : String} {a : α}
    (hself : findWord all word (word a) = some a) : findWord all word s = some a ↔ s = word a := by
  constructor
  · intro h
    have hword := List.find?_some h
    exact (by simpa using hword : word a = s).symm
  · rintro rfl
    exact hself

lemma word_eq_valid_iff {α : Type} {ofWord? : String → Option α} {word : α → String} {a : α}
    (hword : ∀ s, ofWord? s = some a ↔ s = word a) :
    Check.word ofWord? json = .valid a ↔ json = .str (word a) := by
  unfold Check.word
  cases json with
  | str s =>
    simp only [Json.str?, Option.bind_some, Json.str.injEq, ← hword]
    cases ofWord? s <;> simp
  | _ => simp [Json.str?]

lemma Kind.ofWord?_eq_some_iff {s : String} : Kind.ofWord? s = some kind ↔ s = kind.word :=
  findWord_eq_some_iff kind.ofWord?_word

lemma ConditionSubtype.ofWord?_eq_some_iff {s : String} {subtype : ConditionSubtype} :
    ofWord? s = some subtype ↔ s = subtype.word :=
  findWord_eq_some_iff subtype.ofWord?_word

lemma ActionSubtype.ofWord?_eq_some_iff {s : String} {subtype : ActionSubtype} :
    ofWord? s = some subtype ↔ s = subtype.word :=
  findWord_eq_some_iff subtype.ofWord?_word

lemma LogicalSubtype.ofWord?_eq_some_iff {s : String} {subtype : LogicalSubtype} :
    ofWord? s = some subtype ↔ s = subtype.word :=
  findWord_eq_some_iff subtype.ofWord?_word

lemma Operator.ofWord?_eq_some_iff {s : String} {operator : Operator} :
    ofWord? s = some operator ↔ s = operator.word :=
  findWord_eq_some_iff operator.ofWord?_word

/-! ### Values -/

lemma isBlank_eq_false_iff {s : String} : Text.isBlank s = false ↔ Spoken s := by
  simp [Text.isBlank, Spoken]

lemma ConditionSubtype.admits_iff {subtype : ConditionSubtype} :
    subtype.admits value = true ↔ subtype.Item value := by
  constructor
  · intro h
    cases subtype <;> cases value <;> simp only [admits, reduceCtorEq, decide_eq_true_eq,
      Bool.not_eq_eq_eq_not, Bool.not_true, isBlank_eq_false_iff] at h
    · exact .productId h
    · exact .category h
    · exact .email h
    · exact .quantity h
    · exact .customerTier h
  · intro h
    cases h with
    | productId h => exact decide_eq_true h
    | category h => exact decide_eq_true h
    | quantity h => exact decide_eq_true h
    | email h => simp [admits, isBlank_eq_false_iff.mpr h]
    | customerTier h => simp [admits, isBlank_eq_false_iff.mpr h]

lemma Operator.takesList_iff {operator : Operator} :
    operator.takesList = true ↔ operator = .isIn ∨ operator = .notIn := by
  cases operator <;> simp [takesList]

/-- A condition fits exactly if its operator is allowed and takes its value. -/
lemma Body.fits_condition_iff {subtype : ConditionSubtype} {operator : Operator} :
    fault? (.condition subtype operator value) = none ↔
      operator ∈ Operator.allowed subtype ∧ subtype.Operand operator value := by
  rw [fault?_condition_eq_none_iff]
  refine and_congr_right fun _ => ?_
  by_cases hlist : operator.takesList = true
  · rw [if_pos hlist]
    have hlist' := Operator.takesList_iff.mp hlist
    constructor
    · rintro ⟨items, rfl, hsome, hitems⟩
      exact .list hlist' hsome fun item hitem => ConditionSubtype.admits_iff.mp (hitems item hitem)
    · intro h
      cases h with
      | @list items _ hsome hitems =>
        refine ⟨items, rfl, hsome, fun item hitem => ?_⟩
        exact ConditionSubtype.admits_iff.mpr (hitems item hitem)
      | single hnot => exact absurd hlist' hnot
  · rw [if_neg hlist, ConditionSubtype.admits_iff]
    have hlist' := fun h => hlist (Operator.takesList_iff.mpr h)
    constructor
    · exact .single hlist'
    · intro h
      cases h with
      | list hin => exact absurd hin hlist'
      | single _ hitem => exact hitem

namespace Double
variable {x : Double}

lemma ratio_snd_pos (x : Double) : 0 < x.ratio.2 := by
  unfold ratio
  split
  · exact Nat.one_pos
  · exact Nat.pow_pos Nat.two_pos

lemma ratio_fst_eq_zero_iff : x.ratio.1 = 0 ↔ x.significand = 0 := by
  unfold ratio
  split <;> simp

lemma exact_eq (x : Double) :
    x.exact = (if x.negative then -1 else 1) * (x.ratio.1 / x.ratio.2) := by
  unfold exact signedRatio
  cases x.negative <;> simp [neg_div]

/-- The test on the three fields is the one on the number that they stand for. -/
lemma isPositiveUpTo_iff (x : Double) (bound : Nat) :
    x.isPositiveUpTo bound = true ↔ x.isFinite = true ∧ 0 < x.exact ∧ x.exact ≤ bound := by
  have hden : (0 : ℚ) < x.ratio.2 := by exact_mod_cast x.ratio_snd_pos
  have hmagnitude : (0 : ℚ) ≤ x.ratio.1 / x.ratio.2 := by positivity
  rw [exact_eq]
  cases hsign : x.negative with
  | true =>
    have hnot : ¬(0 : ℚ) < -1 * (x.ratio.1 / x.ratio.2) := by linarith
    simp only [isPositiveUpTo, hsign, if_true, hnot, false_and, and_false, Bool.not_true,
      Bool.and_false, Bool.false_and, Bool.false_eq_true]
  | false =>
    have hpositive : (0 : ℚ) < x.ratio.1 / x.ratio.2 ↔ x.significand ≠ 0 := by
      rw [div_pos_iff_of_pos_right hden, Nat.cast_pos, Nat.pos_iff_ne_zero, Ne,
        ratio_fst_eq_zero_iff]
    have hmost : (x.ratio.1 / x.ratio.2 : ℚ) ≤ bound ↔ x.ratio.1 ≤ bound * x.ratio.2 := by
      rw [div_le_iff₀ hden]
      norm_cast
    simp [isPositiveUpTo, hsign, hpositive, hmost, and_assoc]

end Double

lemma ActionSubtype.admits_iff {subtype : ActionSubtype} :
    subtype.admits value = true ↔ subtype.Size value := by
  have hfraction : ∀ x : Double, x.isPositiveUpTo 100 = true ↔
      x.isFinite = true ∧ 0 < x.exact ∧ x.exact ≤ 100 :=
    fun x => x.isPositiveUpTo_iff 100
  constructor
  · intro h
    cases subtype <;> cases value <;> simp only [admits, reduceCtorEq, decide_eq_true_eq,
      Bool.and_eq_true, hfraction] at h
    · exact .percent h.1 h.2
    · exact .fraction h.1 h.2.1 h.2.2
    · exact .units h
  · intro h
    cases h with
    | percent hpositive hmost => simp [admits, hpositive, hmost]
    | fraction hfinite hpositive hmost => exact (hfraction _).mpr ⟨hfinite, hpositive, hmost⟩
    | units h => exact decide_eq_true h

/-! ### Filling in -/

/-- What is filled in is the value that stands for a missing or null one. -/
lemma value_fillValue (kind : Kind) (fields : Fields) :
    ((fillValue kind fields).get? "value").getD .null =
      valueOr fields ((initialValue? kind fields).getD .null) := by
  unfold fillValue valueOr
  cases hvalue : (fields.get? "value").getD .null with
  | null =>
    cases initialValue? kind fields with
    | none => simp [hvalue, Json.orElse]
    | some value => simp [Fields.get?_put_self, Json.orElse]
  | _ => simp [hvalue, Json.orElse]

lemma initialValue?_condition {subtype : ConditionSubtype}
    (h : fields.get? "subtype" = some (.str subtype.word)) :
    (initialValue? .condition fields).getD .null = subtype.standIn := by
  simp only [initialValue?, h, Option.bind_some, Json.str?, ConditionSubtype.ofWord?_word]
  cases subtype <;> rfl

lemma initialValue?_action {subtype : ActionSubtype}
    (h : fields.get? "subtype" = some (.str subtype.word)) :
    (initialValue? .action fields).getD .null = subtype.standIn := by
  simp only [initialValue?, h, Option.bind_some, Json.str?, ActionSubtype.ofWord?_word]
  cases subtype <;> rfl

/-- A kind whose nodes start with a value has a field for it. -/
lemma mem_fieldNames_of_initialValue? (h : initialValue? kind fields = some value) :
    "value" ∈ fieldNames kind := by
  cases kind with
  | condition => decide
  | action => decide
  | logical => cases h

/-- Filling in brings no field that the kind does not have. -/
lemma names_fillValue :
    (∀ key ∈ (fillValue kind fields).keys, key ∈ fieldNames kind) ↔
      ∀ key ∈ fields.keys, key ∈ fieldNames kind := by
  unfold fillValue
  split
  · next hinitial =>
    simp only [Fields.mem_keys_put, forall_eq_or_imp]
    exact and_iff_right (mem_fieldNames_of_initialValue? hinitial)
  · exact Iff.rfl

/-! ### Reading field by field -/

lemma isNodeId_iff : isNodeId id = true ↔ Spoken id ∧ Text.holdsHalf id = false := by
  simp [isNodeId, isBlank_eq_false_iff]

lemma onlyFields_eq_valid_iff {names : List String} {u : Unit} :
    onlyFields names fields = .valid u ↔ ∀ key ∈ fields.keys, key ∈ names := by
  unfold onlyFields
  cases hextra : fields.keys.filter fun key => !names.contains key with
  | nil => simpa [List.filter_eq_nil_iff] using hextra
  | cons key extra =>
    have hmem : key ∈ fields.keys.filter fun key => !names.contains key :=
      hextra ▸ List.mem_cons_self
    obtain ⟨hkey, hnot⟩ : key ∈ fields.keys ∧ key ∉ names := by simpa using hmem
    simp only [reduceCtorEq, false_iff]
    exact fun hall => hnot (hall key hkey)

lemma optional_anything_iff :
    Check.optional fields key .null anything = .valid value ↔
      value = (fields.get? key).getD .null := by
  rw [optional_eq_valid_iff]
  cases fields.get? key <;> simp [anything, eq_comm]

lemma readBody_condition_iff :
    readBody .condition fields = .valid body ↔ ∃ subtype operator,
      fields.get? "subtype" = some (.str subtype.word) ∧
      (fields.get? "operator" = some (.str operator.word) ∨
        fields.get? "operator" = none ∧ operator = .equals) ∧
      body = .condition subtype operator ((fields.get? "value").getD .null) := by
  have hsubtype : ∀ {json : Json} {a : ConditionSubtype},
      Check.word ConditionSubtype.ofWord? json = .valid a ↔ json = .str a.word :=
    word_eq_valid_iff fun _ => ConditionSubtype.ofWord?_eq_some_iff
  have hoperator : ∀ {a : Operator},
      optional fields "operator" .equals (Check.word Operator.ofWord?) = .valid a ↔
        fields.get? "operator" = some (.str a.word) ∨
          fields.get? "operator" = none ∧ a = .equals := by
    intro a
    rw [optional_eq_valid_iff]
    simp [word_eq_valid_iff fun _ => Operator.ofWord?_eq_some_iff, @eq_comm _ a]
  simp only [readBody, seq_eq_valid_iff, map_eq_valid_iff, required_eq_valid_iff,
    optional_anything_iff, hsubtype, hoperator]
  constructor
  · rintro ⟨_, value, ⟨_, operator, ⟨subtype, ⟨_, hgiven, rfl⟩, rfl⟩, hop, rfl⟩, rfl, rfl⟩
    exact ⟨subtype, operator, hgiven, hop, rfl⟩
  · rintro ⟨subtype, operator, hgiven, hop, rfl⟩
    exact ⟨_, _, ⟨_, operator, ⟨subtype, ⟨_, hgiven, rfl⟩, rfl⟩, hop, rfl⟩, rfl, rfl⟩

lemma readBody_action_iff :
    readBody .action fields = .valid body ↔ ∃ subtype : ActionSubtype,
      fields.get? "subtype" = some (.str subtype.word) ∧
      body = .action subtype ((fields.get? "value").getD .null) := by
  have hsubtype : ∀ {json : Json} {a : ActionSubtype},
      Check.word ActionSubtype.ofWord? json = .valid a ↔ json = .str a.word :=
    word_eq_valid_iff fun _ => ActionSubtype.ofWord?_eq_some_iff
  simp only [readBody, seq_eq_valid_iff, map_eq_valid_iff, required_eq_valid_iff,
    optional_anything_iff, hsubtype]
  constructor
  · rintro ⟨_, value, ⟨subtype, ⟨_, hgiven, rfl⟩, rfl⟩, rfl, rfl⟩
    exact ⟨subtype, hgiven, rfl⟩
  · rintro ⟨subtype, hgiven, rfl⟩
    exact ⟨_, _, ⟨subtype, ⟨_, hgiven, rfl⟩, rfl⟩, rfl, rfl⟩

lemma readBody_logical_iff :
    readBody .logical fields = .valid body ↔ ∃ subtype : LogicalSubtype,
      fields.get? "subtype" = some (.str subtype.word) ∧ body = .logical subtype := by
  have hsubtype : ∀ {json : Json} {a : LogicalSubtype},
      Check.word LogicalSubtype.ofWord? json = .valid a ↔ json = .str a.word :=
    word_eq_valid_iff fun _ => LogicalSubtype.ofWord?_eq_some_iff
  simp only [readBody, map_eq_valid_iff, required_eq_valid_iff, hsubtype]
  constructor
  · rintro ⟨subtype, ⟨_, hgiven, rfl⟩, rfl⟩
    exact ⟨subtype, hgiven, rfl⟩
  · rintro ⟨subtype, hgiven, rfl⟩
    exact ⟨subtype, ⟨_, hgiven, rfl⟩, rfl⟩

/-! ### Reading by the grammar -/

lemma fieldNames_eq (kind : Kind) :
    fieldNames kind = ["id", "kind", "subtype"] ++ ownNames kind := by
  cases kind <;> rfl

/-- The checks on id, kind and names ask for a head. -/
lemma headed_iff (hkind : fields.get? "kind" = some (.str kind.word)) :
    Headed kind fields id ↔
      required (fillValue kind fields) "id" nodeId = .valid id ∧
        fixedKind kind (fillValue kind fields) = .valid () ∧
        onlyFields (fieldNames kind) (fillValue kind fields) = .valid () := by
  have hfixed : fixedKind kind (fillValue kind fields) = .valid () := by
    have hsame : (Json.str kind.word).str? = some kind.word := rfl
    exact optional_eq_valid_iff.mpr
      (Or.inl ⟨_, (get?_fillValue (by decide)).trans hkind, by simp [hsame]⟩)
  rw [required_eq_valid_iff, onlyFields_eq_valid_iff, names_fillValue, get?_fillValue (by decide),
    fieldNames_eq]
  simp only [nodeId_eq_valid_iff, isNodeId_iff]
  constructor
  · rintro ⟨_, hnames, hid, hspoken, hwhole⟩
    exact ⟨⟨_, hid, rfl, hspoken, hwhole⟩, hfixed, hnames⟩
  · rintro ⟨⟨_, hid, rfl, hspoken, hwhole⟩, _, hnames⟩
    exact ⟨hkind, hnames, hid, hspoken, hwhole⟩

/-- Fields give the parts of a node that fits exactly if the grammar finds these parts. -/
theorem spells_iff (hkind : fields.get? "kind" = some (.str kind.word)) :
    body.kind = kind ∧ Spells fields id body ↔
      readParts kind (fillValue kind fields) = .valid (id, body) ∧ body.fault? = none := by
  have hsubtype : (fillValue kind fields).get? "subtype" = fields.get? "subtype" :=
    get?_fillValue (by decide)
  have hoperator : (fillValue kind fields).get? "operator" = fields.get? "operator" :=
    get?_fillValue (by decide)
  have hvalue := value_fillValue kind fields
  rw [readParts_eq_valid_iff]
  constructor
  · rintro ⟨hbody, hspells⟩
    cases hspells with
    | @condition subtype operator head hgiven hop hallowed hoperand =>
      obtain rfl : Kind.condition = kind := hbody
      obtain ⟨hid, hfixed, hnames⟩ := (headed_iff hkind).mp head
      rw [initialValue?_condition hgiven] at hvalue
      refine ⟨⟨hid, hfixed, ?_, hnames⟩, Body.fits_condition_iff.mpr ⟨hallowed, hoperand⟩⟩
      refine readBody_condition_iff.mpr ⟨subtype, operator, hsubtype.trans hgiven, ?_, ?_⟩
      · exact hoperator.symm ▸ hop
      · exact congrArg _ hvalue.symm
    | @action subtype head hgiven hsize =>
      obtain rfl : Kind.action = kind := hbody
      obtain ⟨hid, hfixed, hnames⟩ := (headed_iff hkind).mp head
      rw [initialValue?_action hgiven] at hvalue
      have hfits := Body.fault?_action_eq_none_iff.mpr (ActionSubtype.admits_iff.mpr hsize)
      refine ⟨⟨hid, hfixed, ?_, hnames⟩, hfits⟩
      exact readBody_action_iff.mpr ⟨subtype, hsubtype.trans hgiven, congrArg _ hvalue.symm⟩
    | @logical subtype head hgiven =>
      obtain rfl : Kind.logical = kind := hbody
      obtain ⟨hid, hfixed, hnames⟩ := (headed_iff hkind).mp head
      refine ⟨⟨hid, hfixed, ?_, hnames⟩, rfl⟩
      exact readBody_logical_iff.mpr ⟨subtype, hsubtype.trans hgiven, rfl⟩
  · rintro ⟨⟨hid, hfixed, hbody, hnames⟩, hfits⟩
    have head : Headed kind fields id := (headed_iff hkind).mpr ⟨hid, hfixed, hnames⟩
    refine ⟨kind_of_readBody hbody, ?_⟩
    cases kind with
    | condition =>
      obtain ⟨subtype, operator, hgiven, hop, rfl⟩ := readBody_condition_iff.mp hbody
      rw [hsubtype] at hgiven
      rw [hoperator] at hop
      rw [hvalue, initialValue?_condition hgiven] at hfits ⊢
      obtain ⟨hallowed, hoperand⟩ := Body.fits_condition_iff.mp hfits
      exact .condition head hgiven hop hallowed hoperand
    | action =>
      obtain ⟨subtype, hgiven, rfl⟩ := readBody_action_iff.mp hbody
      rw [hsubtype] at hgiven
      rw [hvalue, initialValue?_action hgiven] at hfits ⊢
      have hsize := Body.fault?_action_eq_none_iff.mp hfits
      exact .action head hgiven (ActionSubtype.admits_iff.mp hsize)
    | logical =>
      obtain ⟨subtype, hgiven, rfl⟩ := readBody_logical_iff.mp hbody
      exact .logical head (hsubtype.symm.trans hgiven)

lemma Spells.headed (h : Spells fields id body) : Headed body.kind fields id := by
  cases h with
  | condition head => exact head
  | action head => exact head
  | logical head => exact head

lemma Spells.fits (h : Spells fields id body) : body.fault? = none :=
  ((spells_iff h.headed.ofKind).mp ⟨rfl, h⟩).2

namespace RuleNode
variable {n : RuleNode}

lemma ofFields_eq_valid_iff (hkind : fields.get? "kind" = some (.str kind.word)) :
    ofFields kind fields = .valid n ↔ n.kind = kind ∧ Spells fields n.id n.body := by
  have hparts : n.body.kind = kind ∧ Spells fields n.id n.body ↔ _ := spells_iff hkind
  refine Iff.trans ?_ hparts.symm
  unfold ofFields
  rw [andThen_eq_valid_iff]
  constructor
  · rintro ⟨⟨id, body⟩, hread, hof⟩
    obtain ⟨rfl, rfl⟩ := of_eq_valid hof
    exact ⟨hread, n.bodyFits⟩
  · rintro ⟨hread, _⟩
    exact ⟨_, hread, n.of_id_body⟩

/-- Data that name a kind are read as a node of that kind. -/
lemma parse_obj (hkind : fields.get? "kind" = some (.str kind.word)) :
    parse (.obj fields) = (ofFields kind fields).under kind.word := by
  simp only [parse, hkind, Json.str?, Option.bind_some, Kind.ofWord?_word]

lemma parse_eq_valid_iff_ofFields :
    parse json = .valid n ↔ ∃ (fields : Fields) (kind : Kind), json = .obj fields ∧
      fields.get? "kind" = some (.str kind.word) ∧ ofFields kind fields = .valid n := by
  constructor
  · intro h
    unfold parse at h
    split at h
    · next fields =>
      split at h
      · exact absurd h (reject_ne_valid _ _)
      · next tag htag =>
        split at h
        · next kind hkind =>
          obtain ⟨word, hword, hof⟩ := Option.bind_eq_some_iff.mp hkind
          obtain rfl := Kind.ofWord?_eq_some_iff.mp hof
          have hstr : tag = .str kind.word := by
            cases tag <;> simp_all [Json.str?]
          exact ⟨fields, kind, rfl, hstr ▸ htag, under_eq_valid_iff.mp h⟩
        · exact absurd h (reject_ne_valid _ _)
    · exact absurd h (reject_ne_valid _ _)
  · rintro ⟨fields, kind, rfl, hkind, hread⟩
    rw [parse_obj hkind, under_eq_valid_iff]
    exact hread

theorem parse_eq_valid_iff :
    parse json = .valid n ↔ ∃ fields, json = .obj fields ∧ Spells fields n.id n.body := by
  rw [parse_eq_valid_iff_ofFields]
  constructor
  · rintro ⟨fields, kind, rfl, hkind, hread⟩
    exact ⟨fields, rfl, ((ofFields_eq_valid_iff hkind).mp hread).2⟩
  · rintro ⟨fields, rfl, hspells⟩
    have hkind := hspells.headed.ofKind
    exact ⟨fields, n.kind, rfl, hkind, (ofFields_eq_valid_iff hkind).mpr ⟨rfl, hspells⟩⟩

end RuleNode
end Promotion
