/-! The words of rule graphs: kinds, subtypes and operators, and what goes with them. -/
namespace Promotion

/-- The value of a closed list that is written with a given word. -/
def findWord {α : Type} (all : List α) (word : α → String) (s : String) : Option α :=
  all.find? fun a => word a == s

inductive Kind where
  | condition
  | action
  | logical
  deriving DecidableEq, Repr

inductive ConditionSubtype where
  | productId
  | category
  | email
  | quantity
  | customerTier
  deriving DecidableEq, Repr

inductive ActionSubtype where
  | percentageDiscount
  | freeUnits
  deriving DecidableEq, Repr

inductive LogicalSubtype where
  | and
  | or
  deriving DecidableEq, Repr

inductive Operator where
  | equals
  | notEquals
  | greaterThan
  | lessThan
  | greaterThanOrEqual
  | lessThanOrEqual
  | contains
  | isIn
  | notIn
  deriving DecidableEq, Repr

/-- What a condition of a compiled rule looks at. -/
inductive ConditionType where
  | productId
  | categoryId
  | customerEmail
  | quantity
  | customerTier
  deriving DecidableEq, Repr

/-- The named inputs and outputs of a node. -/
structure Sockets where
  inputs : List String
  outputs : List String
  deriving DecidableEq, Repr

namespace Kind

def all : List Kind := [.condition, .action, .logical]

def word : Kind → String
  | .condition => "condition"
  | .action => "action"
  | .logical => "logical"

def ofWord? : String → Option Kind := findWord all word

@[simp] theorem ofWord?_word (k : Kind) : ofWord? k.word = some k := by cases k <;> rfl

def sockets : Kind → Sockets
  | .condition => ⟨[], ["condition"]⟩
  | .action => ⟨["condition"], []⟩
  | .logical => ⟨["a", "b"], ["result"]⟩

end Kind

namespace ConditionSubtype

def all : List ConditionSubtype := [.productId, .category, .email, .quantity, .customerTier]

def word : ConditionSubtype → String
  | .productId => "product_id"
  | .category => "category"
  | .email => "email"
  | .quantity => "quantity"
  | .customerTier => "customer_tier"

def ofWord? : String → Option ConditionSubtype := findWord all word

@[simp] theorem ofWord?_word (s : ConditionSubtype) : ofWord? s.word = some s := by
  cases s <;> rfl

/-- What a condition of this subtype becomes in a compiled rule. -/
def compiled : ConditionSubtype → ConditionType
  | .productId => .productId
  | .category => .categoryId
  | .email => .customerEmail
  | .quantity => .quantity
  | .customerTier => .customerTier

end ConditionSubtype

namespace ConditionType

def all : List ConditionType := [.productId, .categoryId, .customerEmail, .quantity, .customerTier]

def word : ConditionType → String
  | .productId => "product_id"
  | .categoryId => "category_id"
  | .customerEmail => "customer_email"
  | .quantity => "quantity"
  | .customerTier => "customer_tier"

def ofWord? : String → Option ConditionType := findWord all word

@[simp] theorem ofWord?_word (t : ConditionType) : ofWord? t.word = some t := by cases t <;> rfl

/-- The subtype that is compiled to this. -/
def subtype : ConditionType → ConditionSubtype
  | .productId => .productId
  | .categoryId => .category
  | .customerEmail => .email
  | .quantity => .quantity
  | .customerTier => .customerTier

@[simp] theorem subtype_compiled (s : ConditionSubtype) : s.compiled.subtype = s := by
  cases s <;> rfl

end ConditionType

namespace ActionSubtype

def all : List ActionSubtype := [.percentageDiscount, .freeUnits]

def word : ActionSubtype → String
  | .percentageDiscount => "percentage_discount"
  | .freeUnits => "free_units"

def ofWord? : String → Option ActionSubtype := findWord all word

@[simp] theorem ofWord?_word (s : ActionSubtype) : ofWord? s.word = some s := by cases s <;> rfl

end ActionSubtype

namespace LogicalSubtype

def all : List LogicalSubtype := [.and, .or]

def word : LogicalSubtype → String
  | .and => "and"
  | .or => "or"

def ofWord? : String → Option LogicalSubtype := findWord all word

@[simp] theorem ofWord?_word (s : LogicalSubtype) : ofWord? s.word = some s := by cases s <;> rfl

end LogicalSubtype

namespace Operator

def all : List Operator :=
  [.equals, .notEquals, .greaterThan, .lessThan, .greaterThanOrEqual, .lessThanOrEqual, .contains,
    .isIn, .notIn]

def word : Operator → String
  | .equals => "equals"
  | .notEquals => "not_equals"
  | .greaterThan => "greater_than"
  | .lessThan => "less_than"
  | .greaterThanOrEqual => "greater_than_or_equal"
  | .lessThanOrEqual => "less_than_or_equal"
  | .contains => "contains"
  | .isIn => "in"
  | .notIn => "not_in"

def ofWord? : String → Option Operator := findWord all word

@[simp] theorem ofWord?_word (o : Operator) : ofWord? o.word = some o := by cases o <;> rfl

/-- Whether the operator compares with a list of candidates. -/
def takesList : Operator → Bool
  | .isIn => true
  | .notIn => true
  | _ => false

def equality : List Operator := [.equals, .notEquals, .isIn, .notIn]

def ordering : List Operator := [.greaterThan, .lessThan, .greaterThanOrEqual, .lessThanOrEqual]

/-- The operators that make sense for a subtype; ids of numbers have an order too. -/
def allowed : ConditionSubtype → List Operator
  | .productId => equality ++ ordering
  | .category => equality ++ ordering
  | .email => equality ++ [.contains]
  | .quantity => [.equals, .notEquals] ++ ordering
  | .customerTier => equality

/-- The words of some operators in the order of their code points. -/
def sortedWords (operators : List Operator) : List String :=
  (operators.map word).mergeSort fun a b => a ≤ b

end Operator

/-- Whether a word is a subtype of a kind. -/
def Kind.knowsSubtype (word : String) : Kind → Bool
  | .condition => (ConditionSubtype.ofWord? word).isSome
  | .action => (ActionSubtype.ofWord? word).isSome
  | .logical => (LogicalSubtype.ofWord? word).isSome

end Promotion
