import Promotion.Number.Double

/-! JSON values. Whole numbers and doubles are different values, and an object keeps the order of
its keys. -/
namespace Promotion

inductive Json where
  | null
  | bool (value : Bool)
  | int (value : Int)
  | float (value : Double)
  | str (value : String)
  | arr (items : List Json)
  | obj (fields : List (String × Json))
  deriving Inhabited

namespace Json

mutual
def same : Json → Json → Bool
  | .null, .null => true
  | .bool a, .bool b => a == b
  | .int a, .int b => a == b
  | .float a, .float b => decide (a = b)
  | .str a, .str b => a == b
  | .arr xs, .arr ys => sameItems xs ys
  | .obj xs, .obj ys => sameFields xs ys
  | _, _ => false

def sameItems : List Json → List Json → Bool
  | [], [] => true
  | x :: xs, y :: ys => same x y && sameItems xs ys
  | _, _ => false

def sameFields : List (String × Json) → List (String × Json) → Bool
  | [], [] => true
  | (k, x) :: xs, (l, y) :: ys => k == l && same x y && sameFields xs ys
  | _, _ => false
end

mutual
theorem same_iff (a b : Json) : same a b = true ↔ a = b := by
  cases a <;> cases b <;> simp [same]
  · exact sameItems_iff _ _
  · exact sameFields_iff _ _

theorem sameItems_iff (xs ys : List Json) : sameItems xs ys = true ↔ xs = ys := by
  cases xs with
  | nil => cases ys <;> simp [sameItems]
  | cons x xs => cases ys with
    | nil => simp [sameItems]
    | cons y ys => simp [sameItems, same_iff x y, sameItems_iff xs ys]

theorem sameFields_iff (xs ys : List (String × Json)) : sameFields xs ys = true ↔ xs = ys := by
  cases xs with
  | nil => cases ys <;> simp [sameFields]
  | cons x xs => cases ys with
    | nil => simp [sameFields]
    | cons y ys =>
      obtain ⟨k, x⟩ := x
      obtain ⟨l, y⟩ := y
      simp [sameFields, same_iff x y, sameFields_iff xs ys]
end

instance : DecidableEq Json := fun a b => decidable_of_iff _ (same_iff a b)

end Json

/-- The fields of an object in the order of their first appearance. -/
abbrev Fields := List (String × Json)

namespace Fields

def get? (fields : Fields) (key : String) : Option Json :=
  (fields.find? fun field => field.1 == key).map (·.2)

def has (fields : Fields) (key : String) : Bool := fields.any fun field => field.1 == key

/-- Sets a key; a key that is present keeps its place. -/
def put (fields : Fields) (key : String) (value : Json) : Fields :=
  if fields.has key then fields.map fun field => if field.1 == key then (key, value) else field
  else fields ++ [(key, value)]

/-- Sets several keys one after the other; the last value of a key counts. -/
def putAll (fields changes : Fields) : Fields :=
  changes.foldl (fun fields change => fields.put change.1 change.2) fields

/-- The fields that pairs describe. -/
def ofPairs (pairs : List (String × Json)) : Fields := putAll [] pairs

def keys (fields : Fields) : List String := fields.map (·.1)

@[simp] theorem get?_nil (key : String) : get? [] key = none := rfl

@[simp] theorem get?_cons (key k : String) (value : Json) (fields : Fields) :
    get? ((k, value) :: fields) key = if k == key then some value else get? fields key := by
  by_cases h : k == key <;> simp [get?, h]

end Fields

namespace Json

def get? (key : String) : Json → Option Json
  | .obj fields => Fields.get? fields key
  | _ => none

def str? : Json → Option String
  | .str s => some s
  | _ => none

def int? : Json → Option Int
  | .int n => some n
  | _ => none

def items? : Json → Option (List Json)
  | .arr xs => some xs
  | _ => none

def fields? : Json → Option Fields
  | .obj fields => some fields
  | _ => none

/-- The value under a key of an object, or null. -/
def field (json : Json) (key : String) : Json := (json.get? key).getD .null

def ofOption {α : Type} (f : α → Json) : Option α → Json
  | none => .null
  | some a => f a

def strings (xs : List String) : Json := .arr (xs.map .str)

/-- A value, or another one in the place of null. -/
def orElse (json other : Json) : Json :=
  match json with
  | .null => other
  | json => json

/-- Whether a value counts as yes: everything but null, false, zero and what is empty. -/
def truthy : Json → Bool
  | .null => false
  | .bool b => b
  | .int n => n != 0
  | .float x => x.significand != 0
  | .str s => s != ""
  | .arr xs => !xs.isEmpty
  | .obj fields => !fields.isEmpty

/-- The word for the type of a value, as messages use it. -/
def typeName : Json → String
  | .null => "NoneType"
  | .bool _ => "bool"
  | .int _ => "int"
  | .float _ => "float"
  | .str _ => "str"
  | .arr _ => "list"
  | .obj _ => "dict"

mutual
/-- Equality of values: a whole number equals the double with its value, a truth value equals 1 or
0, and the order of keys does not count. -/
def alike : Json → Json → Bool
  | .int a, .float x => x.isInt a
  | .float x, .int a => x.isInt a
  | .bool b, .int a => a == if b then 1 else 0
  | .int a, .bool b => a == if b then 1 else 0
  | .bool b, .float x => x.isInt (if b then 1 else 0)
  | .float x, .bool b => x.isInt (if b then 1 else 0)
  | .float x, .float y => x.sameValue y
  | .arr xs, .arr ys => alikeItems xs ys
  | .obj xs, .obj ys => xs.length == ys.length && alikeFields xs ys
  | x, y => same x y

def alikeItems : List Json → List Json → Bool
  | [], [] => true
  | x :: xs, y :: ys => alike x y && alikeItems xs ys
  | _, _ => false

def alikeFields : List (String × Json) → Fields → Bool
  | [], _ => true
  | (k, x) :: xs, ys =>
    (match Fields.get? ys k with
      | some y => alike x y
      | none => false) && alikeFields xs ys
end

end Json
end Promotion
