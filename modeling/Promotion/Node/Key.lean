import Promotion.Json.Basic

/-! Keys: what nodes are looked up by. -/
namespace Promotion

/-- What tells nodes apart. Numbers and truth values count by what they are worth. -/
inductive NodeKey where
  | nothing
  | text (s : String)
  | whole (n : Int)
  | real (x : Double)
  deriving DecidableEq, Repr

namespace NodeKey

/-- The key that a value gives; a list or an object gives none. -/
def ofJson? : Json → Option NodeKey
  | .null => some .nothing
  | .bool b => some (.whole (if b then 1 else 0))
  | .int n => some (.whole n)
  | .float x => some (if x.isWhole then .whole x.truncate else .real x)
  | .str s => some (.text s)
  | .arr _ => none
  | .obj _ => none

@[simp] theorem ofJson?_str (s : String) : ofJson? (.str s) = some (.text s) := rfl

/-- Only a text gives its key. -/
theorem ofJson?_eq_text_iff {json : Json} {s : String} :
    ofJson? json = some (.text s) ↔ json = .str s := by
  cases json with
  | float x => by_cases h : x.isWhole <;> simp [ofJson?, h]
  | _ => simp [ofJson?]

end NodeKey
end Promotion
