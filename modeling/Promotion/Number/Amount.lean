import Promotion.Json.Basic

/-! Numbers that are whole or not, kept as they were given. -/
namespace Promotion

inductive Amount where
  | whole (n : Int)
  | real (x : Double)
  deriving DecidableEq, Repr

namespace Amount

def toJson : Amount → Json
  | .whole n => .int n
  | .real x => .float x

def ofJson? : Json → Option Amount
  | .int n => some (.whole n)
  | .float x => some (.real x)
  | _ => none

@[simp] theorem ofJson?_toJson (a : Amount) : ofJson? a.toJson = some a := by cases a <;> rfl

end Amount
end Promotion
