import Promotion.Number.Numeral

/-! Limits for JSON values that are read or written: the digits of a whole number, and how deep
arrays and objects stand inside each other. -/
namespace Promotion.Json

/-- How much of a value gets through. The recursion over a value shares its room with the calls
around it, so the depth differs from place to place. -/
structure Limits where
  /-- The longest whole number, if there is one. -/
  digits : Option Nat
  depth : Nat
  deriving DecidableEq, Repr

namespace Limits

/-- Room for reading, or for a line of a log, with few calls around. -/
def reading : Limits := ⟨some Number.maxDigits, 980⟩

/-- Room for canonical texts with few calls around: each level takes two calls there. -/
def writing : Limits := ⟨some Number.maxDigits, 480⟩

end Limits

/-- Whether a number of digits is over the limit for whole numbers, if there is one. -/
def exceeds (limit : Option Nat) (digits : Nat) : Bool := limit.any fun most => most < digits

end Promotion.Json
