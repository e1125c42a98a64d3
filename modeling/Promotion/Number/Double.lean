/-! Doubles: 64-bit binary floating point numbers by their three fields, and the double nearest a
ratio of whole numbers. -/
namespace Promotion

/-- The weight of the bit above the fraction; all fractions lie below it. -/
def Double.leadingBit : Nat := 0x10000000000000

/-- A double. The exponent is biased; its largest value marks the infinities and, with a fraction,
what is not a number. -/
structure Double where
  negative : Bool
  exponent : Fin 2048
  fraction : Fin Double.leadingBit
  deriving DecidableEq, Repr

namespace Double

def zero (negative : Bool) : Double := ⟨negative, ⟨0, by decide⟩, ⟨0, by decide⟩⟩

def infinity (negative : Bool) : Double := ⟨negative, ⟨2047, by decide⟩, ⟨0, by decide⟩⟩

def nan : Double := ⟨false, ⟨2047, by decide⟩, ⟨leadingBit / 2, by decide⟩⟩

instance : Inhabited Double := ⟨zero false⟩

def isFinite (x : Double) : Bool := x.exponent.val != 2047

def isNaN (x : Double) : Bool := x.exponent.val == 2047 && x.fraction.val != 0

/-- The whole number `m` of the magnitude `m · 2 ^ scale`. -/
def significand (x : Double) : Nat :=
  if x.exponent.val = 0 then x.fraction.val else leadingBit + x.fraction.val

def scale (x : Double) : Int := max (x.exponent.val : Int) 1 - 1075

/-- The magnitude of a finite double as a ratio of whole numbers. -/
def ratio (x : Double) : Nat × Nat :=
  if 0 ≤ x.scale then (x.significand * Nat.pow 2 x.scale.toNat, 1)
  else (x.significand, Nat.pow 2 (-x.scale).toNat)

/-- A quotient rounded to the nearest whole number, a half to the even neighbour. -/
def roundDiv (num den : Nat) : Nat :=
  let q := num / den
  let r := num % den
  if 2 * r < den then q
  else if den < 2 * r then q + 1
  else q + q % 2

/-- The power of two in whose multiples a positive ratio is rounded: the ratio is below `2 ^ 53`
of them, and not below `2 ^ 52` unless they are the smallest there are. -/
def gridScale (num den : Nat) : Int :=
  let e : Int := (num.log2 : Int) - den.log2
  let below := if 0 ≤ e then num < den * Nat.pow 2 e.toNat else num * Nat.pow 2 (-e).toNat < den
  max (if below then e - 53 else e - 52) (-1074)

/-- The double whose exponent and fraction fields, read as one number, are given; a number past
the largest finite one is the infinity. -/
def ofFields (negative : Bool) (fields : Nat) : Double :=
  if h : fields < 2047 * leadingBit then
    ⟨negative, ⟨fields / leadingBit, Nat.div_lt_of_lt_mul (by unfold leadingBit at *; omega)⟩,
      ⟨fields % leadingBit, Nat.mod_lt _ (by decide)⟩⟩
  else infinity negative

/-- The double nearest a ratio of whole numbers, a tie to the even neighbour. -/
def ofRatio (negative : Bool) (num den : Nat) : Double :=
  if num = 0 then zero negative
  else
    let q := gridScale num den
    let m := if 0 ≤ q then roundDiv num (den * Nat.pow 2 q.toNat)
      else roundDiv (num * Nat.pow 2 (-q).toNat) den
    ofFields negative ((q + 1074).toNat * leadingBit + m)

/-- The double nearest a whole number. -/
def ofInt (n : Int) : Double := ofRatio (n < 0) n.natAbs 1

/-- The double nearest `digits · 10 ^ exponent`. Outside the range of doubles the power of ten is
not written out. -/
def ofDecimal (negative : Bool) (digits : Nat) (exponent : Int) : Double :=
  let size : Int := (Nat.toDigits 10 digits).length + exponent
  if digits = 0 then zero negative
  else if 310 < size then infinity negative
  else if size < -330 then zero negative
  else if 0 ≤ exponent then ofRatio negative (digits * Nat.pow 10 exponent.toNat) 1
  else ofRatio negative digits (Nat.pow 10 (-exponent).toNat)

/-- The product with a whole number, rounded to the nearest double. -/
def scaleBy (x : Double) (k : Nat) : Double := ofRatio x.negative (x.ratio.1 * k) x.ratio.2

/-- The quotient by a whole number, rounded to the nearest double. -/
def divideBy (x : Double) (k : Nat) : Double := ofRatio x.negative x.ratio.1 (x.ratio.2 * k)

/-- The whole part of a finite double; the fraction is cut off. -/
def truncate (x : Double) : Int :=
  let n : Int := (x.ratio.1 / x.ratio.2 : Nat)
  if x.negative then -n else n

/-- Whether a double is a whole number. -/
def isWhole (x : Double) : Bool := x.isFinite && x.ratio.1 % x.ratio.2 == 0

/-- The exact value of a finite double, as a signed numerator over a denominator. -/
def signedRatio (x : Double) : Int × Nat :=
  (if x.negative then -(x.ratio.1 : Int) else x.ratio.1, x.ratio.2)

/-- Whether a double lies strictly between a whole number and its negation. -/
def isWithin (bound : Nat) (x : Double) : Bool := x.isFinite && x.ratio.1 < bound * x.ratio.2

/-- Whether a double lies above zero and not above a whole number. -/
def isPositiveUpTo (bound : Nat) (x : Double) : Bool :=
  x.isFinite && !x.negative && x.significand != 0 && x.ratio.1 ≤ bound * x.ratio.2

/-- Equality of values: both zeros are equal, and what is not a number differs from itself. -/
def sameValue (x y : Double) : Bool :=
  !x.isNaN && !y.isNaN && (x == y || (x.significand == 0 && y.significand == 0))

/-- Equality of a double with a whole number. -/
def isInt (x : Double) (n : Int) : Bool := x.isWhole && x.truncate == n

end Double
end Promotion
