import Promotion.Number.Double
import Promotion.Text.Digit

/-! The shortest decimal of a double: the fewest digits that read back as the same double, and of
those the nearest. -/
namespace Promotion.Double

/-- A decimal `digits · 10 ^ exponent`. -/
structure Decimal where
  digits : Nat
  exponent : Int
  deriving DecidableEq, Repr

/-- A positive magnitude `m · 2 ^ q` in quarters of its unit, with the bounds of the reals that
round to it, over a common denominator. -/
structure Interval where
  low : Nat
  mid : Nat
  high : Nat
  den : Nat
  closed : Bool

/-- The reals that round to `m · 2 ^ q`. Below a power of two the neighbours lie half as far
apart; the ends belong to it iff `m` is even. -/
def interval (m : Nat) (q : Int) : Interval :=
  let near := if m = leadingBit ∧ -1074 < q then 1 else 2
  let up := if 2 ≤ q then Nat.pow 2 (q - 2).toNat else 1
  let den := if 2 ≤ q then 1 else Nat.pow 2 (2 - q).toNat
  ⟨(4 * m - near) * up, 4 * m * up, (4 * m + 2) * up, den, m % 2 = 0⟩

/-- The power of ten of the first digit of a positive ratio. -/
def leadingExponent (num den : Nat) : Int :=
  if den ≤ num then (Nat.toDigits 10 (num / den)).length - 1
  else -((List.range 400).find? fun j => den ≤ num * Nat.pow 10 j).getD 0

/-- The multiples of `10 ^ k` next to the middle of an interval that lie in it, the nearer one, and
of two as near the even one. -/
def Interval.nearest? (i : Interval) (k : Int) : Option Nat :=
  let ten := if 0 ≤ k then Nat.pow 10 k.toNat else 1
  let inv := if 0 ≤ k then 1 else Nat.pow 10 (-k).toNat
  let unit := ten * i.den
  let inside (d : Nat) : Bool :=
    if i.closed then i.low * inv ≤ d * unit && d * unit ≤ i.high * inv
    else i.low * inv < d * unit && d * unit < i.high * inv
  let below := i.mid * inv / unit
  let before := i.mid * inv - below * unit
  let after := (below + 1) * unit - i.mid * inv
  if inside below && (!inside (below + 1) || before < after || (before == after && below % 2 == 0))
  then some below
  else if inside (below + 1) then some (below + 1)
  else none

/-- The shortest decimal that reads back as `m · 2 ^ q`; seventeen digits always do. -/
def shortest (m : Nat) (q : Int) : Decimal :=
  let i := interval m q
  let lead := leadingExponent i.mid i.den
  ((List.range 17).findSome? fun n : Nat =>
    (i.nearest? (lead - n)).map fun d => Decimal.mk d (lead - n)).getD ⟨0, 0⟩

/-- A decimal point stands among or beside the digits when the power of ten of the first digit is
from here on … -/
def pointFrom : Int := -4

/-- … and below this; otherwise the power is written out. -/
def pointBelow : Int := 16

/-- The text of a decimal with the given digits, the first of them at a power of ten. -/
def decimalText (digits : List Char) (lead : Int) : List Char :=
  if pointFrom ≤ lead ∧ lead < pointBelow then
    if lead < 0 then '0' :: '.' :: (List.replicate (-lead - 1).toNat '0' ++ digits)
    else
      let whole := digits.take (lead.toNat + 1)
      let rest := digits.drop (lead.toNat + 1)
      whole ++ List.replicate (lead.toNat + 1 - whole.length) '0' ++
        '.' :: (if rest.isEmpty then ['0'] else rest)
  else
    let rest := digits.drop 1
    let power := Text.decimal lead.natAbs
    digits.take 1 ++ (if rest.isEmpty then [] else '.' :: rest) ++
      'e' :: (if lead < 0 then '-' else '+') ::
        (if power.length < 2 then '0' :: power else power)

/-- The text of a double: the shortest decimal that reads back, never without a point or a power
of ten. -/
def text (x : Double) : List Char :=
  if x.isNaN then ['n', 'a', 'n']
  else
    (if x.negative then ['-'] else []) ++
      if !x.isFinite then ['i', 'n', 'f']
      else if x.significand = 0 then ['0', '.', '0']
      else
        let d := shortest x.significand x.scale
        let written := Text.decimal d.digits
        let lead := d.exponent + written.length - 1
        decimalText (written.reverse.dropWhile (· == '0')).reverse lead

end Promotion.Double
