import Promotion.Number.Shortest

/-! The text of a double with a number of digits that is asked for, rounded from its exact value, a
half to the even digit. -/
namespace Promotion.Double

/-- How a number is laid out: with its point in place, with a power of ten behind one digit, or in
the one of the two forms that suits its size. -/
inductive Form where
  | fixed
  | scientific
  | general
  deriving DecidableEq, Repr

/-- A ratio rounded to a number of digits, and the power of ten of the first of them. -/
def roundedDigits (count num den : Nat) : List Char × Int :=
  if num = 0 then (List.replicate count '0', 0)
  else
    let lead := leadingExponent num den
    let shift : Int := count - 1 - lead
    let n := if 0 ≤ shift then roundDiv (num * Nat.pow 10 shift.toNat) den
      else roundDiv num (den * Nat.pow 10 (-shift).toNat)
    -- A digit more than asked for is there only when all nines were rounded up.
    if count < (Text.decimal n).length then ((Text.decimal n).take count, lead + 1)
    else (Text.decimal n, lead)

/-- A fraction behind its whole part; the point of an empty one can be kept. -/
def withPoint (keep : Bool) (whole fraction : List Char) : List Char :=
  whole ++ if fraction.isEmpty && !keep then [] else '.' :: fraction

/-- A fraction without the zeros at its end, unless they are kept. -/
def trimZeros (keep : Bool) (fraction : List Char) : List Char :=
  if keep then fraction else (fraction.reverse.dropWhile (· == '0')).reverse

/-- A power of ten with its sign, of two digits at least. -/
def powerText (power : Int) : List Char :=
  let digits := Text.decimal power.natAbs
  'e' :: (if power < 0 then '-' else '+') :: (List.replicate (2 - digits.length) '0' ++ digits)

/-- The magnitude of a finite double with some places behind the point. -/
def fixedText (keep : Bool) (places : Nat) (x : Double) : List Char :=
  let n := roundDiv (x.ratio.1 * Nat.pow 10 places) x.ratio.2
  let digits := List.replicate (places + 1 - (Text.decimal n).length) '0' ++ Text.decimal n
  let whole := digits.length - places
  withPoint keep (digits.take whole) (digits.drop whole)

/-- The magnitude of a finite double as one digit, some places and a power of ten. -/
def scientificText (keep : Bool) (places : Nat) (x : Double) : List Char :=
  let (digits, lead) := roundedDigits (places + 1) x.ratio.1 x.ratio.2
  withPoint keep (digits.take 1) (digits.drop 1) ++ powerText lead

/-- The magnitude of a finite double in some digits, but at least one. -/
def generalText (keep : Bool) (count : Nat) (x : Double) : List Char :=
  let count := max count 1
  let (digits, lead) := roundedDigits count x.ratio.1 x.ratio.2
  if lead < pointFrom ∨ (count : Int) ≤ lead then
    withPoint keep (digits.take 1) (trimZeros keep (digits.drop 1)) ++ powerText lead
  else if lead < 0 then
    withPoint keep ['0'] (trimZeros keep (List.replicate (-lead - 1).toNat '0' ++ digits))
  else
    let whole := lead.toNat + 1
    withPoint keep (digits.take whole) (trimZeros keep (digits.drop whole))

/-- The magnitude of a double. -/
def formText (form : Form) (keep : Bool) (precision : Nat) (x : Double) : List Char :=
  if x.isNaN then ['n', 'a', 'n']
  else if !x.isFinite then ['i', 'n', 'f']
  else
    match form with
    | .fixed => x.fixedText keep precision
    | .scientific => x.scientificText keep precision
    | .general => x.generalText keep precision

end Promotion.Double
