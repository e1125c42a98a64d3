import Promotion.Number.Double
import Promotion.Text.Blank
import Promotion.Text.Digit
import Promotion.Text.Letter

/-! Numbers written as text by people: blanks around them, a sign, and underscores between digits
are allowed. -/
namespace Promotion.Number

/-- The longest run of digits that is read as a whole number. -/
def maxDigits : Nat := 4300

/-- The values of a run of digits with single underscores between them. -/
def digitRun? (value? : Char → Option Nat) : (afterDigit : Bool) → List Char → Option (List Nat)
  | afterDigit, [] => if afterDigit then some [] else none
  | afterDigit, c :: cs =>
    if c = '_' then
      if afterDigit then digitRun? value? false cs else none
    else do
      let d ← value? c
      let ds ← digitRun? value? true cs
      pure (d :: ds)

/-- The number that a list of digit values spells. -/
def spell (digits : List Nat) : Nat := digits.foldl (fun n d => n * 10 + d) 0

/-- A sign, if there is one, apart from the rest. -/
def splitSign : List Char → Bool × List Char
  | '-' :: cs => (true, cs)
  | '+' :: cs => (false, cs)
  | cs => (false, cs)

def withSign (negative : Bool) (n : Nat) : Int := if negative then -n else n

/-- How the text of a whole number fails. -/
inductive NumeralFault where
  | malformed
  | tooLong
  deriving DecidableEq, Repr

/-- A whole number with its sign, in the digits of any script. -/
def readScripted (cs : List Char) : Except NumeralFault Int :=
  let (negative, body) := splitSign cs
  match digitRun? Text.decimalValue? false body with
  | none => .error .malformed
  | some digits =>
    if maxDigits < digits.length then .error .tooLong
    else .ok (withSign negative (spell digits))

/-- A whole number on the command line: blanks around it do not count. -/
def readArgument (s : String) : Except NumeralFault Int :=
  readScripted (Text.trimBy Text.isWhiteSpace s.toList)

/-- Splits off the digits at the front. -/
def spanDigits (cs : List Char) : List Char × List Char :=
  (cs.takeWhile fun c => (Text.digitValue? c).isSome,
    cs.dropWhile fun c => (Text.digitValue? c).isSome)

/-- A whole number in its plain form: a minus sign or none, and digits that start with no zero
unless it is the only one. The sign counts toward the greatest length. -/
def readPlainWhole (cs : List Char) : Except NumeralFault Int :=
  let (negative, body) := match cs with
    | '-' :: cs => (true, cs)
    | cs => (false, cs)
  let (digits, rest) := spanDigits body
  if digits.isEmpty then .error .malformed
  else if digits.head? = some '0' then
    if body = ['0'] then .ok 0 else .error .malformed
  else if maxDigits < digits.length + (if negative then 1 else 0) then .error .tooLong
  else if rest.isEmpty then .ok (withSign negative ((Text.ofDigits? digits).getD 0))
  else .error .malformed

/-- Drops zeros and underscores at the front. A digit other than zero or a minus sign starts what
is left, and a point keeps the character before it. -/
def dropZeros : (last : Char) → List Char → Option (List Char)
  | last, [] => some [last]
  | last, c :: cs =>
    if c = '0' ∨ c = '_' then dropZeros c cs
    else if ('1' ≤ c ∧ c ≤ '9') ∨ c = '-' then some (c :: cs)
    else if c = '.' then some (last :: c :: cs)
    else none

/-- Drops the zeros in front of a number that starts with a digit. -/
def dropLeadingZeros : List Char → Option (List Char)
  | [] => none
  | c :: cs =>
    if c = '0' then dropZeros c cs
    else if (Text.digitValue? c).isSome then some (c :: cs)
    else none

/-- Drops a decimal point with zeros, and nothing else, behind it. -/
def dropZeroFraction (cs : List Char) : List Char :=
  match cs.dropWhile (· != '.') with
  | _ :: '0' :: fraction => if fraction.all (· == '0') then cs.takeWhile (· != '.') else cs
  | _ => cs

/-- Whether underscores stand only one at a time and inside a text. -/
def spacedByUnderscores (cs : List Char) : Bool :=
  cs.head? != some '_' && cs.getLast? != some '_' && !(cs.zip cs.tail).contains ('_', '_')

/-- Removes single underscores that stand inside a text; nothing when any stand otherwise. -/
def dropUnderscores? (cs : List Char) : Option (List Char) :=
  if spacedByUnderscores cs then some (cs.filter (· != '_')) else none

/-- The plain form of a whole number with a plus sign, leading zeros, a fraction of zeros or
underscores. -/
def plainForm? (cs : List Char) : Option (List Char) := do
  let (negative, body) ← match cs with
    | '-' :: cs => some (true, cs)
    | '+' :: '-' :: _ => none
    | '+' :: cs => some (false, cs)
    | cs => some (false, cs)
  let body ← dropLeadingZeros body
  let body := if negative then '-' :: body else body
  dropUnderscores? (dropZeroFraction body)

/-- A whole number in a data field: in its plain form, or with blanks around a form that comes
down to it. -/
def readField (s : String) : Except NumeralFault Int :=
  match readPlainWhole s.toList with
  | .error .malformed =>
    match plainForm? (Text.trimBy Text.isWhiteSpace s.toList) with
    | some cs => readPlainWhole cs
    | none => .error .malformed
  | outcome => outcome

/-- The double nearest a decimal given by its digits before and behind the point and a power of
ten. -/
def ofParts (negative : Bool) (whole fraction : List Char) (power : Int) : Double :=
  Double.ofDecimal negative ((Text.ofDigits? (whole ++ fraction)).getD 0) (power - fraction.length)

/-- The power of ten behind the digits of a decimal; nothing when the text goes on otherwise. -/
def readPower : List Char → Option Int
  | [] => some 0
  | c :: cs =>
    if c = 'e' ∨ c = 'E' then
      let (negative, digits) := splitSign cs
      if digits.isEmpty then none else (Text.ofDigits? digits).map (withSign negative)
    else none

/-- A decimal without blanks or underscores; a digit must stand before or behind the point. -/
def readPlainDouble (cs : List Char) : Option Double :=
  let (negative, body) := splitSign cs
  let word := Text.lower (String.ofList body)
  if word = "inf" ∨ word = "infinity" then some (.infinity negative)
  else if word = "nan" then some .nan
  else
    let (whole, rest) := spanDigits body
    let (fraction, tail) := match rest with
      | '.' :: r => spanDigits r
      | r => ([], r)
    if whole.isEmpty && fraction.isEmpty then none
    else (readPower tail).map (ofParts negative whole fraction)

/-- A decimal number in a data field. There may be blanks around it, or underscores in it. -/
def readDouble (s : String) : Option Double :=
  readPlainDouble (Text.trimBy Text.isWhiteSpace s.toList) <|>
    (dropUnderscores? s.toList).bind readPlainDouble

end Promotion.Number
