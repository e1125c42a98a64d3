import Promotion.Text.Digit

/-! Days of the years 1 to 9999 of the Gregorian calendar, and their number in a running count. -/
namespace Promotion

namespace Calendar

def isLeap (year : Nat) : Bool := year % 4 == 0 && (year % 100 != 0 || year % 400 == 0)

/-- The lengths of the months of a year. -/
def monthLengths (year : Nat) : List Nat :=
  [31, if isLeap year then 29 else 28, 31, 30, 31, 30, 31, 31, 30, 31, 30, 31]

def monthLength (year month : Nat) : Nat := (monthLengths year).getD (month - 1) 0

/-- The days of all years before a year. -/
def daysBeforeYear (year : Nat) : Nat :=
  let y := year - 1
  365 * y + y / 4 - y / 100 + y / 400

def daysBeforeMonth (year month : Nat) : Nat :=
  ((monthLengths year).take (month - 1)).foldr (· + ·) 0

/-- Whether a year has a day of this month and number. -/
def isMonthDay (year month day : Nat) : Bool :=
  1 ≤ month && month ≤ 12 && 1 ≤ day && day ≤ monthLength year month

def isDay (year month day : Nat) : Bool :=
  1 ≤ year && year ≤ 9999 && isMonthDay year month day

/-- The month and day of a number of days, counted from zero, into months of given lengths. -/
def splitMonths : (month : Nat) → List Nat → Nat → Nat × Nat
  | month, [], days => (month, days + 1)
  | month, length :: lengths, days =>
    if days < length then (month, days + 1) else splitMonths (month + 1) lengths (days - length)

/-- The year that a number of days, counted from zero, falls into. -/
def yearOf (days : Nat) : Nat :=
  let guess := days * 400 / 146097 + 1
  if days < daysBeforeYear guess then guess - 1
  else if daysBeforeYear (guess + 1) ≤ days then guess + 1
  else guess

end Calendar

structure Date where
  year : Nat
  month : Nat
  day : Nat
  isDay : Calendar.isDay year month day = true
  deriving DecidableEq

namespace Date

def of? (year month day : Nat) : Option Date :=
  if h : Calendar.isDay year month day = true then some ⟨year, month, day, h⟩ else none

/-- The number of a day; the first day of the year 1 has number 1. -/
def ordinal (d : Date) : Nat :=
  Calendar.daysBeforeYear d.year + Calendar.daysBeforeMonth d.year d.month + d.day

/-- The day with a number, if it lies in the years 1 to 9999. -/
def ofOrdinal? (n : Int) : Option Date :=
  if n < 1 then none
  else
    let days := n.toNat - 1
    let year := Calendar.yearOf days
    let (month, day) := Calendar.splitMonths 1 (Calendar.monthLengths year)
      (days - Calendar.daysBeforeYear year)
    of? year month day

/-- The number of the first day of 1970. -/
def epochOrdinal : Int := 719163

def chars (d : Date) : List Char :=
  Text.padded 4 d.year ++ '-' :: Text.padded 2 d.month ++ '-' :: Text.padded 2 d.day

/-- Year, month and day with dashes between them. -/
def text (d : Date) : String := String.ofList d.chars

/-- The day of the week; zero is Monday. -/
def weekday (d : Date) : Nat := (d.ordinal + 6) % 7

@[simp] theorem of?_fields (d : Date) : of? d.year d.month d.day = some d := by
  simp [of?, d.isDay]

end Date
end Promotion
