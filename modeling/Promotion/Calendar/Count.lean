import Promotion.Calendar.DateTime

/-! Points in time given as a number of seconds or milliseconds since the start of 1970. -/
namespace Promotion

/-- What is read of a day or a point in time. The year 0 is read, but has no days of its own. -/
inductive Reading (α : Type) where
  | read (value : α)
  | yearZero (midnight : Bool)
  | unreadable
  deriving DecidableEq

namespace Reading

variable {α : Type}

def value? : Reading α → Option α
  | .read a => some a
  | _ => none

/-- A time of a day that was read. -/
def atTime (day : Reading Date) (time : TimeOfDay) (offset : Option Int) : Reading DateTime :=
  match day with
  | .read date => .read ⟨date, time, offset⟩
  | .yearZero _ => .yearZero (decide (time = .midnight))
  | .unreadable => .unreadable

end Reading

namespace Calendar

/-- The days of the year 0. -/
def yearZeroDays : Int := 366

/-- The point in time, in UTC, a number of microseconds from the start of 1970. -/
def ofMicros (micros : Int) : Reading DateTime :=
  match DateTime.ofInstant? micros with
  | some t => .read t
  | none =>
    let seconds := micros / DateTime.microsPerSecond
    let number := seconds / DateTime.secondsPerDay + Date.epochOrdinal
    if -yearZeroDays < number ∧ number < 1 then
      .yearZero (seconds % DateTime.secondsPerDay == 0 && micros % DateTime.microsPerSecond == 0)
    else .unreadable

/-- Counts above this, of either sign, are milliseconds. -/
def secondsLimit : Nat := 20000000000

/-- The point in time of a whole number of seconds, or of milliseconds when it is large. -/
def ofCount (count : Int) : Reading DateTime :=
  ofMicros (if count.natAbs ≤ secondsLimit then count * 1000000 else count * 1000)

/-- A double as microseconds: the whole number below it, and the nearest double of a million times
the rest, to the nearest whole number with a half going up. -/
def microsBelow (x : Double) : Int :=
  let (num, den) := x.signedRatio
  let rest := (num % den).toNat
  let (n, d) := ((Double.ofRatio false rest den).scaleBy 1000000).ratio
  num / den * 1000000 + ((2 * n + d) / (2 * d) : Nat)

/-- The point in time of a count that is a double. -/
def ofDouble (x : Double) : Reading DateTime :=
  if !x.isFinite then .unreadable
  else if x.ratio.1 ≤ secondsLimit * x.ratio.2 then ofMicros (microsBelow x)
  else ofMicros (microsBelow (x.divideBy 1000))

/-- A double of seconds as microseconds, its fraction to the nearest with a half to the even
neighbour. -/
def microsOfSeconds (x : Double) : Int :=
  let (num, den) := x.ratio
  let (n, d) := ((Double.ofRatio false (num % den) den).scaleBy 1000000).ratio
  let micros : Int := (num / den * 1000000 + Double.roundDiv n d : Nat)
  if x.negative then -micros else micros

/-- The year of the day with a number, in a calendar that goes on before the year 1. -/
def yearOfOrdinal (n : Int) : Int := (n - 1) / 146097 * 400 + yearOf ((n - 1) % 146097).toNat

end Calendar

/-- Why a number of seconds is no point in time. -/
inductive CountFault where
  | tooLarge
  | yearTooLarge
  | yearOutOfRange (year : Int)
  deriving DecidableEq, Repr

namespace CountFault

def message? : CountFault → Option String
  | .yearOutOfRange year => some s!"year {year} is out of range"
  | _ => none

end CountFault

namespace Calendar

/-- The point in time a number of microseconds from the start of 1970. Seconds are counted in 64
bits, and years from 1900 in 32 bits. -/
def timeOfMicros (micros : Int) : Except CountFault DateTime :=
  let seconds := micros / DateTime.microsPerSecond
  let year := yearOfOrdinal (seconds / DateTime.secondsPerDay + Date.epochOrdinal)
  if seconds < -0x8000000000000000 ∨ 0x8000000000000000 ≤ seconds then .error .tooLarge
  else if year - 1900 < -0x80000000 ∨ 0x80000000 ≤ year - 1900 then .error .yearTooLarge
  else
    match DateTime.ofInstant? micros with
    | some t => .ok t
    | none => .error (.yearOutOfRange year)

end Calendar
end Promotion
