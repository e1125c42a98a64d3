import Promotion.Calendar.Count
import Promotion.Number.Numeral

/-! Reading days and points in time: texts with dashes and colons, and counts of seconds. -/
namespace Promotion

namespace Calendar

/-- Reads a number of exactly `width` digits at the front. -/
def spanNumber (width : Nat) (cs : List Char) : Option (Nat × List Char) :=
  if (cs.take width).length = width then
    (Text.ofDigits? (cs.take width)).map fun n => (n, cs.drop width)
  else none

/-- Reads one given character at the front. -/
def spanChar (c : Char) : List Char → Option (List Char)
  | d :: cs => if d = c then some cs else none
  | [] => none

/-- Reads year, month and day at the front of a text. -/
def spanDate (cs : List Char) : Option (Reading Date × List Char) := do
  let (year, cs) ← spanNumber 4 cs
  let cs ← spanChar '-' cs
  let (month, cs) ← spanNumber 2 cs
  let cs ← spanChar '-' cs
  let (day, cs) ← spanNumber 2 cs
  match Date.of? year month day with
  | some date => pure (.read date, cs)
  | none => if isMonthDay year month day then pure (.yearZero true, cs) else none

/-- The microseconds of a run of digits behind a decimal mark; digits after the sixth are cut. -/
def microsOf (digits : List Char) : Nat :=
  let six := digits.take 6
  (Text.ofDigits? six).getD 0 * Nat.pow 10 (6 - six.length)

/-- Reads a fraction of a second, if there is a decimal mark. -/
def spanFraction : List Char → Option (Nat × List Char)
  | c :: cs =>
    if c = '.' ∨ c = ',' then
      let (digits, rest) := Number.spanDigits cs
      if digits.isEmpty then none else some (microsOf digits, rest)
    else some (0, c :: cs)
  | [] => some (0, [])

/-- Reads a time of day; seconds and their fraction may be missing. -/
def spanTime (cs : List Char) : Option (TimeOfDay × List Char) := do
  let (hour, cs) ← spanNumber 2 cs
  let cs ← spanChar ':' cs
  let (minute, cs) ← spanNumber 2 cs
  match cs with
  | ':' :: cs =>
    let (second, cs) ← spanNumber 2 cs
    let (micro, cs) ← spanFraction cs
    let time ← TimeOfDay.of? hour minute second micro
    pure (time, cs)
  | cs =>
    let time ← TimeOfDay.of? hour minute 0 0
    pure (time, cs)

/-- The sign of an offset; the typographic minus counts as one. -/
def spanSign : List Char → Option (Bool × List Char)
  | c :: cs =>
    if c = '+' then some (false, cs)
    else if c = '-' ∨ c.toNat = 0x2212 then some (true, cs)
    else none
  | [] => none

/-- Reads the offset at the end of a text: nothing, `Z`, or a sign with hours and minutes. -/
def readOffset (cs : List Char) : Option (Option Int) :=
  match cs with
  | [] => some none
  | ['Z'] => some (some 0)
  | ['z'] => some (some 0)
  | cs => do
    let (negative, cs) ← spanSign cs
    let (hours, cs) ← spanNumber 2 cs
    let cs := match cs with
      | ':' :: cs => cs
      | cs => cs
    let (minutes, cs) ← spanNumber 2 cs
    if minutes < 60 ∧ hours < 24 ∧ cs.isEmpty then
      some (some (Number.withSign negative
        ((hours * 3600 + minutes * 60) * DateTime.microsPerSecond)))
    else none

/-- Reads a point in time written out. -/
def readPoint (cs : List Char) : Option (Reading DateTime) := do
  let (date, cs) ← spanDate cs
  match cs with
  | c :: cs =>
    if c = 'T' ∨ c = 't' ∨ c = ' ' ∨ c = '_' then
      let (time, cs) ← spanTime cs
      let offset ← readOffset cs
      pure (date.atTime time offset)
    else none
  | [] => none

/-- Reads a count of seconds: digits, or a decimal with a point behind its first digits. -/
def readCount (cs : List Char) : Option (Reading DateTime) :=
  let (negative, body) := Number.splitSign cs
  let (whole, rest) := Number.spanDigits body
  match rest with
  | [] =>
    if whole.isEmpty then none
    else (Text.ofDigits? whole).map fun n => ofCount (Number.withSign negative n)
  | '.' :: _ => (Number.readPlainDouble cs).map ofDouble
  | _ => none

/-- Reads a day written out, with nothing behind it. -/
def readDay (cs : List Char) : Reading Date :=
  match spanDate cs with
  | some (date, []) => date
  | _ => .unreadable

/-- Reads a point in time: written out, as a count of seconds, or as a day. -/
def readDateTime (s : String) : Reading DateTime :=
  (readPoint s.toList <|> readCount s.toList).getD ((readDay s.toList).atTime .midnight none)

end Calendar
end Promotion
