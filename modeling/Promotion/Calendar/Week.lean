import Promotion.Calendar.Reading

/-! Days given by week, and the short forms of a day on the command line. -/
namespace Promotion

namespace Calendar

/-- The Monday of the first week of a year: the week with the first Thursday. -/
def firstMonday (year : Nat) : Int :=
  let first : Int := daysBeforeYear year + 1
  let weekday := (first + 6) % 7
  if weekday ≤ 3 then first - weekday else first + (7 - weekday)

/-- Whether a year has fifty-three weeks. -/
def isLongYear (year : Nat) : Bool :=
  let weekday := (daysBeforeYear year + 7) % 7
  weekday == 3 || (weekday == 2 && isLeap year)

def ofWeek (year week day : Nat) : Option Date :=
  if 1 ≤ year ∧ 1 ≤ week ∧ (week ≤ 52 ∨ (week = 53 ∧ isLongYear year)) ∧ 1 ≤ day ∧ day ≤ 7 then
    Date.ofOrdinal? (firstMonday year + ((week : Int) - 1) * 7 + day - 1)
  else none

/-- Reads a day on the command line: `YYYY-MM-DD`, `YYYYMMDD`, `YYYY-Www[-D]` or `YYYYWww[D]`. A
text of seven, eight or ten bytes is read as far as its form goes. -/
def readDayArgument (s : String) : Option Date := do
  let cs := s.toList
  if s.utf8ByteSize ≠ 7 ∧ s.utf8ByteSize ≠ 8 ∧ s.utf8ByteSize ≠ 10 then none
  let (year, cs) ← spanNumber 4 cs
  let dashed := cs.head? = some '-'
  let cs := if dashed then cs.drop 1 else cs
  let skipDash (cs : List Char) : Option (List Char) := if dashed then spanChar '-' cs else some cs
  match cs with
  | 'W' :: cs =>
    let (week, cs) ← spanNumber 2 cs
    if cs.isEmpty then ofWeek year week 1
    else
      let cs ← skipDash cs
      let (day, _) ← spanNumber 1 cs
      ofWeek year week day
  | cs =>
    let (month, cs) ← spanNumber 2 cs
    let cs ← skipDash cs
    let (day, _) ← spanNumber 2 cs
    Date.of? year month day

end Calendar
end Promotion
