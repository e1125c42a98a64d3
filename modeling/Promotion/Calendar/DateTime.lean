import Promotion.Calendar.Date
import Promotion.Number.Double

/-! Points in time: a day, a time of day to the microsecond, and an offset from UTC when it is
known. -/
namespace Promotion

structure TimeOfDay where
  hour : Nat
  minute : Nat
  second : Nat
  micro : Nat
  inRange : (hour < 24 && minute < 60 && second < 60 && micro < 1000000) = true
  deriving DecidableEq

namespace TimeOfDay

def of? (hour minute second micro : Nat) : Option TimeOfDay :=
  if h : (hour < 24 && minute < 60 && second < 60 && micro < 1000000) = true then
    some ⟨hour, minute, second, micro, h⟩
  else none

def midnight : TimeOfDay := ⟨0, 0, 0, 0, rfl⟩

/-- Seconds since midnight. -/
def seconds (t : TimeOfDay) : Nat := t.hour * 3600 + t.minute * 60 + t.second

/-- Hours, minutes and seconds with colons between them. -/
def chars (t : TimeOfDay) : List Char :=
  Text.padded 2 t.hour ++ ':' :: Text.padded 2 t.minute ++ ':' :: Text.padded 2 t.second

end TimeOfDay

/-- A point in time. The offset is in microseconds east of UTC. -/
structure DateTime where
  date : Date
  time : TimeOfDay
  offset : Option Int
  deriving DecidableEq

namespace DateTime

def secondsPerDay : Nat := 86400

def microsPerSecond : Nat := 1000000

/-- Microseconds since the start of 1970 in UTC; without an offset the time is UTC. -/
def instant (t : DateTime) : Int :=
  let days := (t.date.ordinal : Int) - Date.epochOrdinal
  (days * secondsPerDay + t.time.seconds) * microsPerSecond + t.time.micro - t.offset.getD 0

/-- The point in time, in UTC, a number of microseconds from the start of 1970; nothing outside
the years 1 to 9999. -/
def ofInstant? (micros : Int) : Option DateTime := do
  let seconds := micros / microsPerSecond
  let inDay := (seconds % secondsPerDay).toNat
  let date ← Date.ofOrdinal? (seconds / secondsPerDay + Date.epochOrdinal)
  let time ← TimeOfDay.of? (inDay / 3600) (inDay / 60 % 60) (inDay % 60)
    (micros % microsPerSecond).toNat
  pure ⟨date, time, some 0⟩

/-- The same point in time, taken as UTC if its offset is not known. -/
def orUtc (t : DateTime) : DateTime := { t with offset := some (t.offset.getD 0) }

def dayAndTime (t : DateTime) : List Char := t.date.chars ++ 'T' :: t.time.chars

/-- A fraction of a second in microseconds; nothing for a whole second. -/
def fractionChars (t : DateTime) : List Char :=
  if t.time.micro = 0 then [] else '.' :: Text.padded 6 t.time.micro

/-- An offset in hours and minutes. -/
def offsetChars (offset : Int) : List Char :=
  let minutes := offset.natAbs / (60 * microsPerSecond)
  (if offset < 0 then '-' else '+') :: (Text.padded 2 (minutes / 60) ++ ':' ::
    Text.padded 2 (minutes % 60))

/-- The text of a point in time in a stored record: `Z` stands for UTC, and an unknown offset is
left out. -/
def text (t : DateTime) : String :=
  String.ofList (t.dayAndTime ++ t.fractionChars ++
    match t.offset with
    | none => []
    | some 0 => ['Z']
    | some offset => offsetChars offset)

/-- The text of a point in time in a log line, with its offset in figures. -/
def logText (t : DateTime) : String :=
  String.ofList (t.dayAndTime ++ t.fractionChars ++ offsetChars (t.offset.getD 0))

/-- The text of the time a rule was made: UTC, cut to the millisecond; nothing if UTC falls outside
the years 1 to 9999. -/
def stamp? (t : DateTime) : Option String :=
  (ofInstant? t.instant).map fun utc =>
    String.ofList (utc.dayAndTime ++ '.' :: (Text.padded 3 (utc.time.micro / 1000) ++ ['Z']))

/-- The double nearest the seconds since the start of 1970. -/
def secondsDouble (t : DateTime) : Double :=
  Double.ofRatio (t.instant < 0) t.instant.natAbs microsPerSecond

/-- Milliseconds since the start of 1970, by way of the double nearest the seconds and cut toward
zero. -/
def nameMillis (t : DateTime) : Int := (t.secondsDouble.scaleBy 1000).truncate

end DateTime
end Promotion
