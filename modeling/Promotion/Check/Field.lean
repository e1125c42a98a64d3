import Promotion.Calendar.Reading
import Promotion.Check.Issue
import Promotion.Number.Amount

/-! The rules for single fields. A strict rule takes values of one type only; a lenient one also
takes what plainly stands for such a value. -/
namespace Promotion.Check

open Checked

variable {α : Type}

def text : Json → Checked String
  | .str s => .valid s
  | _ => reject .notText

/-- A word of a closed list. -/
def word (ofWord? : String → Option α) (json : Json) : Checked α :=
  match json.str?.bind ofWord? with
  | some a => .valid a
  | none => reject .notInEnum

def strictTruth : Json → Checked Bool
  | .bool b => .valid b
  | _ => reject .notTruth

def yesWords : List String := ["1", "on", "t", "true", "y", "yes"]

def noWords : List String := ["0", "off", "f", "false", "n", "no"]

/-- Doubles are taken for whole numbers strictly between this and its negation. -/
def wholeLimit : Nat := 0x8000000000000000

/-- A number as a truth value: 1 and 0 stand for true and false. -/
def numberTruth (n : Int) : Checked Bool :=
  if n = 1 then .valid true
  else if n = 0 then .valid false
  else if -(wholeLimit : Int) ≤ n ∧ n < wholeLimit then reject .truthMalformed
  else reject .notTruth

/-- A truth value: itself, the numbers 1 and 0, or one of the words for them in any case. -/
def truth : Json → Checked Bool
  | .bool b => .valid b
  | .int n => numberTruth n
  | .float x =>
    if x.isWhole && x.isWithin wholeLimit then numberTruth x.truncate else reject .notTruth
  | .str s =>
    let w := String.ofList (s.toList.map fun c =>
      if 'A' ≤ c ∧ c ≤ 'Z' then Char.ofNat (c.toNat + 32) else c)
    if yesWords.contains w then .valid true
    else if noWords.contains w then .valid false
    else reject .truthMalformed
  | _ => reject .notTruth

def strictWhole : Json → Checked Int
  | .int n => .valid n
  | _ => reject .notWhole

/-- A whole number: itself, a truth value, a double without fraction, or its text. -/
def whole : Json → Checked Int
  | .int n => .valid n
  | .bool b => .valid (if b then 1 else 0)
  | .float x =>
    if !x.isFinite then reject .notFinite
    else if !x.isWhole then reject .wholeFractional
    else if x.isWithin wholeLimit then .valid x.truncate
    else reject .wholeTooLong
  | .str s =>
    match Number.readField s with
    | .ok n => .valid n
    | .error .malformed => reject .wholeMalformed
    | .error .tooLong => reject .wholeTooLong
  | _ => reject .notWhole

/-- A double: itself, a whole number, a truth value, or its text. -/
def double : Json → Checked Double
  | .float x => .valid x
  | .int n => if (Double.ofInt n).isFinite then .valid (.ofInt n) else reject .notDouble
  | .bool b => .valid (.ofInt (if b then 1 else 0))
  | .str s =>
    match Number.readDouble s with
    | some x => .valid x
    | none => reject .doubleMalformed
  | _ => reject .notDouble

/-- A number: whole and real ones as they are, anything else as a whole number if it stands for
one, else as a double. -/
def amount (json : Json) : Checked Amount :=
  match Amount.ofJson? json with
  | some a => .valid a
  | none =>
    match whole json with
    | .valid n => .valid (.whole n)
    | .invalid wholeIssues =>
      match double json with
      | .valid x => .valid (.real x)
      | .invalid doubleIssues =>
        both (under "int" (.invalid wholeIssues)) (under "float" (.invalid doubleIssues))

/-- What a value says about a point in time; nothing for a value of a wrong type. -/
def dateTimeOf? : Json → Option (Reading DateTime)
  | .str s => some (Calendar.readDateTime s)
  | .int n => if (Double.ofInt n).isFinite then some (Calendar.ofCount n) else none
  | .float x => some (Calendar.ofDouble x)
  | _ => none

def dateTime (json : Json) : Checked DateTime :=
  match dateTimeOf? json with
  | some (.read t) => .valid t
  | some (.yearZero _) => reject .dateTimeOutOfRange
  | some .unreadable =>
    reject (if json.str?.isSome then .dateTimeMalformed else .dateTimeOutOfRange)
  | none => reject .notDateTime

/-- The day that a value names as a point in time, which has to be at midnight. -/
def dayOfDateTime (json : Json) : Checked Date :=
  match dateTimeOf? json with
  | some (.read t) => if t.time = .midnight then .valid t.date else reject .dateWithTime
  | some (.yearZero midnight) => if midnight then reject .dateOutOfRange else reject .dateWithTime
  | some .unreadable => reject .dateMalformed
  | none => reject .notDate

/-- A day, or a point in time at midnight. -/
def date (json : Json) : Checked Date :=
  match json.str?.map fun s => Calendar.readDay s.toList with
  | some (.read d) => .valid d
  | some (.yearZero _) => reject .dateOutOfRange
  | _ => dayOfDateTime json

def anything (json : Json) : Checked Json := .valid json

/-- Null for nothing, or a value under a rule. -/
def orNull (check : Json → Checked α) : Json → Checked (Option α)
  | .null => .valid none
  | json => (check json).map some

def list (check : Json → Checked α) : Json → Checked (List α)
  | .arr items => Checked.all check 0 items
  | _ => reject .notList

def tuple (check : Json → Checked α) : Json → Checked (List α)
  | .arr items => Checked.all check 0 items
  | _ => reject .notTuple

def object : Json → Checked Fields
  | .obj fields => .valid fields
  | _ => reject .notObject

/-- The fields of a value that has to be an object. -/
def model (check : Fields → Checked α) : Json → Checked α
  | .obj fields => check fields
  | _ => reject .notModel

/-- A field that has to be there. -/
def required (fields : Fields) (key : String) (check : Json → Checked α) : Checked α :=
  (match fields.get? key with
    | some json => check json
    | none => reject .missing).under key

/-- A field with a value for when it is not there. -/
def optional (fields : Fields) (key : String) (fallback : α) (check : Json → Checked α) :
    Checked α :=
  match fields.get? key with
  | some json => (check json).under key
  | none => .valid fallback

/-- The fields with a second name of one of them put in place of its first name, which wins. -/
def withAlias (first second : String) (fields : Fields) : Fields :=
  match fields.get? first, fields.get? second with
  | none, some json => fields.put first json
  | _, _ => fields

end Promotion.Check
