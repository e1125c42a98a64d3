import Promotion.Json.Basic

/-! What is wrong with data, and results that gather all that is wrong. -/
namespace Promotion

/-- One way in which a piece of data breaks its rules. -/
inductive IssueKind where
  | missing
  | unexpected
  | notModel
  | notAttributes
  | noTag
  | unknownTag
  | notText
  | notUnicode
  | textTooShort
  | textTooLong
  | notInEnum
  | notLiteral
  | notWhole
  | wholeMalformed
  | wholeTooLong
  | wholeFractional
  | notFinite
  | tooSmall
  | notDouble
  | doubleMalformed
  | notTruth
  | truthMalformed
  | notList
  | notTuple
  | notObject
  | notDate
  | dateOutOfRange
  | dateMalformed
  | dateWithTime
  | notDateTime
  | dateTimeMalformed
  | dateTimeOutOfRange
  | frozen
  | rejected (text : String)
  deriving DecidableEq, Repr

/-- A fault in data, at the place the path leads to. -/
structure Issue where
  kind : IssueKind
  path : List String
  deriving DecidableEq, Repr

/-- The outcome of looking at data: a value, or all that is wrong with it. -/
inductive Checked (α : Type) where
  | valid (value : α)
  | invalid (issues : List Issue)
  deriving Repr

namespace Checked

variable {α β : Type}

def map (f : α → β) : Checked α → Checked β
  | .valid a => .valid (f a)
  | .invalid issues => .invalid issues

/-- Applies a function that may have issues to a value that may have issues; the issues of both
sides count. -/
def ap : Checked (α → β) → (Unit → Checked α) → Checked β
  | .valid f, a => (a ()).map f
  | .invalid issues, a =>
    match a () with
    | .valid _ => .invalid issues
    | .invalid more => .invalid (issues ++ more)

instance : Functor Checked where
  map := map

instance : Seq Checked where
  seq := ap

instance : Pure Checked where
  pure := .valid

/-- Looks further at a value that has no issues so far. -/
def andThen (c : Checked α) (f : α → Checked β) : Checked β :=
  match c with
  | .valid a => f a
  | .invalid issues => .invalid issues

/-- An issue at this very place. -/
def reject (kind : IssueKind) : Checked α := .invalid [⟨kind, []⟩]

/-- The same outcome seen from one level further out. -/
def under (key : String) : Checked α → Checked α
  | .valid a => .valid a
  | .invalid issues => .invalid (issues.map fun issue => { issue with path := key :: issue.path })

/-- The issues of two outcomes, or the first value. -/
def both (a b : Checked α) : Checked α := ap (a.map fun x _ => x) fun _ => b

def toExcept : Checked α → Except (List Issue) α
  | .valid a => .ok a
  | .invalid issues => .error issues

def value? : Checked α → Option α
  | .valid a => some a
  | .invalid _ => none

/-- Looks at all members of a list, each under its number. -/
def all (check : Json → Checked α) : (index : Nat) → List Json → Checked (List α)
  | _, [] => .valid []
  | index, x :: xs =>
    (fun a as => a :: as) <$> (check x).under (toString index) <*> all check (index + 1) xs

end Checked
end Promotion
