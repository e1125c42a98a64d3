import Promotion.Check.Field
import Promotion.Text.Blank
import Promotion.Text.Unit

/-! What a rule says about itself: its name, its weight, and when it holds. -/
namespace Promotion

/-- The salience is a number from 1 on where it was given; one that stands for what was not given
may be any value. -/
structure RuleMetadata where
  name : String
  salience : Json
  stackable : Bool
  active : Bool
  validFrom : Option Date
  validUntil : Option Date
  deriving DecidableEq

namespace RuleMetadata

def maxNameLength : Nat := 255

/-- What holds where nothing is said. -/
def standard (salience : Json) : RuleMetadata := ⟨"", salience, true, true, none, none⟩

/-- A name of whole characters and of bounded length; blanks around it do not count as part of
it. -/
def checkName (json : Json) : Checked String :=
  (Check.text json).andThen fun s =>
    if Text.holdsHalf s then Checked.reject .notUnicode
    else if maxNameLength < s.length then Checked.reject .textTooLong else .valid (Text.strip s)

def checkSalience (json : Json) : Checked Json :=
  (Check.strictWhole json).andThen fun n => if n < 1 then Checked.reject .tooSmall else .valid json

def ofFields (salience : Json) (fields : Fields) : Checked RuleMetadata :=
  RuleMetadata.mk
    <$> Check.optional fields "name" "" checkName
    <*> Check.optional fields "salience" salience checkSalience
    <*> Check.optional fields "stackable" true Check.strictTruth
    <*> Check.optional fields "active" true Check.strictTruth
    <*> Check.optional fields "valid_from" none (Check.orNull Check.date)
    <*> Check.optional fields "valid_until" none (Check.orNull Check.date)

/-- Metadata from data; the salience is for when none is given. -/
def ofJson (salience : Json) : Json → Checked RuleMetadata := Check.model (ofFields salience)

def toJson (m : RuleMetadata) : Json :=
  .obj [("name", .str m.name), ("salience", m.salience), ("stackable", .bool m.stackable),
    ("active", .bool m.active), ("valid_from", Json.ofOption (fun d => .str d.text) m.validFrom),
    ("valid_until", Json.ofOption (fun d => .str d.text) m.validUntil)]

end RuleMetadata
end Promotion
