import Promotion.Json.Shown
import Promotion.Log.Line
import Promotion.Rule.Basic

/-! Whether a compiled rule may be handed in: it needs a condition and an action, and, where that is
asked for, days of validity in order. -/
namespace Promotion

/-- Why a rule may not be handed in. -/
inductive ReadinessFault where
  | noConditions (name : String)
  | noActions (name : String)
  | windowInverted (name : String) (validFrom validUntil : Date)
  deriving DecidableEq

namespace ReadinessFault

def message : ReadinessFault → String
  | .noConditions _ => "Add at least one condition node before submitting the rule"
  | .noActions _ => "Add at least one action node before submitting the rule"
  | .windowInverted .. => "'Valid from' must not be later than 'Valid until'"

def details : ReadinessFault → Fields
  | .noConditions name => [("rule_name", .str name)]
  | .noActions name => [("rule_name", .str name)]
  | .windowInverted name validFrom validUntil =>
    [("rule_name", .str name), ("valid_from", .str validFrom.text),
      ("valid_until", .str validUntil.text)]

end ReadinessFault

namespace Rule

/-- The days of validity, if both are given and the first is later than the last. -/
def invertedWindow? (r : Rule) : Option (Date × Date) :=
  match r.validFrom, r.validUntil with
  | some first, some last => if last.ordinal < first.ordinal then some (first, last) else none
  | _, _ => none

/-- Why a rule may not be handed in, if so. -/
def readinessFault? (r : Rule) (enforceWindow : Bool) : Option ReadinessFault :=
  if r.conditions.isEmpty then some (.noConditions r.name)
  else if r.actions.isEmpty then some (.noActions r.name)
  else
    match r.invertedWindow? with
    | some (first, last) => if enforceWindow then some (.windowInverted r.name first last) else none
    | none => none

def readinessLogger : String := "promo_builder.compiler.validator"

/-- What is worth a word about a rule that may be handed in. -/
def remarks (r : Rule) : List LogLine :=
  (match r.invertedWindow? with
    | some (first, last) =>
      [⟨.warning, readinessLogger,
        s!"Rule {Text.quoted r.name} has valid_from {first.text} after valid_until {last.text}; " ++
          "it will never be active"⟩]
    | none => []) ++
  (if r.logicals.isEmpty && 1 < r.conditions.length then
    [⟨.debug, readinessLogger,
      s!"Rule {Text.quoted r.name} has {r.conditions.length} conditions and no logical nodes; " ++
        "they are implicitly ANDed"⟩]
  else [])

end Rule
end Promotion
