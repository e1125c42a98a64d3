import Promotion.Json.Shown
import Promotion.Log.Line
import Promotion.Text.Letter

/-! How a log is set up: from which level on lines are kept, and what they look like. -/
namespace Promotion

structure LogSetup where
  threshold : Nat
  structured : Bool
  deriving DecidableEq, Repr

/-- Why a log cannot be set up. -/
inductive LogSetupFault where
  | levelNotText
  | levelIsFormat
  | levelIsTable
  deriving DecidableEq, Repr

namespace LogSetup

/-- How lines look that are not JSON. -/
def plainFormat : String := "%(asctime)s %(levelname)s %(name)s: %(message)s"

/-- How lines look that are JSON, as far as a format goes. -/
def bareFormat : String := "%(message)s"

/-- A name that stands for a format, and so for no level. -/
def formatName : String := "BASIC_FORMAT"

/-- A name that stands for a table, and so for no level. -/
def tableName : String := "_STYLES"

def basicFormat : String := "%(levelname)s:%(name)s:%(message)s"

/-- The number of a level by its name. -/
def rank? (name : String) : Option Nat :=
  match name with
  | "CRITICAL" => some 50
  | "FATAL" => some 50
  | "ERROR" => some 40
  | "WARNING" => some 30
  | "WARN" => some 30
  | "INFO" => some 20
  | "DEBUG" => some 10
  | "NOTSET" => some 0
  | _ => none

/-- The names of the standard levels by their numbers. -/
def rankNames : List (Int × String) :=
  [(0, "NOTSET"), (10, "DEBUG"), (20, "INFO"), (30, "WARNING"), (40, "ERROR"), (50, "CRITICAL")]

/-- What a record shows of a level: a name for a number and a number for a name, as far as they are
standard. -/
def levelShown (level : Json) : Json :=
  match rankNames.find? fun entry => level.alike (.int entry.1), level.str?.bind rank? with
  | some entry, _ => .str entry.2
  | none, some rank => .int rank
  | none, none => .str ("Level " ++ level.plain)

/-- The setup for a level, by its name in any case; an unknown name stands for `INFO`. -/
def create (level : Json) (structured : Bool) : Except LogSetupFault LogSetup :=
  match level with
  | .str name =>
    let name := Text.upper name
    if name = formatName then .error .levelIsFormat
    else if name = tableName then .error .levelIsTable
    else .ok ⟨(rank? name).getD Level.info.rank, structured⟩
  | _ => .error .levelNotText

def format (s : LogSetup) : String := if s.structured then bareFormat else plainFormat

/-- Whether a line is kept. -/
def keeps (s : LogSetup) (line : LogLine) : Bool := s.threshold ≤ line.level.rank

end LogSetup

namespace LogSetupFault

def message? : LogSetupFault → Option String
  | .levelNotText => none
  | .levelIsTable => none
  | .levelIsFormat => some s!"Unknown level: '{LogSetup.basicFormat}'"

end LogSetupFault
end Promotion
