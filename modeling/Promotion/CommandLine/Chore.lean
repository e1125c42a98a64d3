/-! Chores around the program: the commands that stand for them. -/
namespace Promotion

inductive Chore where
  | compileRule
  | test
  | lint
  | format
  deriving DecidableEq, Repr

/-- A command with the directory it is run in. -/
structure Command where
  words : List String
  directory : String
  deriving DecidableEq, Repr

namespace Chore

def ofName? : String → Option Chore
  | "compile-rule" => some .compileRule
  | "test" => some .test
  | "lint" => some .lint
  | "format" => some .format
  | _ => none

/-- The directories that are looked over. -/
def directories : List String := ["promo_builder", "tests", "scripts", "cli"]

/-- The words of a chore behind the interpreter. -/
def words (root : String) : Chore → List String
  | .compileRule => [root ++ "/scripts/compile_rule.py"]
  | .test => ["-m", "pytest", "-q"]
  | .lint => ["-m", "ruff", "check"] ++ directories
  | .format => ["-m", "ruff", "format"] ++ directories

/-- The command for a chore; further arguments come last. -/
def command (chore : Chore) (interpreter root : String) (extra : List String) : Command :=
  ⟨interpreter :: (chore.words root ++ extra), root⟩

end Chore
end Promotion
