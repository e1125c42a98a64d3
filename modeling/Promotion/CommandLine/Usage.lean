import Promotion.CommandLine.Arguments

/-! The help text of the command line. -/
namespace Promotion

namespace Switch

/-- All options, in the order in which they are told. -/
def all : List Switch :=
  [.help, .name, .salience, .notStackable, .inactive, .validFrom, .validUntil, .tree, .submit,
    .verbose]

/-- What an option is for. -/
def summary (salience : String) : Switch → String
  | .help => "show this help message and exit"
  | .name => "Rule name (default: Rule_<timestamp>)"
  | .salience => s!"Rule priority, higher runs first (default: {salience})"
  | .notStackable => "Do not combine this rule with other promotions"
  | .inactive => "Submit the rule disabled"
  | .validFrom => "YYYY-MM-DD"
  | .validUntil => "YYYY-MM-DD"
  | .tree => "Print the nested condition tree of each action instead of the rule"
  | .submit => "Send the rule to the promotion rules API"
  | .verbose => "Enable debug logging"

/-- An option with its spellings and the place of its value. -/
def heading (s : Switch) : String := s.label ++ (if s.takesValue then " VALUE" else "")

end Switch

namespace Usage

/-- A word in a column, with the text that belongs to it. -/
def row (word text : String) : String :=
  "  " ++ String.ofList (word.toList.rightpad 22 ' ') ++ "  " ++ text ++ "\n"

def text (program salience : String) : String :=
  s!"usage: {program} [options] graph_file\n\n" ++
    "Compile a saved rule graph into a promotion rule document\n\n" ++
    "positional arguments:\n" ++ row "graph_file" "Path to a graph JSON payload" ++
    "\noptions:\n" ++
    String.join (Switch.all.map fun s => row s.heading (s.summary salience))

end Usage
end Promotion
