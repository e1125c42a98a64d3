import Promotion.Proofs.CommandLine.Pipeline

/-! Runs that hand nothing in, whatever the graph file holds. Such a run ends with an exit code of 0
or 1 unless the file is at fault: its name, bytes that are no text, too many digits in a row, too
many brackets, or a document that comes of it and cannot be printed. -/
namespace Promotion.CommandLine
variable {files : Files} {texts : List String} {a : Arguments} {ctx : Context} {payload : Json}
  {rule : Rule} {fault : GraphFileFault} {escape : Escape}

/-! ### Faults of the file -/

namespace Launches

end Launches

end Promotion.CommandLine
