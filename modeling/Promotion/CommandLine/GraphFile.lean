import Promotion.Json.Reader
import Promotion.Text.Quoted

/-! Graph files: why one cannot be opened, and reading the JSON in it. -/
namespace Promotion

/-- Why a file cannot be opened. -/
inductive FileFault where
  | missing
  | notInDirectory
  | isDirectory
  | nameTooLong
  | other (number : Nat) (text : String)
  deriving DecidableEq, Repr

/-- The files there are, by their names in short form. -/
abbrev Files := String → Except FileFault ByteArray

/-- Why a graph file gives no JSON. -/
inductive GraphFileFault where
  | unopened (fault : FileFault)
  | unnameable
  | malformed (message : String)
  | notText
  | tooManyDigits (message : String)
  | tooDeep
  deriving DecidableEq, Repr

namespace FileFault

/-- The number and the words that the system has for a fault. -/
def error : FileFault → Nat × String
  | .missing => (2, "No such file or directory")
  | .notInDirectory => (20, "Not a directory")
  | .isDirectory => (21, "Is a directory")
  | .nameTooLong => (36, "File name too long")
  | .other number text => (number, text)

def message (name : String) (fault : FileFault) : String :=
  s!"[Errno {fault.error.1}] {fault.error.2}: {Text.quoted name}"

end FileFault

namespace GraphFile

/-- Every end of a line as one character. -/
def unifyLineEnds : List Char → List Char
  | '\r' :: '\n' :: cs => '\n' :: unifyLineEnds cs
  | '\r' :: cs => '\n' :: unifyLineEnds cs
  | c :: cs => c :: unifyLineEnds cs
  | [] => []

/-- The JSON in a file. No name of a file has the character zero in it. -/
def read (limits : Json.Limits) (files : Files) (name : String) : Except GraphFileFault Json := do
  if name.toList.contains '\x00' then throw .unnameable
  match files name with
  | .error fault => throw (.unopened fault)
  | .ok bytes =>
    match String.fromUTF8? bytes with
    | none => throw .notText
    | some text =>
      let text := String.ofList (unifyLineEnds text.toList)
      match Json.readWithin limits text with
      | .ok json => pure json
      | .error (.malformed reason left) =>
        throw (.malformed ((Json.ReadFault.malformed reason left).message text))
      | .error (.tooManyDigits count) =>
        throw (.tooManyDigits ((Json.ReadFault.tooManyDigits count).message text))
      | .error .tooDeep => throw .tooDeep

end GraphFile
end Promotion
