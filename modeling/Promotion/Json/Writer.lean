import Promotion.Json.Basic
import Promotion.Json.Limits
import Promotion.Number.Shortest
import Promotion.Text.Unit

/-! The text of JSON values: on one line in a chosen style, and spread over lines. -/
namespace Promotion.Json

/-- What a one-line text puts between items and behind keys, and whether it is confined to
ASCII. -/
structure Style where
  comma : List Char
  colon : List Char
  ascii : Bool

/-- The style of documents that are compared byte by byte. -/
def Style.canonical : Style := ⟨[','], [':'], false⟩

/-- The style of log lines. -/
def Style.line : Style := ⟨[',', ' '], [':', ' '], true⟩

/-- An escape by the number of a UTF-16 unit. -/
def unitEscape (n : Nat) : List Char := '\\' :: 'u' :: Text.hexDigits true 4 n

/-- A character from the 65536th on, as two units or as the half that it stands in for. -/
def wideEscape (c : Char) : List Char :=
  match Text.half? c with
  | some half => unitEscape half
  | none => unitEscape (Text.highHalf c.toNat) ++ unitEscape (Text.lowHalf c.toNat)

/-- A character between double quotes. -/
def escapedChar (ascii : Bool) (c : Char) : List Char :=
  if c = '"' then ['\\', '"']
  else if c = '\\' then ['\\', '\\']
  else if c = '\n' then ['\\', 'n']
  else if c = '\r' then ['\\', 'r']
  else if c = '\t' then ['\\', 't']
  else if c.toNat = 8 then ['\\', 'b']
  else if c.toNat = 12 then ['\\', 'f']
  else if c.toNat < 0x20 then unitEscape c.toNat
  else if !ascii || c.toNat < 0x7f then [c]
  else if c.toNat < 0x10000 then unitEscape c.toNat
  else wideEscape c

/-- A text between double quotes. -/
def quotedText (ascii : Bool) (s : String) : List Char :=
  '"' :: (s.toList.flatMap (escapedChar ascii) ++ ['"'])

def intText (n : Int) : List Char :=
  if n < 0 then '-' :: Text.decimal n.natAbs else Text.decimal n.natAbs

/-- The text of a double. The values that JSON has no numerals for have names. -/
def floatText (x : Double) : List Char :=
  if x.isNaN then "NaN".toList
  else if !x.isFinite then (if x.negative then "-Infinity".toList else "Infinity".toList)
  else x.text

/-- The text of a value that is neither array nor object. -/
def scalarText (ascii : Bool) : Json → List Char
  | .bool true => "true".toList
  | .bool false => "false".toList
  | .int n => intText n
  | .float x => floatText x
  | .str s => quotedText ascii s
  | _ => "null".toList

mutual
/-- The text of a value on one line. -/
def write (style : Style) : Json → List Char
  | .arr [] => ['[', ']']
  | .arr (x :: xs) => '[' :: (write style x ++ writeItems style xs)
  | .obj [] => ['\x7b', '\x7d']
  | .obj ((k, x) :: xs) =>
    '\x7b' :: (quotedText style.ascii k ++ style.colon ++ write style x ++ writeFields style xs)
  | x => scalarText style.ascii x

def writeItems (style : Style) : List Json → List Char
  | [] => [']']
  | x :: xs => style.comma ++ write style x ++ writeItems style xs

def writeFields (style : Style) : List (String × Json) → List Char
  | [] => ['\x7d']
  | (k, x) :: xs =>
    style.comma ++ quotedText style.ascii k ++ style.colon ++ write style x ++ writeFields style xs
end

/-- A new line, indented by two spaces for each level. -/
def newLine (depth : Nat) : List Char := '\n' :: List.replicate (2 * depth) ' '

mutual
/-- The text of a value with an item or a key on each line; empty containers stay together. -/
def spread (depth : Nat) : Json → List Char
  | .arr [] => ['[', ']']
  | .arr (x :: xs) => '[' :: (newLine (depth + 1) ++ spread (depth + 1) x ++ spreadItems depth xs)
  | .obj [] => ['\x7b', '\x7d']
  | .obj ((k, x) :: xs) =>
    '\x7b' :: (newLine (depth + 1) ++ quotedText false k ++ [':', ' '] ++ spread (depth + 1) x ++
      spreadFields depth xs)
  | x => scalarText false x

def spreadItems (depth : Nat) : List Json → List Char
  | [] => newLine depth ++ [']']
  | x :: xs => ',' :: (newLine (depth + 1) ++ spread (depth + 1) x ++ spreadItems depth xs)

def spreadFields (depth : Nat) : List (String × Json) → List Char
  | [] => newLine depth ++ ['\x7d']
  | (k, x) :: xs =>
    ',' :: (newLine (depth + 1) ++ quotedText false k ++ [':', ' '] ++ spread (depth + 1) x ++
      spreadFields depth xs)
end

mutual
/-- The same value with the keys of every object in the order of their code points. -/
def sortKeys : Json → Json
  | .arr xs => .arr (sortItems xs)
  | .obj fields => .obj ((sortFields fields).mergeSort fun a b => a.1 ≤ b.1)
  | x => x

def sortItems : List Json → List Json
  | [] => []
  | x :: xs => sortKeys x :: sortItems xs

def sortFields : List (String × Json) → List (String × Json)
  | [] => []
  | (k, x) :: xs => (k, sortKeys x) :: sortFields xs
end

/-- The layout of the canonical text: sorted keys and nothing between the tokens. -/
def canonical (x : Json) : String := String.ofList (write .canonical (sortKeys x))

/-- The layout of the canonical text for reading: sorted keys, spread over lines. -/
def pretty (x : Json) : String := String.ofList (spread 0 (sortKeys x))

/-! ### Texts within limits -/

/-- Why a value has no text. -/
inductive WriteFault where
  | tooDeep
  | tooManyDigits
  deriving DecidableEq, Repr

/-- The words for a value that has no text, where there are any. -/
def WriteFault.message? : WriteFault → Option String
  | .tooDeep => none
  | .tooManyDigits =>
    some (s!"Exceeds the limit ({Number.maxDigits} digits) for integer string conversion; " ++
      "use sys.set_int_max_str_digits() to increase the limit")

mutual
/-- The first thing in a value, from left to right, that keeps it from being written. -/
def writeFault? (limit : Option Nat) (depth : Nat) : Json → Option WriteFault
  | .int n => if exceeds limit (Text.decimal n.natAbs).length then some .tooManyDigits else none
  | .arr xs =>
    match depth with
    | 0 => some .tooDeep
    | depth + 1 => itemsFault? limit depth xs
  | .obj fields =>
    match depth with
    | 0 => some .tooDeep
    | depth + 1 => fieldsFault? limit depth fields
  | _ => none

def itemsFault? (limit : Option Nat) (depth : Nat) : List Json → Option WriteFault
  | [] => none
  | x :: xs => (writeFault? limit depth x).or (itemsFault? limit depth xs)

def fieldsFault? (limit : Option Nat) (depth : Nat) : List (String × Json) → Option WriteFault
  | [] => none
  | (_, x) :: xs => (writeFault? limit depth x).or (fieldsFault? limit depth xs)
end

/-- The text of a value in a layout. -/
def textWithin (limits : Limits) (layOut : Json → String) (x : Json) : Except WriteFault String :=
  match writeFault? limits.digits limits.depth x with
  | some fault => .error fault
  | none => .ok (layOut x)

/-- A canonical text of a value. Its keys are sorted throughout before any of it is written, and so
a value that is too deep is found first. -/
def encode (limits : Limits) (layOut : Json → String) (x : Json) : Except WriteFault String :=
  match writeFault? none limits.depth x with
  | some fault => .error fault
  | none => textWithin limits layOut x

/-- The canonical text of a value. -/
def canonicalText (limits : Limits) (x : Json) : Except WriteFault String :=
  encode limits canonical x

/-- The canonical text for reading of a value. -/
def prettyText (limits : Limits) (x : Json) : Except WriteFault String := encode limits pretty x

end Promotion.Json
