import Promotion.Json.Basic
import Promotion.Json.Limits
import Promotion.Text.Unit

/-! Reading JSON text. A fault names its reason and the place, counted in characters, where the
text stopped making sense. -/
namespace Promotion.Json

inductive Reason where
  | expectingValue
  | expectingName
  | expectingColon
  | expectingComma
  | extraData
  | controlCharacter
  | badEscape
  | badUnitEscape
  | unterminated
  | byteOrderMark
  deriving DecidableEq, Repr

/-- Why a text is not read. The place of a malformed text is given by how many characters were
left there. -/
inductive ReadFault where
  | malformed (reason : Reason) (left : Nat)
  | tooManyDigits (count : Nat)
  | tooDeep
  deriving DecidableEq, Repr

abbrev Reading (α : Type) := Except ReadFault (α × List Char)

def fail {α : Type} (reason : Reason) (rest : List Char) : Except ReadFault α :=
  .error (.malformed reason rest.length)

def isGap (c : Char) : Bool := c = ' ' ∨ c = '\t' ∨ c = '\n' ∨ c = '\r'

def skipGap (cs : List Char) : List Char := cs.dropWhile isGap

/-- The character that a letter behind a backslash stands for. -/
def escape? : Char → Option Char
  | '"' => some '"'
  | '\\' => some '\\'
  | '/' => some '/'
  | 'b' => some (Char.ofNat 8)
  | 'f' => some (Char.ofNat 12)
  | 'n' => some '\n'
  | 'r' => some '\r'
  | 't' => some '\t'
  | _ => none

/-- The character of a code point; half of a pair on its own has a stand-in. -/
def charOfUnit (n : Nat) : Char :=
  if Text.isHalf n then Text.standIn n else Char.ofNat n

/-- The characters of code points and UTF-16 units. The halves of a pair are joined, and `high` is
a first half that waits for its second. -/
def joinUnits (high : Option Nat) : List Nat → List Char
  | [] => (high.map charOfUnit).toList
  | n :: ns =>
    match high with
    | some h =>
      if Text.isLowHalf n then Char.ofNat (Text.joinHalves h n) :: joinUnits none ns
      else if Text.isHighHalf n then charOfUnit h :: joinUnits (some n) ns
      else charOfUnit h :: charOfUnit n :: joinUnits none ns
    | none =>
      if Text.isHighHalf n then joinUnits (some n) ns else charOfUnit n :: joinUnits none ns

/-- Puts a code point before what is read of a text. -/
def consUnit (n : Nat) : Reading (List Nat) → Reading (List Nat)
  | .ok (ns, rest) => .ok (n :: ns, rest)
  | .error fault => .error fault

/-- Reads the inside of a text up to the closing quote. `start` is the text from its opening quote
on. -/
def readUnits (start : List Char) : List Char → Reading (List Nat)
  | [] => fail .unterminated start
  | '"' :: rest => .ok ([], rest)
  | '\\' :: [] => fail .unterminated start
  | '\\' :: 'u' :: a :: b :: c :: d :: rest =>
    match (if rest.isEmpty then none else Text.ofHexDigits? [a, b, c, d]) with
    | none => fail .badUnitEscape ('u' :: a :: b :: c :: d :: rest)
    | some n => consUnit n (readUnits start rest)
  | '\\' :: 'u' :: rest => fail .badUnitEscape ('u' :: rest)
  | '\\' :: c :: rest =>
    match escape? c with
    | some e => consUnit e.toNat (readUnits start rest)
    | none => fail .badEscape ('\\' :: c :: rest)
  | c :: rest =>
    if c.toNat < 0x20 then fail .controlCharacter (c :: rest)
    else consUnit c.toNat (readUnits start rest)

/-- Reads a text behind its opening quote. -/
def readText (start rest : List Char) : Reading String :=
  match readUnits start rest with
  | .ok (units, rest) => .ok (String.ofList (joinUnits none units), rest)
  | .error fault => .error fault

/-- Splits off a power of ten at the front: a letter, a sign and digits, at least one digit. -/
def spanPower (cs : List Char) : Option (Int × List Char) :=
  match cs with
  | c :: rest =>
    if c = 'e' ∨ c = 'E' then
      let (negative, body) := Number.splitSign rest
      let (digits, rest) := Number.spanDigits body
      if digits.isEmpty then none
      else (Text.ofDigits? digits).map fun n => (Number.withSign negative n, rest)
    else none
  | [] => none

/-- Splits off a point with digits behind it. -/
def spanFraction : List Char → List Char × List Char
  | '.' :: rest =>
    let (digits, rest') := Number.spanDigits rest
    if digits.isEmpty then ([], '.' :: rest) else (digits, rest')
  | cs => ([], cs)

/-- Splits off the digits before the point: a zero on its own, or digits that start with none. -/
def spanWhole (cs : List Char) : List Char × List Char :=
  match cs with
  | '0' :: rest => (['0'], rest)
  | _ => Number.spanDigits cs

/-- Reads a numeral behind its sign: a whole number, or a double if there is a fraction or a power
of ten. `start` is the text from the sign on. -/
def readUnsigned (limit : Option Nat) (start : List Char) (negative : Bool) (body : List Char) :
    Reading Json :=
  let (whole, rest) := spanWhole body
  if whole.isEmpty then fail .expectingValue start
  else
    let (fraction, rest) := spanFraction rest
    match spanPower rest with
    | some (power, rest) => .ok (.float (Number.ofParts negative whole fraction power), rest)
    | none =>
      if fraction.isEmpty then
        if exceeds limit whole.length then .error (.tooManyDigits whole.length)
        else .ok (.int (Number.withSign negative ((Text.ofDigits? whole).getD 0)), rest)
      else .ok (.float (Number.ofParts negative whole fraction 0), rest)

/-- Reads a numeral. -/
def readNumber (limit : Option Nat) (cs : List Char) : Reading Json :=
  match cs with
  | '-' :: rest => readUnsigned limit cs true rest
  | _ => readUnsigned limit cs false cs

/-- The words that stand for values. -/
def words : List (List Char × Json) := [
  ("null".toList, .null),
  ("true".toList, .bool true),
  ("false".toList, .bool false),
  ("NaN".toList, .float .nan),
  ("Infinity".toList, .float (.infinity false)),
  ("-Infinity".toList, .float (.infinity true))]

/-- Reads a value that is neither text, array nor object. -/
def readWord (limit : Option Nat) (cs : List Char) : Reading Json :=
  match words.find? fun word => word.1.isPrefixOf cs with
  | some (word, value) => .ok (value, cs.drop word.length)
  | none => readNumber limit cs

mutual
/-- Reads a value, at most `depth` arrays and objects inside each other. Every second step of the
recursion takes a character, so twice the length of the text bounds it. -/
def readValue (limit : Option Nat) : (fuel depth : Nat) → List Char → Reading Json
  | 0, _, cs => fail .expectingValue cs
  | fuel + 1, depth, cs =>
    match cs with
    | '"' :: rest =>
      match readText cs rest with
      | .ok (text, rest) => .ok (.str text, rest)
      | .error fault => .error fault
    | '[' :: rest =>
      match depth with
      | 0 => .error .tooDeep
      | depth + 1 =>
        match skipGap rest with
        | ']' :: rest => .ok (.arr [], rest)
        | rest =>
          match readItems limit fuel depth rest with
          | .ok (items, rest) => .ok (.arr items, rest)
          | .error fault => .error fault
    | '\x7b' :: rest =>
      match depth with
      | 0 => .error .tooDeep
      | depth + 1 =>
        match skipGap rest with
        | '\x7d' :: rest => .ok (.obj [], rest)
        | rest =>
          match readPairs limit fuel depth rest with
          | .ok (pairs, rest) => .ok (.obj (Fields.ofPairs pairs), rest)
          | .error fault => .error fault
    | _ => readWord limit cs

/-- Reads the items of an array up to its end. -/
def readItems (limit : Option Nat) : (fuel depth : Nat) → List Char → Reading (List Json)
  | 0, _, cs => fail .expectingValue cs
  | fuel + 1, depth, cs =>
    match readValue limit fuel depth cs with
    | .error fault => .error fault
    | .ok (item, rest) =>
      match skipGap rest with
      | ']' :: rest => .ok ([item], rest)
      | ',' :: rest =>
        match readItems limit fuel depth (skipGap rest) with
        | .ok (items, rest) => .ok (item :: items, rest)
        | .error fault => .error fault
      | rest => fail .expectingComma rest

/-- Reads the keys and values of an object up to its end. -/
def readPairs (limit : Option Nat) : (fuel depth : Nat) → List Char →
    Reading (List (String × Json))
  | 0, _, cs => fail .expectingName cs
  | fuel + 1, depth, cs =>
    match cs with
    | '"' :: rest =>
      match readText cs rest with
      | .error fault => .error fault
      | .ok (key, rest) =>
        match skipGap rest with
        | ':' :: rest =>
          match readValue limit fuel depth (skipGap rest) with
          | .error fault => .error fault
          | .ok (value, rest) =>
            match skipGap rest with
            | '\x7d' :: rest => .ok ([(key, value)], rest)
            | ',' :: rest =>
              match readPairs limit fuel depth (skipGap rest) with
              | .ok (pairs, rest) => .ok ((key, value) :: pairs, rest)
              | .error fault => .error fault
            | rest => fail .expectingComma rest
        | rest => fail .expectingColon rest
    | _ => fail .expectingName cs
end

/-- Reads a text that holds one value and blanks around it. -/
def readChars (limits : Limits) (cs : List Char) : Except ReadFault Json :=
  match cs with
  | [] => fail .expectingValue cs
  | c :: _ =>
    if c.toNat = 0xfeff then fail .byteOrderMark cs
    else
      match readValue limits.digits (2 * cs.length + 2) limits.depth (skipGap cs) with
      | .error fault => .error fault
      | .ok (value, rest) =>
        match skipGap rest with
        | [] => .ok value
        | rest => fail .extraData rest

/-- Reads a text within limits for its whole numbers and its depth. -/
def readWithin (limits : Limits) (s : String) : Except ReadFault Json := readChars limits s.toList

/-- Reads a text within the usual limits. -/
def read (s : String) : Except ReadFault Json := readWithin .reading s

def Reason.message : Reason → String
  | .expectingValue => "Expecting value"
  | .expectingName => "Expecting property name enclosed in double quotes"
  | .expectingColon => "Expecting ':' delimiter"
  | .expectingComma => "Expecting ',' delimiter"
  | .extraData => "Extra data"
  | .controlCharacter => "Invalid control character at"
  | .badEscape => "Invalid \\escape"
  | .badUnitEscape => "Invalid \\uXXXX escape"
  | .unterminated => "Unterminated string starting at"
  | .byteOrderMark => "Unexpected UTF-8 BOM (decode using utf-8-sig)"

/-- Line and column, from one, of a place in a text. -/
def lineColumn (cs : List Char) (place : Nat) : Nat × Nat :=
  let before := cs.take place
  (before.count '\n' + 1, (before.reverse.takeWhile (· != '\n')).length + 1)

/-- The words for a fault in a given text. -/
def ReadFault.message (s : String) : ReadFault → String
  | .malformed reason left =>
    let place := s.toList.length - left
    let (line, column) := lineColumn s.toList place
    reason.message ++ s!": line {line} column {column} (char {place})"
  | .tooManyDigits count =>
    s!"Exceeds the limit ({Number.maxDigits} digits) for integer string conversion: " ++
      s!"value has {count} digits; use sys.set_int_max_str_digits() to increase the limit"
  | .tooDeep => "maximum recursion depth exceeded"

end Promotion.Json
