import Promotion.Json.Reader
import Promotion.Json.Shown
import Promotion.Number.Rounded

/-! Messages with placeholders. A placeholder is a percent sign, a key in parentheses, flags, a
width, a precision and a letter for the kind of text, of which all but the first and the last may
be missing. Each takes the next value, or the one under its key, and a star in the place of a size
takes one more. -/
namespace Promotion

/-- What comes of a placeholder: it stands at the left, numbers show a plus sign or leave room for
it, an alternate form is asked for, or zeros fill the room. -/
structure Flags where
  left : Bool
  plus : Bool
  room : Bool
  alternate : Bool
  zeros : Bool
  deriving DecidableEq, Repr

/-- A width or a precision. -/
inductive Size where
  | missing
  | given (n : Nat)
  /-- The next value says it. -/
  | taken
  deriving DecidableEq, Repr

/-- Widths lie below this. -/
def widthLimit : Nat := 0x8000000000000000

/-- Precisions lie below this. -/
def precisionLimit : Nat := 0x80000000

/-- The key of a placeholder, which may be left open. -/
inductive PlaceholderKey where
  | missing
  | named (name : String)
  | unclosed
  deriving DecidableEq, Repr

/-- A placeholder. Its letter is missing if the message ends before it, and `behind` counts what
comes after. -/
structure Placeholder where
  key : PlaceholderKey
  flags : Flags
  width : Size
  precision : Size
  letter : Option Char
  behind : Nat
  deriving DecidableEq, Repr

inductive Piece where
  | plain (c : Char)
  | placeholder (p : Placeholder)
  deriving DecidableEq, Repr

/-- Why values do not go into a message. -/
inductive TemplateFault where
  | tooFew
  | tooMany
  | unfitting
  | noTable
  | noKey
  | unclosedKey
  | unfinished
  | widthTooBig
  | precisionTooBig
  | unknownLetter (letter : Char) (behind : Nat)
  | notANumber
  | outOfRange
  | unwritable (fault : Json.WriteFault)
  deriving DecidableEq, Repr

namespace Piece

/-- Splits off a key up to its closing parenthesis, with others inside in pairs. -/
def spanKey : (inside : Nat) → List Char → Option (List Char × List Char)
  | _, [] => none
  | 0, ')' :: cs => some ([], cs)
  | inside + 1, ')' :: cs => (spanKey inside cs).map fun (key, rest) => (')' :: key, rest)
  | inside, '(' :: cs => (spanKey (inside + 1) cs).map fun (key, rest) => ('(' :: key, rest)
  | inside, c :: cs => (spanKey inside cs).map fun (key, rest) => (c :: key, rest)

def spanKeyed : List Char → PlaceholderKey × List Char
  | '(' :: cs =>
    match spanKey 0 cs with
    | some (key, rest) => (.named (String.ofList key), rest)
    | none => (.unclosed, [])
  | cs => (.missing, cs)

def isFlag (c : Char) : Bool := c = '-' ∨ c = '+' ∨ c = ' ' ∨ c = '#' ∨ c = '0'

def flagsOf (cs : List Char) : Flags :=
  ⟨cs.contains '-', cs.contains '+', cs.contains ' ', cs.contains '#', cs.contains '0'⟩

def spanSize : List Char → Size × List Char
  | '*' :: cs => (.taken, cs)
  | cs =>
    let (digits, rest) := Number.spanDigits cs
    if digits.isEmpty then (.missing, cs) else (.given ((Text.ofDigits? digits).getD 0), rest)

/-- Splits off a precision; a point with nothing behind it stands for none. -/
def spanPrecision : List Char → Size × List Char
  | '.' :: cs =>
    match spanSize cs with
    | (.missing, rest) => (.given 0, rest)
    | found => found
  | cs => (.missing, cs)

/-- Drops a letter for the length of a number, which says nothing. -/
def dropLength : List Char → List Char
  | 'h' :: cs => cs
  | 'l' :: cs => cs
  | 'L' :: cs => cs
  | cs => cs

/-- Splits off a placeholder behind its percent sign. -/
def spanPlaceholder (cs : List Char) : Placeholder × List Char :=
  let (key, cs) := spanKeyed cs
  let flags := flagsOf (cs.takeWhile isFlag)
  let (width, cs) := spanSize (cs.dropWhile isFlag)
  let (precision, cs) := spanPrecision cs
  let cs := dropLength cs
  (⟨key, flags, width, precision, cs.head?, cs.tail.length⟩, cs.tail)

/-- The pieces of a message. Each takes a character at least, so the length of the message bounds
them. -/
def ofChars : (bound : Nat) → List Char → List Piece
  | 0, _ => []
  | _, [] => []
  | bound + 1, '%' :: '%' :: cs => .plain '%' :: ofChars bound cs
  | bound + 1, '%' :: cs =>
    let (p, rest) := spanPlaceholder cs
    .placeholder p :: ofChars bound rest
  | bound + 1, c :: cs => .plain c :: ofChars bound cs

def ofText (message : String) : List Piece := ofChars message.length message.toList

end Piece

/-- The values for the placeholders to come: those in line, and the array or object in which keys
are looked up. -/
structure Supply where
  queue : List Json
  table : Option Json
  deriving DecidableEq

namespace Supply

def take (s : Supply) : Except TemplateFault (Json × Supply) :=
  match s.queue with
  | [] => .error .tooFew
  | value :: queue => .ok (value, { s with queue })

/-- Puts the value under a key in line, in the place of all others. -/
def lookUp (s : Supply) : PlaceholderKey → Except TemplateFault Supply
  | .missing => .ok s
  | .unclosed => .error (if s.table.isSome then .unclosedKey else .noTable)
  | .named name =>
    match s.table with
    | none => .error .noTable
    | some (.obj fields) =>
      match Fields.get? fields name with
      | some value => .ok { s with queue := [value] }
      | none => .error .noKey
    | some _ => .error .unfitting

/-- A value that says a size, which has to lie below a limit and not below its negation. -/
def takeSize (s : Supply) (limit : Nat) : Except TemplateFault (Int × Supply) := do
  let (value, s) ← s.take
  let n ← match value with
    | .int n => .ok n
    | .bool b => .ok (if b then 1 else 0)
    | _ => .error .unfitting
  if n < -(limit : Int) ∨ (limit : Int) ≤ n then .error .outOfRange else .ok (n, s)

/-- A width, and whether it asks for the left. -/
def width (s : Supply) : Size → Except TemplateFault (Nat × Bool × Supply)
  | .missing => .ok (0, false, s)
  | .given n => if widthLimit ≤ n then .error .widthTooBig else .ok (n, false, s)
  | .taken => do
    let (n, s) ← s.takeSize widthLimit
    pure (n.natAbs, n < 0, s)

/-- A precision; one below zero stands for zero. -/
def precision (s : Supply) : Size → Except TemplateFault (Option Nat × Supply)
  | .missing => .ok (none, s)
  | .given n => if precisionLimit ≤ n then .error .precisionTooBig else .ok (some n, s)
  | .taken => do
    let (n, s) ← s.takeSize precisionLimit
    pure (some n.toNat, s)

/-- Where keys are looked up, a value must not stay in line behind a placeholder. -/
def settled (s : Supply) : Bool := s.table.isNone || s.queue.isEmpty

/-- Whether nothing is left that has to be taken. -/
def isSpent (s : Supply) : Bool := s.queue.isEmpty || s.table.isSome

end Supply

namespace Placeholder

/-- The text of a value. -/
def written (limits : Json.Limits) (layOut : Json → String) (value : Json) :
    Except TemplateFault (List Char) :=
  match value.textWithin limits layOut with
  | .ok text => .ok text.toList
  | .error fault => .error (.unwritable fault)

/-- Text in ASCII, with escapes for other characters. -/
def asciiText (cs : List Char) : List Char :=
  cs.flatMap fun c =>
    if c.toNat < 0x80 then [c]
    else if c.toNat < 0x100 then '\\' :: 'x' :: Text.hexDigits true 2 c.toNat
    else if c.toNat < 0x10000 then '\\' :: 'u' :: Text.hexDigits true 4 c.toNat
    else '\\' :: 'U' :: Text.hexDigits true 8 c.toNat

/-- A text cut or filled up to its room. A sign and a mark of the base stand before zeros. -/
def layOut (flags : Flags) (width : Nat) (numeric : Bool) (front body : List Char) : List Char :=
  let room := width - (front.length + body.length)
  if flags.left then front ++ body ++ List.replicate room ' '
  else if numeric && flags.zeros then front ++ List.replicate room '0' ++ body
  else List.replicate room ' ' ++ front ++ body

/-- The sign of a number. -/
def sign (flags : Flags) (negative : Bool) : List Char :=
  if negative then ['-'] else if flags.plus then ['+'] else if flags.room then [' '] else []

/-- The whole number that a value counts as. Only `d` and its like take the whole part of a
double. -/
def wholeOf (cuts : Bool) : Json → Except TemplateFault Int
  | .int n => .ok n
  | .bool b => .ok (if b then 1 else 0)
  | .float x =>
    if !cuts then .error .unfitting
    else if x.isNaN then .error .notANumber
    else if !x.isFinite then .error .outOfRange
    else .ok x.truncate
  | _ => .error .unfitting

/-- The double that a value counts as. -/
def doubleOf : Json → Except TemplateFault Double
  | .float x => .ok x
  | .int n => if (Double.ofInt n).isFinite then .ok (.ofInt n) else .error .outOfRange
  | .bool b => .ok (.ofInt (if b then 1 else 0))
  | _ => .error .unfitting

/-- The character that a value counts as: the only one of a text, or the one with a number. -/
def charOf : Json → Except TemplateFault Char
  | .str s =>
    match s.toList with
    | [c] => .ok c
    | _ => .error .unfitting
  | .int n =>
    if 0 ≤ n ∧ n < 0x110000 then .ok (Json.charOfUnit n.toNat) else .error .outOfRange
  | .bool b => .ok (Char.ofNat (if b then 1 else 0))
  | _ => .error .unfitting

/-- The greatest precision of a whole number. -/
def maxPrecision : Nat := 0x7ffffffc

/-- A whole number in a base, with as many digits as the precision says at least. -/
def wholeText (limits : Json.Limits) (flags : Flags) (width : Nat) (precision : Option Nat)
    (letter : Char) (n : Int) : Except TemplateFault (List Char) :=
  let base := if letter = 'o' then 8 else if letter = 'x' ∨ letter = 'X' then 16 else 10
  let digits := Nat.toDigits base n.natAbs
  let digits := if letter = 'X' then digits.map Char.toUpper else digits
  let mark := if flags.alternate ∧ base ≠ 10 then ['0', letter] else []
  if (precision.any fun most => maxPrecision < most) then .error .outOfRange
  else if base = 10 ∧ Json.exceeds limits.digits digits.length then
    .error (.unwritable .tooManyDigits)
  else
    let zeros := List.replicate (precision.getD 0 - digits.length) '0'
    .ok (layOut flags width true (sign flags (n < 0) ++ mark) (zeros ++ digits))

/-- A double with six digits, unless the precision says otherwise. -/
def doubleText (flags : Flags) (width : Nat) (precision : Option Nat) (form : Double.Form)
    (upper : Bool) (x : Double) : List Char :=
  let body := x.formText form flags.alternate (precision.getD 6)
  layOut flags width true (sign flags (x.negative && !x.isNaN))
    (if upper then body.map Char.toUpper else body)

/-- The text of a value under a letter: `s`, `r` and `a` for any value as it stands, as it is shown
and as it is shown in ASCII, `c` for a character, and the rest for numbers. -/
def textOf (limits : Json.Limits) (flags : Flags) (width : Nat) (precision : Option Nat)
    (letter : Char) (behind : Nat) (value : Json) : Except TemplateFault (List Char) :=
  let cut (cs : List Char) : List Char :=
    layOut flags width false [] ((precision.map cs.take).getD cs)
  let whole (cuts : Bool) : Except TemplateFault (List Char) := do
    wholeText limits flags width precision letter (← wholeOf cuts value)
  let double (form : Double.Form) (upper : Bool) : Except TemplateFault (List Char) := do
    pure (doubleText flags width precision form upper (← doubleOf value))
  match letter with
  | 's' => (written limits Json.plain value).map cut
  | 'r' => (written limits Json.shown value).map cut
  | 'a' => (written limits Json.shown value).map fun cs => cut (asciiText cs)
  | 'c' => (charOf value).map fun c => layOut flags width false [] [c]
  | 'd' | 'i' | 'u' => whole true
  | 'o' | 'x' | 'X' => whole false
  | 'e' => double .scientific false
  | 'E' => double .scientific true
  | 'f' => double .fixed false
  | 'F' => double .fixed true
  | 'g' => double .general false
  | 'G' => double .general true
  | _ => .error (.unknownLetter letter behind)

/-- The text in the place of a placeholder, and the values left for the others. -/
def fill (limits : Json.Limits) (p : Placeholder) (s : Supply) :
    Except TemplateFault (List Char × Supply) := do
  let s ← s.lookUp p.key
  let (width, left, s) ← s.width p.width
  let (precision, s) ← s.precision p.precision
  match p.letter with
  | none => .error .unfinished
  | some letter =>
    let (value, s) ← s.take
    let flags := { p.flags with left := p.flags.left || left }
    let text ← textOf limits flags width precision letter p.behind value
    if s.settled then .ok (text, s) else .error .tooMany

end Placeholder

namespace Piece

/-- Puts values into the pieces of a message. -/
def fill (limits : Json.Limits) : List Piece → Supply → Except TemplateFault (List Char × Supply)
  | [], s => .ok ([], s)
  | .plain c :: pieces, s => do
    let (text, s) ← fill limits pieces s
    pure (c :: text, s)
  | .placeholder p :: pieces, s => do
    let (first, s) ← p.fill limits s
    let (rest, s) ← fill limits pieces s
    pure (first ++ rest, s)

/-- Puts values into a message, all of those in line unless keys are looked up. -/
def fillAll (limits : Json.Limits) (message : String) (s : Supply) :
    Except TemplateFault String := do
  let (text, s) ← fill limits (ofText message) s
  if s.isSpent then .ok (String.ofList text) else .error .tooMany

end Piece

namespace TemplateFault

/-- The words of a fault of a message; those of faults of its values are left out. -/
def message? (message : String) : TemplateFault → Option String
  | .unclosedKey => some "incomplete format key"
  | .unfinished => some "incomplete format"
  | .widthTooBig => some "width too big"
  | .precisionTooBig => some "precision too big"
  | .unknownLetter letter behind =>
    let shown := if 31 ≤ letter.toNat ∧ letter.toNat ≤ 126 then letter else '?'
    some (s!"unsupported format character '{shown}' " ++
      s!"(0x{String.ofList (Nat.toDigits 16 letter.toNat)}) " ++
      s!"at index {message.length - behind - 1}")
  | .notANumber => some "cannot convert float NaN to integer"
  | .unwritable fault => fault.message?
  | _ => none

end TemplateFault
end Promotion
