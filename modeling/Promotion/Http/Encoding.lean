import Promotion.Text.Unit

/-! The encodings of JSON in bytes. A mark of byte order tells the encoding. Without one, the first
two characters are ASCII, so the zeros among the first four bytes tell how wide a unit is and which
end of it comes first. Halves of pairs on their own are let through in every encoding. -/
namespace Promotion.Http

inductive Encoding where
  | utf8
  | utf16 (highFirst : Bool)
  | utf32 (highFirst : Bool)
  deriving DecidableEq, Repr

namespace Encoding

/-- The bytes of the mark of byte order, the character U+FEFF. -/
def mark : Encoding → List UInt8
  | utf8 => [0xef, 0xbb, 0xbf]
  | utf16 true => [0xfe, 0xff]
  | utf16 false => [0xff, 0xfe]
  | utf32 true => [0, 0, 0xfe, 0xff]
  | utf32 false => [0xff, 0xfe, 0, 0]

/-- The encodings in the order in which their marks are looked for. Two of the marks begin alike,
and the longer one goes first. -/
def marked : List Encoding := [utf32 true, utf32 false, utf16 true, utf16 false, utf8]

/-- The encoding that the first bytes tell of when there is no mark. -/
def ofZeros : List UInt8 → Encoding
  | [0, _] => utf16 true
  | [_, 0] => utf16 false
  | 0 :: 0 :: _ :: _ :: _ => utf32 true
  | 0 :: _ :: _ :: _ :: _ => utf16 true
  | _ :: 0 :: 0 :: 0 :: _ => utf32 false
  | _ :: 0 :: _ :: _ :: _ => utf16 false
  | _ => utf8

/-- The encoding of some bytes, and what they hold behind the mark of byte order. -/
def detect (bytes : List UInt8) : Encoding × List UInt8 :=
  match marked.find? fun encoding => encoding.mark.isPrefixOf bytes with
  | some encoding => (encoding, bytes.drop encoding.mark.length)
  | none => (ofZeros bytes, bytes)

/-- The number that a unit holds. -/
def number (highFirst : Bool) (unit : List UInt8) : Nat :=
  (if highFirst then unit else unit.reverse).foldl (fun n b => n * 0x100 + b.toNat) 0

/-- The units of two bytes each, if no byte is left over. -/
def units16? (highFirst : Bool) : List UInt8 → Option (List Nat)
  | [] => some []
  | a :: b :: rest => (units16? highFirst rest).map (number highFirst [a, b] :: ·)
  | _ => none

/-- The units of four bytes each, if no byte is left over. -/
def units32? (highFirst : Bool) : List UInt8 → Option (List Nat)
  | [] => some []
  | a :: b :: c :: d :: rest => (units32? highFirst rest).map (number highFirst [a, b, c, d] :: ·)
  | _ => none

/-- The character of a code point; half of a pair has a stand-in. -/
def char? (n : Nat) : Option Char :=
  if Text.isHalf n then some (Text.standIn n)
  else if n.isValidChar then some (Char.ofNat n)
  else none

/-- The characters of units of UTF-16, in which pairs are joined. -/
def pairUp? : List Nat → Option (List Char)
  | [] => some []
  | [n] => (char? n).map ([·])
  | high :: low :: rest =>
    if Text.isHighHalf high && Text.isLowHalf low then
      (pairUp? rest).map (Char.ofNat (Text.joinHalves high low) :: ·)
    else do
      let c ← char? high
      let cs ← pairUp? (low :: rest)
      pure (c :: cs)

/-- Bytes of UTF-8 with the bytes of each half of a pair replaced by those of its stand-in, which
differ in the front only. -/
def replaceHalves : List UInt8 → List UInt8
  | 0xed :: b :: rest =>
    if 0xa0 ≤ b then 0xf3 :: 0x9d :: b :: replaceHalves rest
    else 0xed :: b :: replaceHalves rest
  | b :: rest => b :: replaceHalves rest
  | [] => []

/-- The text that bytes hold in an encoding. -/
def decode? (bytes : List UInt8) : Encoding → Option String
  | utf8 => String.fromUTF8? ⟨(replaceHalves bytes).toArray⟩
  | utf16 highFirst => ((units16? highFirst bytes).bind pairUp?).map String.ofList
  | utf32 highFirst => ((units32? highFirst bytes).bind fun ns => ns.mapM char?).map String.ofList

end Encoding

/-- The text that bytes hold, if they hold JSON. -/
def jsonText? (bytes : List UInt8) : Option String :=
  let (encoding, rest) := Encoding.detect bytes
  encoding.decode? rest

end Promotion.Http
