import Promotion.Text.Digit
import Promotion.Text.Utf8

/-! Percent-encoding: characters outside a safe set become the bytes of their UTF-8 form. -/
namespace Promotion.Http

/-- One byte as a percent sign and two capital hexadecimal digits. -/
def percentByte (b : UInt8) : List Char := '%' :: Text.hexDigits false 2 b.toNat

def percentChar (safe : Char → Bool) (c : Char) : List Char :=
  if safe c then [c] else (String.utf8EncodeChar c).flatMap percentByte

def percentEncode (safe : Char → Bool) (cs : List Char) : List Char := cs.flatMap (percentChar safe)

/-- The ASCII characters that are seen. -/
def isVisible (c : Char) : Bool := 0x21 ≤ c.toNat && c.toNat ≤ 0x7e

/-- What stands in a fragment as it is. -/
def fragmentSafe (c : Char) : Bool :=
  isVisible c && !(c == '"' || c == '<' || c == '>' || c.toNat == 0x60)

/-- What stands in a query as it is. -/
def querySafe (c : Char) : Bool :=
  isVisible c && !(c == '"' || c == '#' || c == '<' || c == '>')

/-- What stands in a path as it is. -/
def pathSafe (c : Char) : Bool :=
  querySafe c && !(c == '?' || c.toNat == 0x60 || c.toNat == 0x7b || c.toNat == 0x7d)

/-- What stands in the user part of an address as it is. -/
def userSafe (c : Char) : Bool :=
  pathSafe c && !(c == '/' || c == ';' || c == '=' || c == '@' || c == '[' || c == '\\' ||
    c == ']' || c == '^' || c == '|')

/-- What stands in the value of a form as it is. -/
def formSafe (c : Char) : Bool :=
  ('A' ≤ c && c ≤ 'Z') || ('a' ≤ c && c ≤ 'z') || ('0' ≤ c && c ≤ '9') || c == '-' || c == '.' ||
    c == '_' || c == '~'

/-- The value of a form: a plus sign stands for a space. -/
def formEncode (cs : List Char) : List Char :=
  cs.flatMap fun c => if c = ' ' then ['+'] else percentChar formSafe c

/-- The bytes that a percent-encoded text stands for. -/
def percentBytes : List Char → List UInt8
  | '%' :: a :: b :: cs =>
    match Text.ofHexDigits? [a, b] with
    | some n => UInt8.ofNat n :: percentBytes cs
    | none => String.utf8EncodeChar '%' ++ percentBytes (a :: b :: cs)
  | c :: cs => String.utf8EncodeChar c ++ percentBytes cs
  | [] => []

/-- The characters that a percent-encoded text stands for; bytes that are no UTF-8 are replaced. -/
def percentDecode (cs : List Char) : List Char := Text.decodeLossy (percentBytes cs)

end Promotion.Http
