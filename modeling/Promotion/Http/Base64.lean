/-! Bytes in base 64: three bytes are four digits, and what is missing at the end is filled up with
equals signs. -/
namespace Promotion.Http

/-- The digit of a value below 64. -/
def base64Digit (n : Nat) : Char :=
  if n < 26 then Char.ofNat (0x41 + n)
  else if n < 52 then Char.ofNat (0x61 + (n - 26))
  else if n < 62 then Char.ofNat (0x30 + (n - 52))
  else if n = 62 then '+'
  else '/'

/-- The four digits of a number of 24 bits. -/
def base64Group (n : Nat) : List Char :=
  [base64Digit (n / 0x40000), base64Digit (n / 0x1000 % 0x40), base64Digit (n / 0x40 % 0x40),
    base64Digit (n % 0x40)]

def base64 : List UInt8 → List Char
  | a :: b :: c :: rest =>
    base64Group (a.toNat * 0x10000 + b.toNat * 0x100 + c.toNat) ++ base64 rest
  | [a, b] => (base64Group (a.toNat * 0x10000 + b.toNat * 0x100)).take 3 ++ ['=']
  | [a] => (base64Group (a.toNat * 0x10000)).take 2 ++ ['=', '=']
  | [] => []

end Promotion.Http
