/-! Capital and small letters, as far as ASCII words are concerned. -/
namespace Promotion.Text

/-- The capitals of a character, for the characters whose capitals are ASCII letters; any other
character stands for itself. -/
def capitals (c : Char) : List Char :=
  if 'a' ≤ c ∧ c ≤ 'z' then [Char.ofNat (c.toNat - 32)]
  else match c.toNat with
    | 0xdf => ['S', 'S']
    | 0x131 => ['I']
    | 0x17f => ['S']
    | 0xfb00 => ['F', 'F']
    | 0xfb01 => ['F', 'I']
    | 0xfb02 => ['F', 'L']
    | 0xfb03 => ['F', 'F', 'I']
    | 0xfb04 => ['F', 'F', 'L']
    | 0xfb05 => ['S', 'T']
    | 0xfb06 => ['S', 'T']
    | _ => [c]

/-- The small form of a character, for the characters whose small form is an ASCII letter. -/
def small (c : Char) : Char :=
  if 'A' ≤ c ∧ c ≤ 'Z' then Char.ofNat (c.toNat + 32)
  else if c.toNat = 0x212a then 'k' else c

/-- A word in capitals, exact wherever the result is compared with an ASCII word. -/
def upper (s : String) : String := String.ofList (s.toList.flatMap capitals)

/-- A word in small letters, exact wherever the result is compared with an ASCII word. -/
def lower (s : String) : String := String.ofList (s.toList.map small)

end Promotion.Text
