/-! White space: which characters are blank, and texts without the blanks around them. -/
namespace Promotion.Text

/-- The characters with the White_Space property. -/
def isWhiteSpace (c : Char) : Bool :=
  let n := c.toNat
  (0x9 ≤ n && n ≤ 0xd) || n == 0x20 || n == 0x85 || n == 0xa0 || n == 0x1680 ||
    (0x2000 ≤ n && n ≤ 0x200a) || n == 0x2028 || n == 0x2029 || n == 0x202f || n == 0x205f ||
    n == 0x3000

/-- White space and the four information separators; a text of these alone is blank. -/
def isBlankChar (c : Char) : Bool :=
  isWhiteSpace c || (0x1c ≤ c.toNat && c.toNat ≤ 0x1f)

/-- A list without the elements at its ends that satisfy a test. -/
def trimBy {α : Type} (p : α → Bool) (xs : List α) : List α :=
  ((xs.dropWhile p).reverse.dropWhile p).reverse

/-- A text without the blanks around it. -/
def strip (s : String) : String := String.ofList (trimBy isBlankChar s.toList)

/-- A text that holds nothing but blanks. -/
def isBlank (s : String) : Bool := s.toList.all isBlankChar

/-- A text without a run of one character at its end. -/
def dropTrailing (c : Char) (s : String) : String :=
  String.ofList ((s.toList.reverse.dropWhile (· == c)).reverse)

end Promotion.Text
