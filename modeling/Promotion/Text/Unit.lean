/-! Units of UTF-16. A character from the 65536th on is a pair of units, a high half before a low
one; `joinHalves_highHalf_lowHalf` says that the pair gives the character back.

Half of a pair on its own is no character, but texts that are read may hold one. A character that
stands in for it is put in its place, from a range of code points that no characters are assigned
to. Such a text can be kept, compared and quoted, but it has no bytes in UTF-8: it can be neither
printed nor sent. -/
namespace Promotion.Text

def isHighHalf (n : Nat) : Bool := 0xd800 ≤ n && n < 0xdc00

def isLowHalf (n : Nat) : Bool := 0xdc00 ≤ n && n < 0xe000

def isHalf (n : Nat) : Bool := isHighHalf n || isLowHalf n

def highHalf (n : Nat) : Nat := 0xd800 + (n - 0x10000) / 0x400

def lowHalf (n : Nat) : Nat := 0xdc00 + (n - 0x10000) % 0x400

/-- The code point of a pair. -/
def joinHalves (high low : Nat) : Nat := 0x10000 + (high - 0xd800) * 0x400 + (low - 0xdc00)

/-- How many code points there are in a plane: as many as units. -/
def planeSize : Nat := 0x10000

/-- The plane of the stand-ins, in which no characters are assigned. -/
def standInPlane : Nat := 13

/-- The character that stands in for half of a pair. -/
def standIn (half : Nat) : Char := Char.ofNat (standInPlane * planeSize + half)

/-- The half that a character stands in for, if it is a stand-in. -/
def half? (c : Char) : Option Nat :=
  if c.toNat / planeSize = standInPlane ∧ isHalf (c.toNat % planeSize) then
    some (c.toNat % planeSize)
  else none

/-- Whether half of a pair stands on its own in a text. -/
def holdsHalf (s : String) : Bool := s.toList.any fun c => (half? c).isSome

theorem joinHalves_highHalf_lowHalf {n : Nat} (h : 0x10000 ≤ n) :
    joinHalves (highHalf n) (lowHalf n) = n := by
  unfold joinHalves highHalf lowHalf
  omega

theorem isHighHalf_highHalf {n : Nat} (h : n < 0x110000) : isHighHalf (highHalf n) = true := by
  unfold isHighHalf highHalf
  have hq : (n - 0x10000) / 0x400 < 0x400 := by omega
  simp
  omega

theorem isLowHalf_lowHalf (n : Nat) : isLowHalf (lowHalf n) = true := by
  unfold isLowHalf lowHalf
  have hr : (n - 0x10000) % 0x400 < 0x400 := Nat.mod_lt _ (by decide)
  simp
  omega

end Promotion.Text
