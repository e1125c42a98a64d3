/-! Reading UTF-8 that may be damaged: every piece that is cut short or out of place becomes one
replacement character. -/
namespace Promotion.Text

def replacementChar : Char := Char.ofNat 0xfffd

/-- How many bytes follow a first byte above ASCII, and between which bounds the next one lies. -/
def following? (first : Nat) : Option (Nat × Nat × Nat) :=
  if 0xc2 ≤ first ∧ first ≤ 0xdf then some (1, 0x80, 0xbf)
  else if first = 0xe0 then some (2, 0xa0, 0xbf)
  else if first = 0xed then some (2, 0x80, 0x9f)
  else if 0xe1 ≤ first ∧ first ≤ 0xef then some (2, 0x80, 0xbf)
  else if first = 0xf0 then some (3, 0x90, 0xbf)
  else if first = 0xf4 then some (3, 0x80, 0x8f)
  else if 0xf1 ≤ first ∧ first ≤ 0xf3 then some (3, 0x80, 0xbf)
  else none

/-- The bytes at the front that go on with a character, of which `count` are wanted. The bounds are
those of the next byte. -/
def spanFollowing : (count low high : Nat) → List UInt8 → List UInt8
  | 0, _, _, _ => []
  | _, _, _, [] => []
  | count + 1, low, high, b :: bytes =>
    if low ≤ b.toNat ∧ b.toNat ≤ high then b :: spanFollowing count 0x80 0xbf bytes else []

/-- The character of a first byte and all that follow it. -/
def joinBytes (first : Nat) (following : List UInt8) : Char :=
  let lead :=
    if first < 0xe0 then first - 0xc0 else if first < 0xf0 then first - 0xe0 else first - 0xf0
  Char.ofNat (following.foldl (fun n b => n * 0x40 + (b.toNat - 0x80)) lead)

/-- The characters of bytes, whether or not they are UTF-8. -/
def decodeLossy : List UInt8 → List Char
  | [] => []
  | b :: bytes =>
    if b.toNat < 0x80 then Char.ofNat b.toNat :: decodeLossy bytes
    else
      match following? b.toNat with
      | none => replacementChar :: decodeLossy bytes
      | some (count, low, high) =>
        let following := spanFollowing count low high bytes
        (if following.length = count then joinBytes b.toNat following else replacementChar) ::
          decodeLossy (bytes.drop following.length)
termination_by bytes => bytes.length
decreasing_by all_goals simp only [List.length_cons, List.length_drop]; omega

end Promotion.Text
