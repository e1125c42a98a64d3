import Promotion.DomainName.Mark

/-! The direction of writing: a label with letters that are written to the left has to read the same
way in any surroundings. The tables hold for the characters that may stand in a label. -/
namespace Promotion.DomainName

inductive Direction where
  | left
  | arabicLeft
  | arabicNumber
  | right
  | number
  | hyphen
  | neutral
  | joiner
  | mark
  deriving DecidableEq, Repr

namespace Direction

/-- The letters that are written to the left, those of Arabic apart. -/
def leftRuns : List (Nat × Nat) := [
   (0x5d0, 0x5f4), (0x7c0, 0x7ea), (0x7f4, 0x7f5), (0x800, 0x815), (0x81a, 0x81a), (0x824, 0x824),
   (0x828, 0x828), (0x840, 0x858), (0x10800, 0x10a00), (0x10a10, 0x10a35), (0x10a60, 0x10ae4),
   (0x10b00, 0x10cf2), (0x10e80, 0x10ea9), (0x10eb0, 0x10f27), (0x10f70, 0x10f81),
   (0x10fb0, 0x10ff6), (0x1e800, 0x1e8c4), (0x1e922, 0x1e943), (0x1e94b, 0x1e959)]

/-- The letters of Arabic and its kin. -/
def arabicRuns : List (Nat × Nat) := [
   (0x620, 0x64a), (0x66e, 0x66f), (0x671, 0x6d5), (0x6e5, 0x6e6), (0x6ee, 0x6ef), (0x6fa, 0x710),
   (0x712, 0x72f), (0x74d, 0x7a5), (0x7b1, 0x7b1), (0x860, 0x88e), (0x8a0, 0x8c9),
   (0xfe73, 0xfe73), (0x10d00, 0x10d23), (0x10f30, 0x10f45)]

/-- The numbers that run with Arabic. -/
def arabicNumberRuns : List (Nat × Nat) := [
   (0x660, 0x669), (0x10d30, 0x10d39)]

/-- The numbers of all other letters. -/
def numberRuns : List (Nat × Nat) := [
   (0x30, 0x39), (0x6f0, 0x6f9)]

/-- The characters that have no direction. -/
def neutralRuns : List (Nat × Nat) := [
   (0xb7, 0xb7), (0x2b9, 0x2ba), (0x2c6, 0x2cf), (0x2ec, 0x2ec), (0x375, 0x375), (0x2e2f, 0x2e2f),
   (0x30fb, 0x30fb), (0xa67f, 0xa67f), (0xa717, 0xa71f), (0xa788, 0xa788)]

/-- The marks without room of their own that still run to the right. -/
def rightMarks : List Nat := [
   0xcbf, 0xcc6, 0x11a07, 0x11a08, 0x11c3f]

def of (n : Nat) : Direction :=
  if n = 0x2d then hyphen
  else if n = 0x200c ∨ n = 0x200d then joiner
  else if isNonspacing n then (if rightMarks.contains n then right else mark)
  else if isInRuns leftRuns n then left
  else if isInRuns arabicRuns n then arabicLeft
  else if isInRuns arabicNumberRuns n then arabicNumber
  else if isInRuns numberRuns n then number
  else if isInRuns neutralRuns n then neutral
  else right

/-- Whether a label with this character has to be looked at. -/
def isLeftward : Direction → Bool
  | left => true
  | arabicLeft => true
  | arabicNumber => true
  | _ => false

/-- Whether a label to the left may end with this character, marks behind it left aside. -/
def canEnd : Direction → Bool
  | left => true
  | arabicLeft => true
  | arabicNumber => true
  | number => true
  | _ => false

end Direction

/-- Whether the characters of a label go together. A label to the left starts with a letter, ends
with a letter or number, has no letter to the right, and has numbers of one kind only. -/
def readsOneWay (label : List Nat) : Bool :=
  let ds := label.map Direction.of
  !ds.any Direction.isLeftward ||
    ((ds.head? == some .left || ds.head? == some .arabicLeft) && !ds.contains .right &&
      (((ds.filter (· != .mark)).getLast?).map Direction.canEnd).getD false &&
      !(ds.contains .arabicNumber && ds.contains .number))

end Promotion.DomainName
