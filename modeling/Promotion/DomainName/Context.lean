import Promotion.DomainName.Mark

/-! Characters that may stand in a label only next to certain others. -/
namespace Promotion.DomainName

/-- The letters that join with those on both sides. -/
def dualRuns : List (Nat × Nat) := [
   (0x620, 0x620), (0x626, 0x626), (0x628, 0x628), (0x62a, 0x62e), (0x633, 0x647), (0x649, 0x64a),
   (0x66e, 0x66f), (0x679, 0x687), (0x69a, 0x6bf), (0x6c1, 0x6c2), (0x6cc, 0x6cc), (0x6ce, 0x6ce),
   (0x6d0, 0x6d1), (0x6fa, 0x6fc), (0x6ff, 0x6ff), (0x712, 0x714), (0x71a, 0x71d), (0x71f, 0x727),
   (0x729, 0x729), (0x72b, 0x72b), (0x72d, 0x72e), (0x74e, 0x758), (0x75c, 0x76a), (0x76d, 0x770),
   (0x772, 0x772), (0x775, 0x777), (0x77a, 0x77f), (0x7ca, 0x7ea), (0x841, 0x845), (0x848, 0x848),
   (0x84a, 0x853), (0x855, 0x855), (0x860, 0x860), (0x862, 0x865), (0x868, 0x868), (0x886, 0x886),
   (0x889, 0x88d), (0x8a0, 0x8a9), (0x8af, 0x8b0), (0x8b3, 0x8b8), (0x8ba, 0x8c8),
   (0x1820, 0x1878), (0x1887, 0x18a8), (0x18aa, 0x18aa), (0xa840, 0xa871), (0x10ac0, 0x10ac4),
   (0x10ad3, 0x10ad6), (0x10ad8, 0x10adc), (0x10ade, 0x10ae0), (0x10b80, 0x10b80),
   (0x10b82, 0x10b82), (0x10b86, 0x10b88), (0x10b8a, 0x10b8b), (0x10b8d, 0x10b8d),
   (0x10b90, 0x10b90), (0x10d01, 0x10d21), (0x10d23, 0x10d23), (0x10f30, 0x10f32),
   (0x10f34, 0x10f44), (0x10f70, 0x10f73), (0x10f76, 0x10f81), (0x10fb0, 0x10fb0),
   (0x10fb2, 0x10fb3), (0x10fb8, 0x10fb8), (0x10fbb, 0x10fbc), (0x10fbe, 0x10fbf),
   (0x10fc1, 0x10fc1), (0x10fc4, 0x10fc4), (0x1e922, 0x1e943)]

/-- The letters that join with the one before them. -/
def rightJoinRuns : List (Nat × Nat) := [
   (0x622, 0x625), (0x627, 0x627), (0x629, 0x629), (0x62f, 0x632), (0x648, 0x648), (0x671, 0x673),
   (0x688, 0x699), (0x6c0, 0x6c0), (0x6c3, 0x6cb), (0x6cd, 0x6cd), (0x6cf, 0x6cf), (0x6d2, 0x6d5),
   (0x6ee, 0x6ef), (0x710, 0x710), (0x715, 0x719), (0x71e, 0x71e), (0x728, 0x728), (0x72a, 0x72a),
   (0x72c, 0x72c), (0x72f, 0x72f), (0x74d, 0x74d), (0x759, 0x75b), (0x76b, 0x76c), (0x771, 0x771),
   (0x773, 0x774), (0x778, 0x779), (0x840, 0x840), (0x846, 0x847), (0x849, 0x849), (0x854, 0x854),
   (0x856, 0x858), (0x867, 0x867), (0x869, 0x882), (0x88e, 0x88e), (0x8aa, 0x8ac), (0x8ae, 0x8ae),
   (0x8b1, 0x8b2), (0x8b9, 0x8b9), (0x10ac5, 0x10ac5), (0x10ac7, 0x10aca), (0x10ace, 0x10ad2),
   (0x10add, 0x10add), (0x10ae1, 0x10ae1), (0x10ae4, 0x10ae4), (0x10b81, 0x10b81),
   (0x10b83, 0x10b85), (0x10b89, 0x10b89), (0x10b8c, 0x10b8c), (0x10b8e, 0x10b8f),
   (0x10b91, 0x10b91), (0x10d22, 0x10d22), (0x10f33, 0x10f33), (0x10f74, 0x10f75),
   (0x10fb4, 0x10fb6), (0x10fb9, 0x10fba), (0x10fbd, 0x10fbd), (0x10fc2, 0x10fc3)]

/-- The letters that join with the one behind them. -/
def leftJoinRuns : List (Nat × Nat) := [
   (0xa872, 0xa872), (0x10acd, 0x10acd), (0x10ad7, 0x10ad7), (0x10d00, 0x10d00)]

/-- The letters of Greek. -/
def greekRuns : List (Nat × Nat) := [
   (0x371, 0x3e1), (0x3f3, 0x3fc), (0x1d26, 0x1d2a), (0x1f00, 0x1ff6), (0xab65, 0xab65)]

/-- The letters of Hebrew. -/
def hebrewRuns : List (Nat × Nat) := [
   (0x591, 0x5f4), (0xfb1e, 0xfb1e)]

/-- The letters that Japanese is written in. -/
def japaneseRuns : List (Nat × Nat) := [
   (0x3005, 0x3005), (0x3007, 0x3007), (0x3041, 0x3096), (0x309d, 0x30fa), (0x30fd, 0x30fe),
   (0x31f0, 0x9fff), (0xfa0e, 0xfa29), (0x16fe3, 0x16fe3), (0x16ff0, 0x16ff1), (0x1aff0, 0x1b167),
   (0x20000, 0x3134a)]

/-- Whether joining goes on through a character. -/
def isTransparent (n : Nat) : Bool := (isNonspacing n && n != 0x1171e) || n == 0x1e94b

/-- Whether a place is next to a letter that joins, as seen in one direction. -/
def joins (runs : List (Nat × Nat)) (text : List Nat) : Bool :=
  ((text.dropWhile isTransparent).head?.map fun n =>
    isInRuns dualRuns n || isInRuns runs n).getD false

/-- Whether the last character of what is given backwards silences a vowel. -/
def behindVirama (before : List Nat) : Bool :=
  (before.head?.map fun n => combiningClass n == viramaClass).getD false

/-- Whether a character may stand where it does, between what comes before it, given backwards, and
what comes behind it. -/
def fitsBetween (before : List Nat) (n : Nat) (behind : List Nat) : Bool :=
  if n = 0x200c then
    behindVirama before || (joins leftJoinRuns before && joins rightJoinRuns behind)
  else if n = 0x200d then behindVirama before
  else if n = 0xb7 then before.head? == some 0x6c && behind.head? == some 0x6c
  else if n = 0x375 then (behind.head?.map (isInRuns greekRuns)).getD false
  else if n = 0x5f3 ∨ n = 0x5f4 then (before.head?.map (isInRuns hebrewRuns)).getD false
  else if n = 0x30fb then (before ++ behind).any fun m => m != 0x30fb && isInRuns japaneseRuns m
  else if 0x660 ≤ n ∧ n ≤ 0x669 then
    !(before ++ behind).any fun m => 0x6f0 ≤ m && m ≤ 0x6f9
  else if 0x6f0 ≤ n ∧ n ≤ 0x6f9 then
    !(before ++ behind).any fun m => 0x660 ≤ m && m ≤ 0x669
  else true

/-- Whether all characters may stand where they do, behind what is given backwards. -/
def fitAll (before : List Nat) : List Nat → Bool
  | [] => true
  | n :: behind => fitsBetween before n behind && fitAll (n :: before) behind

end Promotion.DomainName
