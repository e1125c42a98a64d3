/-! Punycode: a text of any characters in ASCII letters, digits and hyphens. The ASCII characters
come first, and the others follow as the distances between their places, in a number system whose
digits adapt to what was written before. -/
namespace Promotion.DomainName.Punycode

/-- The digit of a value below 36: letters, then figures. -/
def digit (n : Nat) : Char := Char.ofNat (if n < 26 then 0x61 + n else 0x30 + (n - 26))

/-- The value of a digit, in small letters. -/
def digitValue? (c : Char) : Option Nat :=
  if 'a' ≤ c ∧ c ≤ 'z' then some (c.toNat - 0x61)
  else if '0' ≤ c ∧ c ≤ '9' then some (c.toNat - 0x30 + 26)
  else none

/-- The least value that a digit at a place has if it is not the last one. -/
def threshold (bias place : Nat) : Nat := min 26 (max 1 (36 * (place + 1) - bias))

theorem threshold_pos (bias place : Nat) : 1 ≤ threshold bias place := by
  unfold threshold; omega

/-- Divides by 35 until a number is small; gives 36 for each division, too. -/
def shrink (n : Nat) : Nat × Nat :=
  if 455 < n then
    let (m, steps) := shrink (n / 35)
    (m, steps + 36)
  else (n, 0)
termination_by n
decreasing_by exact Nat.div_lt_self (by omega) (by omega)

/-- The bias after a distance was written, with so many characters in place. -/
def adapt (distance count : Nat) (isFirst : Bool) : Nat :=
  let n := if isFirst then distance / 700 else distance / 2
  let (m, steps) := shrink (n + n / count)
  steps + 36 * m / (m + 38)

/-- A number in digits that adapt to a bias, from a place on. -/
def number (bias : Nat) : (place : Nat) → Nat → List Char
  | place, n =>
    let t := threshold bias place
    if n < t then [digit n]
    else digit (t + (n - t) % (36 - t)) :: number bias (place + 1) ((n - t) / (36 - t))
termination_by _ n => n
decreasing_by
  have h := threshold_pos bias place
  exact Nat.lt_of_le_of_lt (Nat.div_le_self _ _) (by omega)

/-- How far writing has come: how many characters are in place, and the distance to the next. -/
structure Progress where
  text : List Char
  distance : Nat
  bias : Nat
  count : Nat
  isFirst : Bool

/-- Goes past one character of the text while all characters below `n` are in place. -/
def pass (n : Nat) (p : Progress) (c : Nat) : Progress :=
  if c < n then { p with distance := p.distance + 1 }
  else if c = n then {
    text := p.text ++ number p.bias 0 p.distance
    distance := 0
    bias := adapt p.distance (p.count + 1) p.isFirst
    count := p.count + 1
    isFirst := false }
  else p

/-- Writes all characters of these code points, in their order, behind one that was written. -/
def writeFrom (text : List Nat) : (next : Nat) → Progress → List Nat → Progress
  | _, p, [] => p
  | next, p, n :: rest =>
    let p := text.foldl (pass n) { p with distance := p.distance + (n - next) * (p.count + 1) }
    writeFrom text (n + 1) { p with distance := p.distance + 1 } rest

def encode (text : List Nat) : List Char :=
  let ascii := text.filter (· < 0x80)
  let others := ((text.filter (0x80 ≤ ·)).mergeSort (· ≤ ·)).eraseDups
  let start := ascii.map Char.ofNat ++ if ascii.isEmpty then [] else ['-']
  (writeFrom text 0x80 ⟨start, 0, 72, ascii.length, true⟩ others).text

/-- Reads a number at the front of digits, from a place on where digits weigh `weight`. -/
def readNumber (bias : Nat) : (place weight total : Nat) → List Char → Option (Nat × List Char)
  | _, _, _, [] => none
  | place, weight, total, c :: cs => do
    let n ← digitValue? c
    let total := total + n * weight
    let t := threshold bias place
    if n < t then pure (total, cs) else readNumber bias (place + 1) (weight * (36 - t)) total cs

/-- Puts characters into their places, one for each number; no more than `tries` of them. -/
def insertAll (text : List Nat) (n : Nat) (position bias : Nat) (isFirst : Bool) :
    (tries : Nat) → List Char → Option (List Nat)
  | _, [] => some text
  | 0, _ => none
  | tries + 1, cs => do
    let (distance, rest) ← readNumber bias 0 1 0 cs
    let position := position + distance
    let size := text.length + 1
    let n := n + position / size
    if 0x10ffff < n then none
    else
      let text := text.take (position % size) ++ n :: text.drop (position % size)
      insertAll text n (position % size + 1) (adapt distance size isFirst) false tries rest

/-- The text that small letters, digits and hyphens stand for. -/
def decode? (cs : List Char) : Option (List Nat) :=
  let digits := (cs.reverse.takeWhile (· != '-')).reverse
  let ascii := if cs.contains '-' then cs.take (cs.length - digits.length - 1) else []
  insertAll (ascii.map Char.toNat) 0x80 0 72 true digits.length digits

end Promotion.DomainName.Punycode
