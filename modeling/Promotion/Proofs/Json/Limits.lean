import Mathlib.Data.List.Infix
import Mathlib.Data.List.TakeWhile
import Promotion.Json.Reader

/-! Where the limits of a reader are met. Reading a part of a text leaves an end of it, so that a
number that is too long stands in the text in one piece, and there are as many opening brackets as a
value is deep. -/
namespace Promotion.Json

/-- More digits in a row than a limit for whole numbers lets pass. -/
def HasLongRun (limit : Option Nat) (cs : List Char) : Prop :=
  ∃ digits, digits <:+: cs ∧ (∀ c ∈ digits, (Text.digitValue? c).isSome) ∧
    exceeds limit digits.length = true

def isOpening (c : Char) : Bool := c = '[' ∨ c = '\x7b'

/-- How many arrays and objects a text may open. -/
def openings (cs : List Char) : Nat := cs.countP isOpening

/-- A reading that leaves an end of the text, or fails; it fails for too many digits only if they
are there, and for its depth only if there are brackets enough. -/
inductive StaysIn {α : Type} (limit : Option Nat) (depth : Nat) (cs : List Char) : Reading α → Prop
  | left {rest : List Char} (a : α) (h : rest <:+ cs) : StaysIn limit depth cs (.ok (a, rest))
  | malformed (reason : Reason) (left : Nat) :
    StaysIn limit depth cs (.error (.malformed reason left))
  | tooLong (count : Nat) (h : HasLongRun limit cs) :
    StaysIn limit depth cs (.error (.tooManyDigits count))
  | tooDeep (h : depth < openings cs) : StaysIn limit depth cs (.error .tooDeep)

variable {α β : Type} {limit : Option Nat} {depth : Nat} {cs ds rest : List Char}

lemma HasLongRun.mono (h : HasLongRun limit cs) (hcs : cs <:+ ds) : HasLongRun limit ds := by
  obtain ⟨digits, hdigits, hall, hlong⟩ := h
  exact ⟨digits, hdigits.trans hcs.isInfix, hall, hlong⟩

lemma openings_mono (hcs : cs <:+ ds) : openings cs ≤ openings ds := hcs.sublist.countP_le

namespace StaysIn

lemma mono {r : Reading α} (h : StaysIn limit depth cs r) (hcs : cs <:+ ds) :
    StaysIn limit depth ds r := by
  cases h with
  | left a h => exact .left a (h.trans hcs)
  | malformed reason left => exact .malformed reason left
  | tooLong count h => exact .tooLong count (h.mono hcs)
  | tooDeep h => exact .tooDeep (h.trans_le (openings_mono hcs))

/-- A fault is passed on by whatever reads more. -/
lemma error {r : Reading α} {fault : ReadFault} (h : StaysIn limit depth cs r)
    (hr : r = .error fault) : StaysIn limit depth cs (.error fault : Reading β) := by
  subst hr
  cases h with
  | malformed reason left => exact .malformed reason left
  | tooLong count h => exact .tooLong count h
  | tooDeep h => exact .tooDeep h

end StaysIn

section Values
variable {fuel : Nat}

end Values

/-- Brackets alone are opened one by one, until there is one too many. -/
lemma readValue_brackets (limit : Option Nat) (depth more fuel : Nat) :
    readValue limit (2 * depth + fuel + 1) depth (List.replicate (depth + more + 1) '[') =
      .error .tooDeep := by
  induction depth with
  | zero => rfl
  | succ depth ih =>
    have hfuel : 2 * (depth + 1) + fuel + 1 = 2 * depth + fuel + 1 + 1 + 1 := by omega
    have hmore : depth + 1 + more = depth + more + 1 := by omega
    have hgap : skipGap (List.replicate (depth + more + 1) '[') =
        '[' :: List.replicate (depth + more) '[' := rfl
    have hitems : readItems limit (2 * depth + fuel + 2) depth
        ('[' :: List.replicate (depth + more) '[') = .error .tooDeep := by
      rw [readItems.eq_2, ← List.replicate_succ, ih]
    rw [hfuel, hmore, List.replicate_succ, readValue]
    simp [hgap, hitems]

/-- A text of brackets that is longer than the limit is too deep. -/
theorem readWithin_brackets {limits : Limits} {n : Nat} (h : limits.depth < n) :
    readWithin limits (String.ofList (List.replicate n '[')) = .error .tooDeep := by
  obtain ⟨more, rfl⟩ := Nat.exists_eq_add_of_lt h
  have hfuel : 2 * (List.replicate (limits.depth + more + 1) '[').length + 2 =
      2 * limits.depth + (2 * more + 3) + 1 := by
    rw [List.length_replicate]
    omega
  have hread := readValue_brackets limits.digits limits.depth more (2 * more + 3)
  have hmark : ('['.toNat = 0xfeff) = False := by simp
  rw [readWithin, String.toList_ofList, List.replicate_succ, readChars]
  simp only [hmark, if_false, ← List.replicate_succ, hfuel]
  rw [List.replicate_succ, skipGap, List.dropWhile_cons_of_neg (by decide), ← List.replicate_succ,
    hread]

end Promotion.Json
