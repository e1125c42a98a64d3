import Mathlib.Algebra.Group.Nat.Defs
import Mathlib.Tactic.Common
import Promotion.Text.Digit

/-! Hexadecimal digits are read back, and every one of them is an ASCII character. -/
namespace Promotion.Text

lemma hexValue?_hexDigit (lower : Bool) {n : Nat} (h : n < 16) :
    hexValue? (hexDigit lower n) = some n := by
  have hall : ∀ lower : Bool, ∀ m : Fin 16, hexValue? (hexDigit lower m) = some m.val := by decide
  exact hall lower ⟨n, h⟩

lemma ofHexDigits?_hexDigits (lower : Bool) (width n : Nat) :
    ofHexDigits? (hexDigits lower width n) = some (n % 16 ^ width) := by
  induction width generalizing n with
  | zero => simp [ofHexDigits?, hexDigits, Nat.mod_one]
  | succ width ih =>
    have hfront := ih (n / 16)
    unfold ofHexDigits? at hfront ⊢
    have hdigit := hexValue?_hexDigit lower (Nat.mod_lt n (by decide : 16 > 0))
    simp only [hexDigits, List.foldlM_append, hfront, List.foldlM_cons, hdigit, List.foldlM_nil,
      Option.bind_eq_bind, Option.bind_some, Option.map_some, Option.pure_def]
    congr 1
    have hsplit := Nat.mod_mul (x := n) (a := 16) (b := 16 ^ width)
    rw [Nat.pow_succ', hsplit]
    omega

def isHex (c : Char) : Bool := (hexValue? c).isSome

lemma isHex_hexDigit (lower : Bool) {n : Nat} (h : n < 16) : isHex (hexDigit lower n) := by
  unfold isHex
  rw [hexValue?_hexDigit lower h]
  rfl

lemma toNat_lt_of_isHex {c : Char} (h : isHex c) : c.toNat < 0x80 := by
  have hle {d : Char} (hd : c ≤ d) (hascii : d.toNat < 0x80) : c.toNat < 0x80 :=
    Nat.lt_of_le_of_lt (UInt32.le_iff_toNat_le.mp hd) hascii
  unfold isHex hexValue? at h
  split_ifs at h with hdigit hsmall hcapital
  · exact hle hdigit.2 (by decide)
  · exact hle hsmall.2 (by decide)
  · exact hle hcapital.2 (by decide)
  · cases h

/-- What holds of every hexadecimal digit among the ASCII characters holds of all. -/
lemma of_isHex {p : Char → Prop} {c : Char} (h : isHex c)
    (hall : ∀ n : Fin 0x80, isHex (Char.ofNat n) → p (Char.ofNat n)) : p c := by
  have hc := hall ⟨c.toNat, toNat_lt_of_isHex h⟩
  rw [Char.ofNat_toNat] at hc
  exact hc h

end Promotion.Text
