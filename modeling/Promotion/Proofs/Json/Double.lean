import Promotion.Proofs.Json.Canonical
import Promotion.Proofs.Number.Shortest

/-! Every double is read back from its text. Whatever the place of the point in it, the text of a
decimal spells the decimal. -/
namespace Promotion.Json
open Number Text
variable {digits rest start whole fraction : List Char} {negative : Bool} {lead : Int} {v : ℚ}

/-! ### Digits -/

lemma isSome_digitValue? (c : Char) : (digitValue? c).isSome = c.isDigit := by
  cases h : c.isDigit with
  | true =>
    rw [digitValue?_of_isDigit h]
    rfl
  | false =>
    have hnot : ¬ ('0' ≤ c ∧ c ≤ '9') := by simpa [Char.isDigit, Char.le_def] using h
    rw [digitValue?, if_neg hnot]
    rfl

lemma spanDigits_append_of_isDigit (h : ∀ c ∈ digits, c.isDigit = true)
    (hrest : ∀ c ∈ rest.head?, c.isDigit = false) :
    spanDigits (digits ++ rest) = (digits, rest) := by
  have hall : ∀ c ∈ digits, (digitValue? c).isSome = true := fun c hc => by
    rw [isSome_digitValue?, h c hc]
  unfold spanDigits
  rw [List.takeWhile_append_of_pos hall, List.dropWhile_append_of_pos hall]
  cases rest with
  | nil => simp
  | cons c rest =>
    have hc : (digitValue? c).isSome = false := by rw [isSome_digitValue?, hrest c rfl]
    simp [hc]

/-- A text of digits that can stand in front of a point: it starts with no zero, unless that is the
only digit. -/
structure IsWhole (digits : List Char) : Prop where
  isDigit : ∀ c ∈ digits, c.isDigit = true
  ne_nil : digits ≠ []
  zero : digits.head? = some '0' → digits = ['0']

lemma IsWhole.spanWhole (h : IsWhole digits) (hrest : ∀ c ∈ rest.head?, c.isDigit = false) :
    spanWhole (digits ++ rest) = (digits, rest) := by
  obtain ⟨c, cs, rfl⟩ := List.exists_cons_of_ne_nil h.ne_nil
  by_cases hzero : c = '0'
  · subst hzero
    cases h.zero rfl
    rfl
  · have hspan := spanDigits_append_of_isDigit h.isDigit hrest
    simpa [Json.spanWhole, hzero] using hspan

/-! ### Decimals -/

/-- A text is read as a decimal of some value. -/
def ReadsAs (start : List Char) (negative : Bool) (text : List Char) (v : ℚ) : Prop :=
  ∃ (n : Nat) (k : Int), readUnsigned none start negative text =
    .ok (.float (Double.ofDecimal negative n k), []) ∧ (n : ℚ) * 10 ^ k = v

lemma ofParts_eq {power : Int} (h : ∀ c ∈ whole ++ fraction, c.isDigit = true) :
    ofParts negative whole fraction power =
      .ofDecimal negative (Nat.ofDigitChars 10 (whole ++ fraction) 0)
        (power - fraction.length) := by
  rw [ofParts, ofDigits?_of_isDigit h, Option.getD_some]

/-- Digits in front of a point and behind it. -/
lemma readsAs_point (hwhole : IsWhole whole) (hfraction : ∀ c ∈ fraction, c.isDigit = true)
    (hne : fraction ≠ []) : ReadsAs start negative (whole ++ '.' :: fraction)
      (Nat.ofDigitChars 10 (whole ++ fraction) 0 * 10 ^ (-(fraction.length : Int))) := by
  have hspan : spanWhole (whole ++ '.' :: fraction) = (whole, '.' :: fraction) :=
    hwhole.spanWhole (by simp)
  have hpart : spanFraction ('.' :: fraction) = (fraction, []) := by
    simp [spanFraction, spanDigits_of_isDigit hfraction, hne]
  have hdigits : ∀ c ∈ whole ++ fraction, c.isDigit = true := fun c hc =>
    (List.mem_append.mp hc).elim (hwhole.isDigit c) (hfraction c)
  refine ⟨_, _, ?_, rfl⟩
  unfold readUnsigned
  simp [hspan, hpart, hwhole.ne_nil, hne, spanPower, ofParts_eq hdigits]

/-- A sign and digits behind a letter. -/
lemma spanPower_sign {power : List Char} (hpower : ∀ c ∈ power, c.isDigit = true)
    (hne : power ≠ []) (hvalue : Nat.ofDigitChars 10 power 0 = lead.natAbs) :
    spanPower ('e' :: (if lead < 0 then '-' else '+') :: power) = some (lead, []) := by
  have hdigits := ofDigits?_of_isDigit hpower
  rw [hvalue] at hdigits
  have hspan := spanDigits_of_isDigit hpower
  by_cases hneg : lead < 0
  · have habs : -(lead.natAbs : Int) = lead := by omega
    simp only [spanPower, hneg, if_true, splitSign, hspan, hdigits, true_or, List.isEmpty_iff, hne,
      if_false, Option.map_some, withSign, habs]
  · have habs : (lead.natAbs : Int) = lead := by omega
    simp only [spanPower, hneg, if_false, splitSign, hspan, hdigits, true_or, if_true,
      List.isEmpty_iff, hne, Option.map_some, withSign, Bool.false_eq_true, habs]

/-- One digit, a fraction or none, and a power of ten. -/
lemma readsAs_power {first : Char} {power : List Char} (hfirst : first.isDigit = true)
    (hfraction : ∀ c ∈ fraction, c.isDigit = true) (hpower : ∀ c ∈ power, c.isDigit = true)
    (hne : power ≠ []) (hvalue : Nat.ofDigitChars 10 power 0 = lead.natAbs) :
    ReadsAs start negative ([first] ++ (if fraction.isEmpty then [] else '.' :: fraction) ++
      'e' :: (if lead < 0 then '-' else '+') :: power)
      (Nat.ofDigitChars 10 (first :: fraction) 0 * 10 ^ (lead - fraction.length)) := by
  have hwhole : IsWhole [first] :=
    ⟨by simpa using hfirst, by simp, fun h => by simpa using h⟩
  have hspan (rest : List Char) (hrest : ∀ c ∈ rest.head?, c.isDigit = false) :
      spanWhole ([first] ++ rest) = ([first], rest) := hwhole.spanWhole hrest
  have hend := spanPower_sign hpower hne hvalue
  have hletter : ∀ c ∈ ('e' :: (if lead < 0 then '-' else '+') :: power).head?,
      c.isDigit = false := by
    simp
  have hpoint : ∀ c ∈ ('e' :: (if lead < 0 then '-' else '+') :: power).head?, c ≠ '.' := by
    simp
  generalize 'e' :: (if lead < 0 then '-' else '+') :: power = tail at hend hletter hpoint ⊢
  have hdigits : ∀ c ∈ [first] ++ fraction, c.isDigit = true := fun c hc =>
    (List.mem_append.mp hc).elim (hwhole.isDigit c) (hfraction c)
  have hpart : spanFraction ((if fraction.isEmpty then [] else '.' :: fraction) ++ tail) =
      (fraction, tail) := by
    cases fraction with
    | nil =>
      rw [List.isEmpty_nil, if_pos rfl, List.nil_append]
      unfold spanFraction
      split
      · exact absurd rfl (hpoint '.' rfl)
      · rfl
    | cons c fraction =>
      have hspan := spanDigits_append_of_isDigit hfraction hletter
      simp only [List.isEmpty_cons, Bool.false_eq_true, if_false, List.cons_append] at hspan ⊢
      simp [spanFraction, hspan]
  refine ⟨_, _, ?_, rfl⟩
  rw [List.append_assoc]
  unfold readUnsigned
  rw [hspan]
  · simp only [hpart, hend, ofParts_eq hdigits]
    rfl
  · cases fraction with
    | nil => exact hletter
    | cons c fraction => simp

lemma ReadsAs.of_eq {text : List Char} {v w : ℚ} (h : ReadsAs start negative text v) (heq : v = w) :
    ReadsAs start negative text w := heq ▸ h

/-- Digits of which the first is no zero. -/
structure IsLeading (digits : List Char) : Prop where
  isDigit : ∀ c ∈ digits, c.isDigit = true
  head : ∃ first ∈ digits.head?, first ≠ '0'

/-- A point in front of the digits. -/
lemma readsAs_small (h : IsLeading digits) (hlead : lead < 0) :
    ReadsAs start negative ('0' :: '.' :: (List.replicate (-lead - 1).toNat '0' ++ digits))
      (Nat.ofDigitChars 10 digits 0 * 10 ^ (lead + 1 - digits.length)) := by
  obtain ⟨first, hfirst, -⟩ := h.head
  have hwhole : IsWhole ['0'] := ⟨by simp, by simp, fun _ => rfl⟩
  have hfraction : ∀ c ∈ List.replicate (-lead - 1).toNat '0' ++ digits, c.isDigit = true := by
    intro c hc
    obtain hc | hc := List.mem_append.mp hc
    · rw [List.eq_of_mem_replicate hc]
      rfl
    · exact h.isDigit c hc
  have hne : List.replicate (-lead - 1).toNat '0' ++ digits ≠ [] := by
    simp only [ne_eq, List.append_eq_nil_iff, not_and]
    rintro - rfl
    cases hfirst
  refine (readsAs_point hwhole hfraction hne).of_eq ?_
  have hvalue : Nat.ofDigitChars 10 (['0'] ++ (List.replicate (-lead - 1).toNat '0' ++ digits)) 0 =
      Nat.ofDigitChars 10 digits 0 := by
    have hzero : Nat.ofDigitChars 10 ['0'] 0 = 0 := rfl
    rw [Nat.ofDigitChars_append, Nat.ofDigitChars_append, Nat.ofDigitChars_replicate_zero, hzero,
      Nat.mul_zero]
  rw [hvalue, List.length_append, List.length_replicate]
  congr 2
  omega

/-- A point among the digits or behind them, with zeros in between. -/
lemma readsAs_large (h : IsLeading digits) (hlead : 0 ≤ lead) :
    ReadsAs start negative (digits.take (lead.toNat + 1) ++
      List.replicate (lead.toNat + 1 - (digits.take (lead.toNat + 1)).length) '0' ++
      '.' :: (if (digits.drop (lead.toNat + 1)).isEmpty then ['0']
        else digits.drop (lead.toNat + 1)))
      (Nat.ofDigitChars 10 digits 0 * 10 ^ (lead + 1 - digits.length)) := by
  obtain ⟨first, hfirst, hzero⟩ := h.head
  obtain ⟨more, rfl⟩ := List.head?_eq_some_iff.mp hfirst
  obtain ⟨n, rfl⟩ := Int.eq_ofNat_of_zero_le hlead
  rw [Int.toNat_natCast]
  have hwhole : IsWhole ((first :: more).take (n + 1) ++
      List.replicate (n + 1 - ((first :: more).take (n + 1)).length) '0') := by
    refine ⟨fun c hc => ?_, by simp, fun hhead => ?_⟩
    · obtain hc | hc := List.mem_append.mp hc
      · exact h.isDigit c (List.mem_of_mem_take hc)
      · rw [List.eq_of_mem_replicate hc]
        rfl
    · exact absurd (by simpa using hhead) hzero
  by_cases hrest : (first :: more).length ≤ n + 1
  · have htake := List.take_of_length_le hrest
    have hdrop := List.drop_eq_nil_iff.mpr hrest
    rw [htake] at hwhole ⊢
    rw [hdrop, List.isEmpty_nil, if_pos rfl]
    refine (readsAs_point hwhole (by simp) (by simp)).of_eq ?_
    have hzeros (m : Nat) : Nat.ofDigitChars 10 ['0'] m = 10 * m := rfl
    have hpower : (n : Int) + 1 - (first :: more).length =
        (n + 1 - (first :: more).length : Nat) := by
      omega
    rw [Nat.ofDigitChars_append, Nat.ofDigitChars_append, Nat.ofDigitChars_replicate_zero, hzeros,
      hpower, zpow_natCast, List.length_singleton, Nat.cast_one, zpow_neg_one]
    push_cast
    field_simp
  · have hlength : ((first :: more).take (n + 1)).length = n + 1 := by
      rw [List.length_take]
      omega
    rw [hlength, Nat.sub_self, List.replicate_zero, List.append_nil] at hwhole ⊢
    have hdrop : (first :: more).drop (n + 1) ≠ [] := by
      rw [ne_eq, List.drop_eq_nil_iff]
      exact hrest
    rw [if_neg (by simpa using hdrop)]
    refine (readsAs_point hwhole (fun c hc => h.isDigit c (List.mem_of_mem_drop hc)) hdrop).of_eq ?_
    rw [List.take_append_drop, List.length_drop]
    congr 2
    omega

/-- The text of a decimal spells it. -/
lemma readsAs_decimalText (h : IsLeading digits) (lead : Int) :
    ReadsAs start negative (Double.decimalText digits lead)
      (Nat.ofDigitChars 10 digits 0 * 10 ^ (lead + 1 - digits.length)) := by
  obtain ⟨first, hfirst, hzero⟩ := h.head
  unfold Double.decimalText
  split
  · split
    · next hneg => exact readsAs_small h hneg
    · next hneg => exact readsAs_large h (Int.not_lt.mp hneg)
  · obtain ⟨more, rfl⟩ := List.head?_eq_some_iff.mp hfirst
    have hmore : ∀ c ∈ more, c.isDigit = true := fun c hc =>
      h.isDigit c (List.mem_cons_of_mem _ hc)
    have hvalue : Nat.ofDigitChars 10 (decimal lead.natAbs) 0 = lead.natAbs :=
      Nat.ofDigitChars_ten_toDigits
    have hdigits : ∀ c ∈ decimal lead.natAbs, c.isDigit = true := fun _ =>
      isDigit_of_mem_decimal
    refine (readsAs_power (h.isDigit first List.mem_cons_self) hmore ?_ ?_ ?_).of_eq ?_
    rotate_right
    · rw [List.length_cons]
      congr 2
      push_cast
      ring
    · split
      · exact List.forall_mem_cons.mpr ⟨rfl, hdigits⟩
      · exact hdigits
    · split
      · simp
      · exact decimal_ne_nil _
    · split
      · rw [Nat.ofDigitChars_cons]
        exact hvalue
      · exact hvalue

/-! ### The text of a double -/

/-- The zeros at the end of the digits of a number. -/
lemma exists_trailing_zeros {n : Nat} (hn : 0 < n) : ∃ digits zeros,
    ((decimal n).reverse.dropWhile (· == '0')).reverse = digits ∧ IsLeading digits ∧
      (decimal n).length = digits.length + zeros ∧
      n = 10 ^ zeros * Nat.ofDigitChars 10 digits 0 := by
  have hsplit : decimal n = ((decimal n).reverse.dropWhile (· == '0')).reverse ++
      ((decimal n).reverse.takeWhile (· == '0')).reverse := by
    rw [← List.reverse_append, List.takeWhile_append_dropWhile, List.reverse_reverse]
  generalize hdigits : ((decimal n).reverse.dropWhile (· == '0')).reverse = digits at hsplit
  have hzeros : ∀ c ∈ ((decimal n).reverse.takeWhile (· == '0')).reverse, c = '0' := fun c hc => by
    simpa using List.mem_takeWhile_imp (List.mem_reverse.mp hc)
  rw [List.eq_replicate_of_mem hzeros] at hsplit
  generalize ((decimal n).reverse.takeWhile (· == '0')).reverse.length = zeros at hsplit
  have hhead := head?_decimal_ne_zero hn
  refine ⟨digits, zeros, rfl, ⟨fun c hc => ?_, ?_⟩, ?_, ?_⟩
  · exact isDigit_of_mem_decimal (n := n) (hsplit ▸ List.mem_append_left _ hc)
  · cases digits with
    | nil =>
      cases zeros with
      | zero => exact absurd hsplit (decimal_ne_nil n)
      | succ zeros => exact absurd (by rw [hsplit]; rfl) hhead
    | cons first digits =>
      refine ⟨first, rfl, ?_⟩
      rintro rfl
      exact hhead (by rw [hsplit]; rfl)
  · rw [hsplit, List.length_append, List.length_replicate]
  · have hvalue : Nat.ofDigitChars 10 (decimal n) 0 = n := Nat.ofDigitChars_ten_toDigits
    rw [hsplit, Nat.ofDigitChars_append, Nat.ofDigitChars_replicate_zero] at hvalue
    exact hvalue.symm

/-- A numeral is no word, with its sign in front or without one. -/
lemma readWord_signed {value : Json} (h : ∀ start, readUnsigned none start negative rest =
    .ok (value, [])) :
    readWord none ((if negative then ['-'] else []) ++ rest) = .ok (value, []) := by
  obtain ⟨c, cs, rfl, hc⟩ := startsWord_of_readUnsigned (h [])
  rw [isSome_digitValue?] at hc
  obtain ⟨hplain, hminus⟩ := readWord_of_isDigit none hc cs
  cases negative with
  | true => exact hminus.trans (h _)
  | false =>
    have hne : c ≠ '-' := by
      rintro rfl
      exact absurd hc (by decide)
    exact hplain.trans ((readNumber_of_ne_minus hne).trans (h _))

end Promotion.Json

namespace Promotion.Double
variable {x : Double}

/-- Every finite double but the zeros is read back. -/
lemma readsBack_of_pos (hx : x.isFinite) (hm : 0 < x.significand) : x.ReadsBack := by
  have hnan : x.isNaN = false := by
    have hne : x.exponent.val ≠ 2047 := by simpa [isFinite] using hx
    simp [isNaN, hne]
  have hholds := holds_shortest hm (scaled x)
  have hpos : 0 < (shortest x.significand x.scale).digits := by
    rw [pos_iff_ne_zero]
    intro hzero
    have hvalue := (RoundsTo.of_holds hm hholds).pos hm
    simp [hzero] at hvalue
  obtain ⟨digits, zeros, hdigits, hleading, hlength, hvalue⟩ := Json.exists_trailing_zeros hpos
  have htext : Json.floatText x = (if x.negative then ['-'] else []) ++ decimalText digits
      ((shortest x.significand x.scale).exponent + (digits.length + zeros : Nat) - 1) := by
    simp only [Json.floatText, text, hnan, hx, Bool.not_true, Bool.false_eq_true, if_false,
      hm.ne', hdigits, hlength]
  unfold ReadsBack
  rw [htext]
  refine Json.readWord_signed fun start => ?_
  have hspelled : Json.ReadsAs start x.negative (decimalText digits
      ((shortest x.significand x.scale).exponent + (digits.length + zeros : Nat) - 1)) _ :=
    Json.readsAs_decimalText hleading _
  obtain ⟨n, k, hread, hsame⟩ := hspelled
  have hexponent : (shortest x.significand x.scale).exponent + (digits.length + zeros : Nat) - 1 +
      1 - digits.length = (shortest x.significand x.scale).exponent + zeros := by
    push_cast
    ring
  rw [hread, ofDecimal_eq_of_holds hx hm]
  rw [hsame, hexponent, zpow_add₀ (by norm_num), zpow_natCast]
  rw [hvalue] at hholds
  push_cast at hholds
  convert hholds using 1
  ring

lemma eq_infinity (hx : x.isFinite = false) (hnan : x.isNaN = false) :
    x = infinity x.negative := by
  obtain ⟨negative, ⟨exponent, hexponent⟩, ⟨fraction, hfraction⟩⟩ := x
  obtain rfl : exponent = 2047 := by simpa [isFinite] using hx
  obtain rfl : fraction = 0 := by simpa [isNaN] using hnan
  rfl

lemma eq_zero (hx : x.significand = 0) : x = zero x.negative := by
  obtain ⟨negative, ⟨exponent, hexponent⟩, ⟨fraction, hfraction⟩⟩ := x
  have hpos : 0 < leadingBit := by decide
  unfold significand at hx
  split at hx
  · next hzero =>
    dsimp only at hzero hx
    subst hzero hx
    rfl
  · omega

/-- Every double is read back from its text, if there is only one that is not a number. -/
theorem readsBack (h : x.isNaN → x = nan) : x.ReadsBack := by
  have hinfinity : ∀ negative, (infinity negative).ReadsBack := by decide
  have hzero : ∀ negative, (zero negative).ReadsBack := by decide
  cases hnan : x.isNaN with
  | true =>
    rw [h hnan]
    decide
  | false =>
    cases hx : x.isFinite with
    | false => exact eq_infinity hx hnan ▸ hinfinity x.negative
    | true =>
      obtain hm | hm := Nat.eq_zero_or_pos x.significand
      · exact eq_zero hm ▸ hzero x.negative
      · exact readsBack_of_pos hx hm

end Promotion.Double
