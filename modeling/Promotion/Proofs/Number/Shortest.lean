import Promotion.Proofs.Number.Interval

/-! The shortest decimal of a double lies in its interval. With seventeen digits the decimals are
closer together than the numbers that round to a double, so one is always found. -/
namespace Promotion.Double
variable {num den m d : Nat} {q k : Int} {v : ℚ}

/-! ### The power of ten of the first digit -/

lemma ten_zpow_toNat (h : 0 ≤ k) : (10 : ℚ) ^ k = (10 ^ k.toNat : Nat) := by
  obtain ⟨n, rfl⟩ := Int.eq_ofNat_of_zero_le h
  simp

/-- A number lies between the powers of ten that its digits tell. -/
lemma toDigits_bounds {n : Nat} (hn : 0 < n) :
    10 ^ ((Nat.toDigits 10 n).length - 1) ≤ n ∧ n < 10 ^ (Nat.toDigits 10 n).length := by
  have hpos : 0 < (Nat.toDigits 10 n).length := Nat.length_toDigits_pos
  refine ⟨?_, (Nat.length_toDigits_le_iff (by decide) hpos).mp (Nat.le_refl _)⟩
  by_contra hless
  by_cases hone : (Nat.toDigits 10 n).length - 1 = 0
  · rw [hone] at hless
    omega
  · have hle := (Nat.length_toDigits_le_iff (by decide) (Nat.pos_of_ne_zero hone)).mpr
      (Nat.not_le.mp hless)
    omega

/-- The first digit of a ratio that is not too small stands at its leading exponent. -/
lemma leadingExponent_bounds (hden : 0 < den) (hsmall : ∃ j < 400, den ≤ num * 10 ^ j) :
    (10 : ℚ) ^ leadingExponent num den ≤ num / den ∧
      (num / den : ℚ) < 10 ^ (leadingExponent num den + 1) := by
  have hden' : (0 : ℚ) < den := by exact_mod_cast hden
  unfold leadingExponent
  split
  · next hle =>
    obtain ⟨hlow, hhigh⟩ := toDigits_bounds (Nat.div_pos hle hden)
    have hpos : 0 < (Nat.toDigits 10 (num / den)).length := Nat.length_toDigits_pos
    obtain ⟨n, hn⟩ := Nat.exists_eq_add_one_of_ne_zero hpos.ne'
    rw [hn] at hlow hhigh ⊢
    have hsame : ((n + 1 : Nat) : Int) - 1 = n := by push_cast; ring
    rw [hsame, le_div_iff₀ hden', div_lt_iff₀ hden', ← Nat.cast_succ, zpow_natCast, zpow_natCast]
    constructor
    · exact_mod_cast (Nat.le_div_iff_mul_le hden).mp hlow
    · exact_mod_cast (Nat.div_lt_iff_lt_mul hden).mp hhigh
  · next hless =>
    obtain ⟨j, hj⟩ : ∃ j, ((List.range 400).find? fun j => den ≤ num * Nat.pow 10 j) = some j := by
      obtain ⟨j, hj, hfits⟩ := hsmall
      rw [← Option.isSome_iff_exists, List.find?_isSome]
      exact ⟨j, List.mem_range.mpr hj, by simpa using hfits⟩
    rw [hj]
    obtain ⟨hfits, -, hbefore⟩ := List.find?_range_eq_some.mp hj
    have hfits : den ≤ num * 10 ^ j := by simpa using hfits
    obtain ⟨i, rfl⟩ : ∃ i, j = i + 1 := by
      refine Nat.exists_eq_succ_of_ne_zero ?_
      rintro rfl
      omega
    have hbefore : num * 10 ^ i < den := by simpa using hbefore i (Nat.lt_succ_self i)
    simp only [Option.getD_some]
    have hnext : -((i + 1 : Nat) : Int) + 1 = -(i : Int) := by push_cast; ring
    rw [hnext, zpow_neg, zpow_neg, zpow_natCast, zpow_natCast, le_div_iff₀ hden',
      div_lt_iff₀ hden', inv_mul_le_iff₀ (by positivity), lt_inv_mul_iff₀ (by positivity)]
    constructor
    · rw [mul_comm]
      exact_mod_cast hfits
    · rw [mul_comm]
      exact_mod_cast hbefore

/-! ### Decimals in an interval -/

namespace Interval
variable {i : Interval}

/-- Whether a multiple of a power of ten lies in an interval, in whole numbers. -/
def inside (i : Interval) (k : Int) (d : Nat) : Bool :=
  let ten := if 0 ≤ k then Nat.pow 10 k.toNat else 1
  let inv := if 0 ≤ k then 1 else Nat.pow 10 (-k).toNat
  if i.closed then i.low * inv ≤ d * (ten * i.den) && d * (ten * i.den) ≤ i.high * inv
  else i.low * inv < d * (ten * i.den) && d * (ten * i.den) < i.high * inv

/-- The multiple of a power of ten that lies next below the middle of an interval. -/
def below (i : Interval) (k : Int) : Nat :=
  let ten := if 0 ≤ k then Nat.pow 10 k.toNat else 1
  let inv := if 0 ≤ k then 1 else Nat.pow 10 (-k).toNat
  i.mid * inv / (ten * i.den)

/-- The nearer one counts, unless it does not lie in the interval. -/
lemma exists_nearest?_eq (i : Interval) (k : Int) : ∃ nearer : Bool,
    (i.inside k (i.below k + 1) = false → nearer = true) ∧
      i.nearest? k = if i.inside k (i.below k) && nearer then some (i.below k)
        else if i.inside k (i.below k + 1) then some (i.below k + 1) else none := by
  refine ⟨_, fun h => ?_, rfl⟩
  have hnot : (!i.inside k (i.below k + 1)) = true := by
    rw [h]
    rfl
  exact Bool.or_eq_true_iff.mpr (.inl (Bool.or_eq_true_iff.mpr (.inl hnot)))

/-- What is found lies in the interval. -/
lemma inside_of_nearest? {d : Nat} (h : i.nearest? k = some d) : i.inside k d = true := by
  obtain ⟨nearer, -, heq⟩ := i.exists_nearest?_eq k
  rw [heq] at h
  split_ifs at h with hbelow habove
  · exact Option.some.inj h ▸ (Bool.and_eq_true_iff.mp hbelow).1
  · exact Option.some.inj h ▸ habove

/-- Something is found if one of the two next to the middle lies in the interval. -/
lemma exists_nearest? (h : i.inside k (i.below k) = true ∨ i.inside k (i.below k + 1) = true) :
    ∃ d, i.nearest? k = some d := by
  obtain ⟨nearer, hnearer, heq⟩ := i.exists_nearest?_eq k
  rw [heq]
  cases habove : i.inside k (i.below k + 1) with
  | true =>
    split
    · exact ⟨_, rfl⟩
    · exact ⟨_, rfl⟩
  | false =>
    have hbelow : i.inside k (i.below k) = true := h.resolve_right (by simp [habove])
    rw [hbelow, hnearer habove]
    exact ⟨_, rfl⟩

/-- The powers of ten that the tests in whole numbers are made with. -/
lemma exists_ten_ratio (i : Interval) (k : Int) : ∃ ten inv : Nat, 0 < ten ∧ 0 < inv ∧
    (ten : ℚ) / inv = 10 ^ k ∧ i.below k = i.mid * inv / (ten * i.den) ∧
      ∀ d, i.inside k d =
        if i.closed then i.low * inv ≤ d * (ten * i.den) && d * (ten * i.den) ≤ i.high * inv
        else i.low * inv < d * (ten * i.den) && d * (ten * i.den) < i.high * inv := by
  refine ⟨if 0 ≤ k then Nat.pow 10 k.toNat else 1, if 0 ≤ k then 1 else Nat.pow 10 (-k).toNat,
    ?_, ?_, ?_, rfl, fun _ => rfl⟩
  · split
    · exact Nat.pow_pos (by decide)
    · exact Nat.one_pos
  · split
    · exact Nat.one_pos
    · exact Nat.pow_pos (by decide)
  · split
    · next h =>
      rw [ten_zpow_toNat h, Nat.cast_one, div_one]
      rfl
    · next h =>
      obtain ⟨n, rfl⟩ : ∃ n : Nat, k = -(n : Int) := ⟨(-k).toNat, by omega⟩
      rw [zpow_neg, ten_zpow_toNat (by omega), Nat.cast_one, one_div, neg_neg]
      rfl

lemma ratio_le_iff {a b c e : Nat} (hb : 0 < b) (he : 0 < e) :
    (a : ℚ) / b ≤ c / e ↔ a * e ≤ c * b := by
  rw [div_le_div_iff₀ (by exact_mod_cast hb) (by exact_mod_cast he)]
  exact_mod_cast Iff.rfl

lemma ratio_lt_iff {a b c e : Nat} (hb : 0 < b) (he : 0 < e) :
    (a : ℚ) / b < c / e ↔ a * e < c * b := by
  rw [div_lt_div_iff₀ (by exact_mod_cast hb) (by exact_mod_cast he)]
  exact_mod_cast Iff.rfl

/-- The test in whole numbers is right. -/
lemma inside_iff (hden : 0 < i.den) : i.inside k d = true ↔ i.Holds (d * 10 ^ k) := by
  obtain ⟨ten, inv, -, hinv, hten, -, hinside⟩ := i.exists_ten_ratio k
  have hvalue : (d : ℚ) * 10 ^ k = (d * ten : Nat) / inv := by
    rw [← hten, Nat.cast_mul, mul_div_assoc]
  unfold Holds
  rw [hinside, hvalue, ratio_le_iff hden hinv, ratio_le_iff hinv hden, ratio_lt_iff hden hinv,
    ratio_lt_iff hinv hden, Nat.mul_assoc]
  split <;> simp only [Bool.and_eq_true, decide_eq_true_eq]

/-- The middle of an interval lies between the two multiples next to it. -/
lemma below_bounds (hden : 0 < i.den) (k : Int) :
    (i.below k : ℚ) * 10 ^ k ≤ i.mid / i.den ∧
      (i.mid : ℚ) / i.den < (i.below k + 1 : Nat) * 10 ^ k := by
  obtain ⟨ten, inv, hpos, hinv, hten, hbelow, -⟩ := i.exists_ten_ratio k
  have hvalue (d : Nat) : (d : ℚ) * 10 ^ k = (d * ten : Nat) / inv := by
    rw [← hten, Nat.cast_mul, mul_div_assoc]
  have hunit : 0 < ten * i.den := Nat.mul_pos hpos hden
  rw [hvalue, hvalue, ratio_le_iff hinv hden, ratio_lt_iff hden hinv, hbelow, Nat.mul_assoc,
    Nat.mul_assoc]
  exact ⟨Nat.div_mul_le_self _ _, Nat.mul_comm (ten * i.den) _ ▸ Nat.lt_mul_div_succ _ hunit⟩

end Interval

/-! ### Seventeen digits -/

lemma holds_of_close (hm : 0 < m) (h : |v - m * 2 ^ q| < reach m q / 4 * 2 ^ q) :
    (interval m q).Holds v := by
  have hstep : (0 : ℚ) < 2 ^ q := by positivity
  have hreach : (reach m q : ℚ) / 4 * 2 ^ q ≤ 1 / 2 * 2 ^ q := by
    have : (reach m q : ℚ) ≤ 2 := by exact_mod_cast reach_le m q
    exact mul_le_mul_of_nonneg_right (by linarith) hstep.le
  rw [abs_lt] at h
  refine holds_of_lt hm ?_ ?_
  · rw [sub_mul]
    linarith
  · rw [add_mul]
    linarith

/-- With sixteen digits behind the first one, half a step of the decimals does not reach out of the
interval. -/
lemma half_step_lt {lead : Int} (hs : Scaled m q) (hlead : (10 : ℚ) ^ lead ≤ m * 2 ^ q) :
    (10 : ℚ) ^ (lead - 16) / 2 < reach m q / 4 * 2 ^ q := by
  have hstep : (0 : ℚ) < 2 ^ q := by positivity
  have hten : (10 : ℚ) ^ (lead - 16) = 10 ^ lead / 10 ^ 16 := by
    rw [zpow_sub₀ (by norm_num)]
    norm_num
  have hcount : (m : ℚ) / 10 ^ 16 / 2 < reach m q / 4 := by
    unfold reach
    split
    · next h =>
      rw [h.1]
      norm_num [leadingBit]
    · have : (m : ℚ) < 2 ^ 53 := by exact_mod_cast hs.most
      rw [div_div, div_lt_iff₀ (by norm_num)]
      refine this.trans ?_
      norm_num
  calc (10 : ℚ) ^ (lead - 16) / 2 = 10 ^ lead / 10 ^ 16 / 2 := by rw [hten]
    _ ≤ m * 2 ^ q / 10 ^ 16 / 2 := by gcongr
    _ = m / 10 ^ 16 / 2 * 2 ^ q := by ring
    _ < reach m q / 4 * 2 ^ q := by gcongr

/-- Twenty-eight decimal digits hold ninety-three bits. -/
lemma two_pow_le_ten_pow (n : Nat) : 2 ^ (93 * n) ≤ 10 ^ (28 * n) := by
  rw [Nat.pow_mul, Nat.pow_mul]
  exact Nat.pow_le_pow_left (by decide) n

/-- The first digit of a double stands at its leading exponent. -/
lemma leadingExponent_interval (hm : 0 < m) (hs : Scaled m q) :
    (10 : ℚ) ^ leadingExponent (interval m q).mid (interval m q).den ≤ m * 2 ^ q ∧
      m * 2 ^ q < (10 : ℚ) ^ (leadingExponent (interval m q).mid (interval m q).den + 1) := by
  have hden := den_interval_pos m q
  have hden' : (0 : ℚ) < (interval m q).den := by exact_mod_cast hden
  -- The powers stay unevaluated behind a name.
  obtain ⟨n, hn⟩ : ∃ n, n = 12 := ⟨_, rfl⟩
  have hfinest := hs.finest
  have hsmallest : (1 : ℚ) / 10 ^ (28 * n) ≤ (interval m q).mid / (interval m q).den := by
    rw [mid_interval]
    calc (1 : ℚ) / 10 ^ (28 * n) ≤ 1 / 2 ^ (93 * n) := by
          gcongr 1 / ?_
          exact_mod_cast two_pow_le_ten_pow n
      _ = 1 * 2 ^ (-(93 * n : Nat) : Int) := by rw [zpow_neg, one_mul, one_div, zpow_natCast]
      _ ≤ m * 2 ^ q := by
          gcongr
          · exact_mod_cast hm
          · exact one_le_two
          · omega
  rw [div_le_div_iff₀ (by positivity) hden', one_mul] at hsmallest
  have hbounds := leadingExponent_bounds hden ⟨28 * n, by omega, by exact_mod_cast hsmallest⟩
  rwa [mid_interval] at hbounds

/-- Seventeen digits are enough. -/
lemma exists_nearest?_interval (hm : 0 < m) (hs : Scaled m q) : ∃ d, (interval m q).nearest?
    (leadingExponent (interval m q).mid (interval m q).den - 16) = some d := by
  have hden := den_interval_pos m q
  have hlead := leadingExponent_interval hm hs
  have hhalf := half_step_lt hs hlead.1
  generalize leadingExponent (interval m q).mid (interval m q).den - 16 = k at hhalf ⊢
  obtain ⟨hbelow, habove⟩ := Interval.below_bounds hden k
  rw [mid_interval] at hbelow habove
  refine Interval.exists_nearest? ?_
  rw [Interval.inside_iff hden, Interval.inside_iff hden]
  push_cast at habove ⊢
  by_cases hnear : m * 2 ^ q - ((interval m q).below k : ℚ) * 10 ^ k ≤ 10 ^ k / 2
  · refine .inl (holds_of_close hm ?_)
    rw [abs_lt]
    constructor <;> linarith
  · refine .inr (holds_of_close hm ?_)
    rw [abs_lt]
    constructor <;> linarith

/-- The shortest decimal of a double lies in its interval. -/
theorem holds_shortest (hm : 0 < m) (hs : Scaled m q) :
    (interval m q).Holds ((shortest m q).digits * 10 ^ (shortest m q).exponent) := by
  obtain ⟨d, hd⟩ := exists_nearest?_interval hm hs
  unfold shortest
  dsimp only
  generalize leadingExponent (interval m q).mid (interval m q).den = lead at hd ⊢
  obtain ⟨decimal, hdecimal⟩ : ∃ decimal, ((List.range 17).findSome? fun n : Nat =>
      ((interval m q).nearest? (lead - n)).map fun d => Decimal.mk d (lead - n)) =
      some decimal := by
    rw [← Option.isSome_iff_exists, List.findSome?_isSome_iff]
    exact ⟨16, by decide, by simp [hd]⟩
  obtain ⟨n, -, hn⟩ := List.exists_of_findSome?_eq_some hdecimal
  obtain ⟨d, hd, rfl⟩ := Option.map_eq_some_iff.mp hn
  rw [hdecimal]
  exact (Interval.inside_iff (den_interval_pos m q)).mp (Interval.inside_of_nearest? hd)

/-! ### Reading a decimal back -/

lemma scale_le {x : Double} (hx : x.isFinite) : x.scale ≤ 971 := by
  have hexponent := x.exponent.isLt
  have hne : x.exponent.val ≠ 2047 := by simpa [isFinite] using hx
  unfold scale
  omega

/-- A double is not too small for powers of ten. -/
lemma RoundsTo.least_le (hm : 0 < m) (hs : Scaled m q) (h : RoundsTo m q v) :
    (10 : ℚ) ^ (-324 : Int) ≤ v := by
  have hm' : (1 : ℚ) ≤ m := by exact_mod_cast hm
  have hstep : (0 : ℚ) < 2 ^ q := by positivity
  have hnear := abs_le.mp h.near
  have hcount : 1 / 2 * 2 ^ q ≤ v := by
    rw [← le_div_iff₀ hstep]
    linarith
  -- The powers stay unevaluated behind a name.
  obtain ⟨n, hn⟩ : ∃ n, n = 11 := ⟨_, rfl⟩
  have hpow : (2 : ℚ) ^ (93 * n) ≤ 10 ^ (28 * n) := by exact_mod_cast two_pow_le_ten_pow n
  have hfinest := hs.finest
  calc (10 : ℚ) ^ (-324 : Int) = (10 ^ (28 * n) * 10 ^ 16)⁻¹ := by
        rw [← pow_add, ← zpow_natCast, ← zpow_neg]
        congr 1
        omega
    _ ≤ (2 ^ (93 * n) * 2 ^ 52)⁻¹ := by
        gcongr ?_⁻¹
        exact mul_le_mul hpow (by norm_num) (by positivity) (by positivity)
    _ = 1 / 2 * 2 ^ (-(93 * n + 51 : Nat) : Int) := by
        rw [zpow_neg, zpow_natCast, pow_add, pow_succ 2 51]
        field_simp
    _ ≤ 1 / 2 * 2 ^ q := by
        gcongr
        · exact one_le_two
        · omega
    _ ≤ v := hcount

/-- A finite double is not too large for powers of ten. -/
lemma RoundsTo.lt_most (hs : Scaled m q) (hq : q ≤ 971) (h : RoundsTo m q v) :
    v < (10 : ℚ) ^ (309 : Int) := by
  have hmost : (m : ℚ) + 1 ≤ 2 ^ 53 := by exact_mod_cast hs.most
  have hstep : (0 : ℚ) < 2 ^ q := by positivity
  have hnear := abs_le.mp h.near
  have hcount : v < 2 ^ 53 * 2 ^ q := by
    rw [← div_lt_iff₀ hstep]
    linarith
  obtain ⟨n, hn⟩ : ∃ n, n = 11 := ⟨_, rfl⟩
  have hpow : (2 : ℚ) ^ (93 * n) ≤ 10 ^ (28 * n) := by exact_mod_cast two_pow_le_ten_pow n
  calc v < 2 ^ 53 * 2 ^ q := hcount
    _ ≤ 2 ^ 53 * 2 ^ (971 : Int) := by
        gcongr
        exact one_le_two
    _ = 2 ^ (93 * n) * 2 := by
        rw [← zpow_natCast, ← zpow_natCast, ← zpow_add₀ two_ne_zero, ← zpow_add_one₀ two_ne_zero]
        congr 1
        omega
    _ ≤ 10 ^ (28 * n) * 10 := mul_le_mul hpow (by norm_num) (by norm_num) (by positivity)
    _ = 10 ^ (309 : Int) := by
        rw [← zpow_natCast, ← zpow_add_one₀ (by norm_num)]
        congr 1
        omega

/-- The digits in front of and behind the point tell the size of a decimal. -/
lemma decimal_bounds {n : Nat} (hn : 0 < n) (k : Int) :
    (10 : ℚ) ^ ((Nat.toDigits 10 n).length + k - 1) ≤ n * 10 ^ k ∧
      (n : ℚ) * 10 ^ k < 10 ^ ((Nat.toDigits 10 n).length + k) := by
  obtain ⟨hlow, hhigh⟩ := toDigits_bounds hn
  have hlength : 0 < (Nat.toDigits 10 n).length := Nat.length_toDigits_pos
  obtain ⟨l, hl⟩ := Nat.exists_eq_add_one_of_ne_zero hlength.ne'
  rw [hl] at hlow hhigh ⊢
  have hlow' : (10 : ℚ) ^ l ≤ n := by exact_mod_cast hlow
  have hhigh' : (n : ℚ) < 10 ^ (l + 1) := by exact_mod_cast hhigh
  have hten : (0 : ℚ) < 10 ^ k := by positivity
  constructor
  · calc (10 : ℚ) ^ (((l + 1 : Nat) : Int) + k - 1) = 10 ^ l * 10 ^ k := by
          rw [← zpow_natCast, ← zpow_add₀ (by norm_num)]
          congr 1
          push_cast
          ring
      _ ≤ n * 10 ^ k := by gcongr
  · calc (n : ℚ) * 10 ^ k < 10 ^ (l + 1) * 10 ^ k := by gcongr
      _ = 10 ^ (((l + 1 : Nat) : Int) + k) := by rw [← zpow_natCast, ← zpow_add₀ (by norm_num)]

/-- Every decimal in the interval of a double is read as the double. -/
theorem ofDecimal_eq_of_holds {x : Double} {n : Nat} (hx : x.isFinite) (hm : 0 < x.significand)
    (h : (interval x.significand x.scale).Holds (n * 10 ^ k)) :
    ofDecimal x.negative n k = x := by
  have hrounds := RoundsTo.of_holds hm h
  have hn : 0 < n := by
    rw [pos_iff_ne_zero]
    rintro rfl
    have hpos := hrounds.pos hm
    simp at hpos
  have hleast := hrounds.least_le hm (scaled x)
  have hmost := hrounds.lt_most (scaled x) (scale_le hx)
  obtain ⟨hlow, hhigh⟩ := decimal_bounds hn k
  have hten : (1 : ℚ) < 10 := by norm_num
  have hsize := (zpow_lt_zpow_iff_right₀ hten).mp (hlow.trans_lt hmost)
  have hsize' := (zpow_lt_zpow_iff_right₀ hten).mp (hleast.trans_lt hhigh)
  unfold ofDecimal
  dsimp only
  rw [if_neg hn.ne', if_neg (by omega), if_neg (by omega)]
  split
  · next hk =>
    refine ofRatio_eq_of_holds hx hm Nat.one_pos ?_
    rwa [ten_zpow_toNat hk, ← Nat.cast_mul, ← div_one ((n * _ : Nat) : ℚ), ← Nat.cast_one] at h
  · next hk =>
    refine ofRatio_eq_of_holds hx hm (Nat.pow_pos (by decide)) ?_
    have hinv : (n : ℚ) * 10 ^ k = n / (10 ^ (-k).toNat : Nat) := by
      rw [← ten_zpow_toNat (by omega : 0 ≤ -k), zpow_neg, div_inv_eq_mul]
    rwa [hinv] at h

end Promotion.Double
