import Mathlib.Algebra.Order.Field.Power
import Mathlib.Algebra.Order.Floor.Semifield
import Mathlib.Data.Int.Log
import Mathlib.Data.Rat.Floor
import Mathlib.Tactic.FieldSimp
import Mathlib.Tactic.Linarith
import Mathlib.Tactic.Positivity
import Mathlib.Tactic.Ring
import Promotion.Number.Double

/-! Rounding to doubles. Between two powers of two the doubles are evenly spaced, and the one that
is nearest to a ratio is off by at most half of that spacing. -/
namespace Promotion.Double

variable {num den : Nat} {e : Int} {negative : Bool}

/-- The magnitude of a finite double. -/
def size (x : Double) : ℚ := x.ratio.1 / x.ratio.2

/-- The spacing of the doubles from `2 ^ e` up to the next power of two. -/
def spacing (e : Int) : ℚ := 2 ^ (e - 52)

lemma spacing_pos (e : Int) : 0 < spacing e := by
  unfold spacing
  positivity

lemma spacing_add (e : Int) (n : Nat) : spacing (e + n) = 2 ^ n * spacing e := by
  unfold spacing
  rw [← zpow_natCast, ← zpow_add₀ two_ne_zero]
  congr 1
  ring

/-- There are `2 ^ 52` doubles in a stretch. -/
lemma two_zpow_eq (e : Int) : (2 : ℚ) ^ e = 2 ^ 52 * spacing e := by
  unfold spacing
  rw [← zpow_natCast, ← zpow_add₀ two_ne_zero]
  congr 1
  push_cast
  ring

lemma two_zpow_succ_eq (e : Int) : (2 : ℚ) ^ (e + 1) = 2 ^ 53 * spacing e := by
  rw [zpow_add_one₀ two_ne_zero, two_zpow_eq]
  ring

lemma roundDiv_bounds (num : Nat) (hden : 0 < den) :
    2 * num ≤ 2 * (roundDiv num den * den) + den ∧
      2 * (roundDiv num den * den) ≤ 2 * num + den := by
  have hsplit := Nat.div_add_mod num den
  have hrest := Nat.mod_lt num hden
  have hnext : (num / den + 1) * den = den * (num / den) + den := by ring
  have hsame : num / den * den = den * (num / den) := Nat.mul_comm _ _
  unfold roundDiv
  simp only
  split_ifs with hbelow habove
  · omega
  · omega
  · rcases Nat.mod_two_eq_zero_or_one (num / den) with heven | hodd
    · rw [heven, Nat.add_zero]
      omega
    · rw [hodd]
      omega

lemma roundDiv_near (num : Nat) (hden : 0 < den) :
    |(roundDiv num den : ℚ) - num / den| ≤ 1 / 2 := by
  have hden' : (0 : ℚ) < den := by exact_mod_cast hden
  obtain ⟨hlow, hhigh⟩ := roundDiv_bounds num hden
  have hlow' : 2 * (num : ℚ) ≤ 2 * (roundDiv num den * den) + den := by exact_mod_cast hlow
  have hhigh' : 2 * ((roundDiv num den : ℚ) * den) ≤ 2 * num + den := by exact_mod_cast hhigh
  rw [abs_le]
  constructor
  · have hle : (num : ℚ) / den ≤ roundDiv num den + 1 / 2 := by
      rw [div_le_iff₀ hden']
      linarith
    linarith
  · have hle : (roundDiv num den : ℚ) - 1 / 2 ≤ num / den := by
      rw [le_div_iff₀ hden']
      linarith
    linarith

/-- Whole numbers are multiples of a spacing that is at most one. -/
lemma natCast_eq_mul_spacing {k : Nat} (h : e + k = 52) (n : Nat) :
    (n : ℚ) = (n * 2 ^ k : Nat) * spacing e := by
  have hone : (2 : ℚ) ^ k * spacing e = 1 := by
    have hzero : (k : Int) + (e - 52) = 0 := by omega
    rw [spacing, ← zpow_natCast, ← zpow_add₀ two_ne_zero, hzero, zpow_zero]
  push_cast
  rw [mul_assoc, hone, mul_one]

/-- Two multiples of a spacing that are closer than the spacing are one. -/
lemma eq_of_near_spacing {m n : Nat} (h : |(m : ℚ) * spacing e - n * spacing e| < spacing e) :
    m = n := by
  have hspacing := spacing_pos e
  rw [← sub_mul, abs_mul, abs_of_pos hspacing] at h
  have hone : |(m : ℚ) - n| < 1 := by
    refine lt_of_mul_lt_mul_right ?_ hspacing.le
    rwa [one_mul]
  have hone' : |(m : Int) - n| < 1 := by exact_mod_cast hone
  have := Int.abs_lt_one_iff.mp hone'
  omega

/-! ### The grid around a ratio -/

lemma two_zpow_toNat (h : 0 ≤ e) : (2 : ℚ) ^ e = (2 ^ e.toNat : Nat) := by
  obtain ⟨n, rfl⟩ := Int.eq_ofNat_of_zero_le h
  simp

/-- The test on whole numbers whether a ratio lies below a power of two. -/
lemma below_iff (hden : 0 < den) (e : Int) :
    (if 0 ≤ e then num < den * Nat.pow 2 e.toNat else num * Nat.pow 2 (-e).toNat < den) ↔
      (num / den : ℚ) < 2 ^ e := by
  have hden' : (0 : ℚ) < den := by exact_mod_cast hden
  rw [div_lt_iff₀ hden']
  split
  · next h =>
    rw [two_zpow_toNat h, mul_comm]
    exact_mod_cast Iff.rfl
  · next h =>
    have hinv : (2 : ℚ) ^ e * den = den / 2 ^ (-e) := by rw [zpow_neg]; field_simp
    have hpos : (0 : ℚ) < 2 ^ (-e) := by positivity
    rw [hinv, lt_div_iff₀ hpos, two_zpow_toNat (by omega : 0 ≤ -e)]
    exact_mod_cast Iff.rfl

lemma log2_bounds (h : 0 < num) : (2 : ℚ) ^ (num.log2 : Int) ≤ num ∧
    (num : ℚ) < 2 ^ ((num.log2 : Int) + 1) := by
  constructor
  · exact_mod_cast Nat.log2_self_le h.ne'
  · exact_mod_cast Nat.lt_log2_self

/-- A ratio from `2 ^ e` up to the next power of two is rounded on the grid of that stretch, if that
is not finer than the finest. -/
lemma gridScale_eq_max (hden : 0 < den) (hlow : (2 : ℚ) ^ e ≤ num / den)
    (hhigh : (num : ℚ) / den < 2 ^ (e + 1)) : gridScale num den = max (e - 52) (-1074) := by
  have hden' : (0 : ℚ) < den := by exact_mod_cast hden
  have hnum : 0 < num := by
    rw [pos_iff_ne_zero]
    rintro rfl
    have hpos : (0 : ℚ) < 2 ^ e := by positivity
    simp only [Nat.cast_zero, zero_div] at hlow
    linarith
  obtain ⟨hnumLow, hnumHigh⟩ := log2_bounds hnum
  obtain ⟨hdenLow, hdenHigh⟩ := log2_bounds hden
  -- The guess from the two logarithms is right or too large by one.
  have hguessHigh : (num : ℚ) / den < 2 ^ ((num.log2 : Int) - den.log2 + 1) := by
    rw [div_lt_iff₀ hden']
    calc (num : ℚ) < 2 ^ ((num.log2 : Int) + 1) := hnumHigh
      _ = 2 ^ ((num.log2 : Int) - den.log2 + 1) * 2 ^ (den.log2 : Int) := by
        rw [← zpow_add₀ two_ne_zero]
        congr 1
        ring
      _ ≤ 2 ^ ((num.log2 : Int) - den.log2 + 1) * den := by gcongr
  have hguessLow : (2 : ℚ) ^ ((num.log2 : Int) - den.log2 - 1) < num / den := by
    rw [lt_div_iff₀ hden']
    calc (2 : ℚ) ^ ((num.log2 : Int) - den.log2 - 1) * den
        < 2 ^ ((num.log2 : Int) - den.log2 - 1) * 2 ^ ((den.log2 : Int) + 1) := by gcongr
      _ = 2 ^ (num.log2 : Int) := by
        rw [← zpow_add₀ two_ne_zero]
        congr 1
        ring
      _ ≤ num := hnumLow
  have hupper := (zpow_lt_zpow_iff_right₀ one_lt_two).mp (hlow.trans_lt hguessHigh)
  have hlower := (zpow_lt_zpow_iff_right₀ one_lt_two).mp (hguessLow.trans hhigh)
  unfold gridScale
  simp only [below_iff hden]
  split
  · next hbelow =>
    have := (zpow_lt_zpow_iff_right₀ one_lt_two).mp (hlow.trans_lt hbelow)
    congr 1
    omega
  · next hnot =>
    have := (zpow_lt_zpow_iff_right₀ one_lt_two).mp ((not_lt.mp hnot).trans_lt hhigh)
    congr 1
    omega

lemma gridScale_eq (hden : 0 < den) (hlow : (2 : ℚ) ^ e ≤ num / den)
    (hhigh : (num : ℚ) / den < 2 ^ (e + 1)) (he : -1022 ≤ e) : gridScale num den = e - 52 := by
  rw [gridScale_eq_max hden hlow hhigh]
  omega

/-! ### The double nearest a ratio -/

lemma size_eq (x : Double) : x.size = x.significand * 2 ^ x.scale := by
  unfold size ratio
  split
  · next h =>
    obtain ⟨n, hn⟩ := Int.eq_ofNat_of_zero_le h
    rw [hn]
    simp
  · next h =>
    obtain ⟨n, hn⟩ := Int.eq_ofNat_of_zero_le (show 0 ≤ -x.scale by omega)
    have hscale : x.scale = -(n : Int) := by omega
    rw [hn, hscale]
    simp [div_eq_mul_inv]

/-- The fields of a double that is not among the smallest, as one number: the carry of a rounded
significand goes into the exponent. -/
lemma size_ofFields (negative : Bool) {m n : Nat} (hlow : leadingBit ≤ m)
    (hhigh : m ≤ 2 * leadingBit) (hn : n ≤ 2044) :
    (ofFields negative (n * leadingBit + m)).size = m * 2 ^ ((n : Int) - 1074) := by
  have hpos : 0 < leadingBit := by decide
  have hfinite : n * leadingBit + m < 2047 * leadingBit := by unfold leadingBit at *; omega
  rw [size_eq]
  unfold ofFields
  rw [dif_pos hfinite]
  simp only [significand, scale]
  by_cases hcarry : m = 2 * leadingBit
  · have hdiv : (n * leadingBit + m) / leadingBit = n + 2 := by unfold leadingBit at *; omega
    have hmod : (n * leadingBit + m) % leadingBit = 0 := by unfold leadingBit at *; omega
    have hscale : max ((n + 2 : Nat) : Int) 1 - 1075 = (n : Int) - 1074 + 1 := by omega
    rw [hdiv, hmod, hscale, hcarry, if_neg (by omega), zpow_add₀ two_ne_zero]
    push_cast
    ring
  · have hdiv : (n * leadingBit + m) / leadingBit = n + 1 := by unfold leadingBit at *; omega
    have hmod : (n * leadingBit + m) % leadingBit = m - leadingBit := by
      unfold leadingBit at *; omega
    have hscale : max ((n + 1 : Nat) : Int) 1 - 1075 = (n : Int) - 1074 := by omega
    rw [hdiv, hmod, hscale, if_neg (by omega), Nat.add_sub_cancel' hlow]

lemma negative_ofFields (fields : Nat) : (ofFields negative fields).negative = negative := by
  unfold ofFields
  split <;> rfl

-- The fields are kept apart as a variable: a projection of the whole would have them computed.
lemma exists_ofFields (h : num ≠ 0) (den : Nat) :
    ∃ fields, ofRatio negative num den = ofFields negative fields := by
  rw [ofRatio, if_neg h]
  exact ⟨_, rfl⟩

lemma negative_ofRatio (num den : Nat) : (ofRatio negative num den).negative = negative := by
  by_cases h : num = 0
  · rw [h]
    rfl
  · obtain ⟨fields, hfields⟩ := exists_ofFields h den
    rw [hfields, negative_ofFields]

/-- A ratio counted in multiples of a power of two is another ratio of whole numbers. -/
lemma exists_grid_ratio (hden : 0 < den) (num : Nat) (q : Int) : ∃ num' den' : Nat, 0 < den' ∧
    (if 0 ≤ q then roundDiv num (den * Nat.pow 2 q.toNat)
      else roundDiv (num * Nat.pow 2 (-q).toNat) den) = roundDiv num' den' ∧
    (num' / den' : ℚ) = num / den / 2 ^ q := by
  split
  · next h =>
    refine ⟨num, den * Nat.pow 2 q.toNat, Nat.mul_pos hden (Nat.pow_pos two_pos), rfl, ?_⟩
    rw [two_zpow_toNat h, div_div, Nat.cast_mul]
    rfl
  · next h =>
    refine ⟨num * Nat.pow 2 (-q).toNat, den, hden, rfl, ?_⟩
    have hinv : (num : ℚ) / den / 2 ^ q = (num * 2 ^ (-q) : ℚ) / den := by
      rw [zpow_neg]
      field_simp
    rw [hinv, two_zpow_toNat (by omega : 0 ≤ -q), Nat.cast_mul]
    rfl

lemma roundDiv_near_grid (hden : 0 < den) (q : Int) :
    |((if 0 ≤ q then roundDiv num (den * Nat.pow 2 q.toNat)
      else roundDiv (num * Nat.pow 2 (-q).toNat) den : Nat) : ℚ) - num / den / 2 ^ q| ≤ 1 / 2 := by
  obtain ⟨num', den', hden', hround, hratio⟩ := exists_grid_ratio hden num q
  rw [hround, ← hratio]
  exact roundDiv_near num' hden'

/-- A double is the `m`-th multiple of the spacing in a stretch, and no multiple is nearer to a
number. -/
structure Nearest (e : Int) (v : ℚ) (m : Nat) (x : Double) : Prop where
  size_eq : x.size = m * spacing e
  least : 2 ^ 52 ≤ m
  most : m ≤ 2 ^ 53
  near : |x.size - v| ≤ spacing e / 2

/-- From `2 ^ e` up to the next power of two a ratio is rounded to a nearest multiple of the
spacing. -/
theorem exists_nearest_ofRatio (negative : Bool) (hden : 0 < den)
    (hlow : (2 : ℚ) ^ e ≤ num / den) (hhigh : (num : ℚ) / den < 2 ^ (e + 1)) (he : -1022 ≤ e)
    (he' : e ≤ 1022) : ∃ m, Nearest e (num / den) m (ofRatio negative num den) := by
  have hspacing := spacing_pos e
  have hscale := gridScale_eq hden hlow hhigh he
  have hnum : num ≠ 0 := by
    rintro rfl
    have hpos : (0 : ℚ) < 2 ^ e := by positivity
    simp only [Nat.cast_zero, zero_div] at hlow
    linarith
  obtain ⟨m, hm⟩ : ∃ m : Nat, (if 0 ≤ e - 52 then roundDiv num (den * Nat.pow 2 (e - 52).toNat)
      else roundDiv (num * Nat.pow 2 (-(e - 52)).toNat) den) = m := ⟨_, rfl⟩
  have hnear : |(m : ℚ) - num / den / spacing e| ≤ 1 / 2 := by
    rw [← hm]
    exact roundDiv_near_grid hden (e - 52)
  have hbounds := abs_le.mp hnear
  have hleast : 2 ^ 52 ≤ m := by
    have hgrid : (2 : ℚ) ^ 52 ≤ num / den / spacing e := by
      rwa [le_div_iff₀ hspacing, ← two_zpow_eq]
    have hlt : (2 : ℚ) ^ 52 < m + 1 := by linarith
    have : 2 ^ 52 < m + 1 := by exact_mod_cast hlt
    omega
  have hmost : m ≤ 2 ^ 53 := by
    have hgrid : num / den / spacing e < (2 : ℚ) ^ 53 := by
      rwa [div_lt_iff₀ hspacing, ← two_zpow_succ_eq]
    have hlt : (m : ℚ) < 2 ^ 53 + 1 := by linarith
    have : m < 2 ^ 53 + 1 := by exact_mod_cast hlt
    omega
  have hsize : (ofRatio negative num den).size = m * spacing e := by
    obtain ⟨n, hn⟩ := Int.eq_ofNat_of_zero_le (show 0 ≤ e - 52 + 1074 by omega)
    have hfields := size_ofFields negative (m := m) (n := n)
      (by unfold leadingBit; omega) (by unfold leadingBit; omega) (by omega)
    unfold ofRatio
    rw [if_neg hnum]
    simp only [hscale, hm, hn, Int.toNat_natCast, hfields, spacing]
    congr 2
    omega
  refine ⟨m, hsize, hleast, hmost, ?_⟩
  calc |(ofRatio negative num den).size - num / den|
      = |((m : ℚ) - num / den / spacing e) * spacing e| := by
        rw [hsize, sub_mul, div_mul_cancel₀ _ hspacing.ne']
    _ = |(m : ℚ) - num / den / spacing e| * spacing e := by rw [abs_mul, abs_of_pos hspacing]
    _ ≤ 1 / 2 * spacing e := by gcongr
    _ = spacing e / 2 := by ring

/-! ### Cutting -/

lemma size_nonneg (x : Double) : 0 ≤ x.size := by
  unfold size
  positivity

lemma truncate_eq (x : Double) :
    x.truncate = if x.negative then -(⌊x.size⌋₊ : Int) else ⌊x.size⌋₊ := by
  unfold truncate size
  rw [Nat.floor_div_eq_div]

end Promotion.Double
