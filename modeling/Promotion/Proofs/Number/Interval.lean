import Promotion.Number.Shortest
import Promotion.Proofs.Number.Rounding

/-! The numbers that round to a double. They lie within half a step of it, the ends with them if its
significand is even; below a power of two the step is half as long. -/
namespace Promotion.Double
variable {num den m : Nat} {q : Int} {v : ℚ} {negative : Bool} {x : Double}

/-! ### Rounding to a given number -/

/-- A quotient halfway between two whole numbers is rounded to the even one. -/
lemma roundDiv_tie (hden : 0 < den) (htie : |(num / den : ℚ) - roundDiv num den| = 1 / 2) :
    roundDiv num den % 2 = 0 := by
  have hden' : (den : ℚ) ≠ 0 := by exact_mod_cast hden.ne'
  have hends : 2 * num = 2 * (roundDiv num den * den) + den ∨
      2 * num + den = 2 * (roundDiv num den * den) := by
    obtain habove | hbelow := (abs_eq (by norm_num)).mp htie
    · left
      rw [sub_eq_iff_eq_add, div_eq_iff hden'] at habove
      have : 2 * (num : ℚ) = 2 * (roundDiv num den * den) + den := by linarith
      exact_mod_cast this
    · right
      rw [sub_eq_iff_eq_add, div_eq_iff hden'] at hbelow
      have : 2 * (num : ℚ) + den = 2 * (roundDiv num den * den) := by linarith
      exact_mod_cast this
  have hsplit := Nat.div_add_mod' num den
  have hrest := Nat.mod_lt num hden
  unfold roundDiv at hends ⊢
  dsimp only at hends ⊢
  split_ifs at hends ⊢ with hbelow habove
  · omega
  · rw [Nat.add_mul] at hends
    omega
  · omega

/-- Two whole numbers within a half of the same number are neighbours, and it lies halfway between
them. -/
lemma neighbours_of_near {n : Nat} (hm : |v - m| ≤ 1 / 2) (hn : |v - n| ≤ 1 / 2) (hless : m < n) :
    n = m + 1 ∧ |v - m| = 1 / 2 ∧ |v - n| = 1 / 2 := by
  have hstep : (m : ℚ) + 1 ≤ n := by exact_mod_cast hless
  have hm' := abs_le.mp hm
  have hn' := abs_le.mp hn
  have hnext : n ≤ m + 1 := by
    have : (n : ℚ) ≤ m + 1 := by linarith
    exact_mod_cast this
  refine ⟨by omega, (abs_eq (by norm_num)).mpr (.inl ?_), (abs_eq (by norm_num)).mpr (.inr ?_)⟩ <;>
    linarith

/-- A quotient within a half of a whole number is rounded to that, from the half on if it is
even. -/
lemma roundDiv_eq (hden : 0 < den) (hnear : |(num / den : ℚ) - m| ≤ 1 / 2)
    (htie : |(num / den : ℚ) - m| = 1 / 2 → m % 2 = 0) : roundDiv num den = m := by
  have hround := roundDiv_near num hden
  rw [abs_sub_comm] at hround
  by_contra hne
  -- Of two neighbours just one is even.
  obtain hless | hmore := Nat.lt_or_gt_of_ne hne
  · obtain ⟨hnext, hhalf, hhalf'⟩ := neighbours_of_near hround hnear hless
    have heven := roundDiv_tie hden hhalf
    have heven' := htie hhalf'
    omega
  · obtain ⟨hnext, hhalf, hhalf'⟩ := neighbours_of_near hnear hround hmore
    have heven := htie hhalf
    have heven' := roundDiv_tie hden hhalf'
    omega

lemma ofRatio_eq_of_grid (hnum : num ≠ 0) (hden : 0 < den) (hscale : gridScale num den = q)
    (hnear : |num / den / 2 ^ q - (m : ℚ)| ≤ 1 / 2)
    (htie : |num / den / 2 ^ q - (m : ℚ)| = 1 / 2 → m % 2 = 0) :
    ofRatio negative num den = ofFields negative ((q + 1074).toNat * leadingBit + m) := by
  obtain ⟨num', den', hden', hround, hratio⟩ := exists_grid_ratio hden num q
  rw [← hratio] at hnear htie
  unfold ofRatio
  rw [if_neg hnum]
  simp only [hscale, hround, roundDiv_eq hden' hnear htie]

/-- A finite double in steps of its own. -/
lemma ofFields_significand (hx : x.isFinite) :
    ofFields x.negative ((x.scale + 1074).toNat * leadingBit + x.significand) = x := by
  obtain ⟨negative, ⟨exponent, hexponent⟩, ⟨fraction, hfraction⟩⟩ := x
  have hne : exponent ≠ 2047 := by simpa [isFinite] using hx
  have hfields : (scale ⟨negative, ⟨exponent, hexponent⟩, ⟨fraction, hfraction⟩⟩ + 1074).toNat *
      leadingBit + significand ⟨negative, ⟨exponent, hexponent⟩, ⟨fraction, hfraction⟩⟩ =
      exponent * leadingBit + fraction := by
    simp only [scale, significand]
    split
    · next hzero => simp [hzero]
    · next hpos =>
      have hscale : (max (exponent : Int) 1 - 1075 + 1074).toNat = exponent - 1 := by omega
      rw [hscale, ← Nat.add_assoc, ← Nat.succ_mul]
      congr 2
      omega
  have hdiv : (exponent * leadingBit + fraction) / leadingBit = exponent := by
    rw [Nat.mul_comm, Nat.mul_add_div (by decide), Nat.div_eq_of_lt hfraction, Nat.add_zero]
  have hmod : (exponent * leadingBit + fraction) % leadingBit = fraction := by
    rw [Nat.mul_comm, Nat.mul_add_mod, Nat.mod_eq_of_lt hfraction]
  have hlt : exponent * leadingBit + fraction < 2047 * leadingBit := by
    unfold leadingBit at *
    omega
  unfold ofFields
  rw [hfields, dif_pos hlt]
  simp only [hdiv, hmod]

/-! ### The interval of a double -/

/-- How far the numbers that round to a double reach below it, in quarters of its step. -/
def reach (m : Nat) (q : Int) : Nat := if m = leadingBit ∧ -1074 < q then 1 else 2

/-- A number lies in an interval. -/
def Interval.Holds (i : Interval) (v : ℚ) : Prop :=
  if i.closed then (i.low : ℚ) / i.den ≤ v ∧ v ≤ i.high / i.den
  else (i.low : ℚ) / i.den < v ∧ v < i.high / i.den

/-- The unit of an interval is a quarter of a step. -/
lemma interval_unit (q : Int) :
    ((if 2 ≤ q then Nat.pow 2 (q - 2).toNat else 1 : Nat) : ℚ) /
      (if 2 ≤ q then 1 else Nat.pow 2 (2 - q).toNat : Nat) = 2 ^ q / 4 := by
  have hfour : (2 : ℚ) ^ (q - 2) = 2 ^ q / 4 := by
    rw [zpow_sub₀ two_ne_zero]
    norm_num
  rw [← hfour]
  split
  · next h =>
    rw [two_zpow_toNat (by omega), Nat.cast_one, div_one]
    rfl
  · next h =>
    have hneg : q - 2 = -(2 - q) := by ring
    rw [hneg, zpow_neg, two_zpow_toNat (by omega), Nat.cast_one, one_div]
    rfl

lemma mid_interval (m : Nat) (q : Int) :
    ((interval m q).mid : ℚ) / (interval m q).den = m * 2 ^ q := by
  have hunit := interval_unit q
  simp only [interval, Nat.cast_mul, mul_div_assoc, hunit]
  push_cast
  ring

lemma high_interval (m : Nat) (q : Int) :
    ((interval m q).high : ℚ) / (interval m q).den = (m + 1 / 2) * 2 ^ q := by
  have hunit := interval_unit q
  simp only [interval, Nat.cast_mul, mul_div_assoc, hunit]
  push_cast
  ring

lemma low_interval (hm : 0 < m) (q : Int) :
    ((interval m q).low : ℚ) / (interval m q).den = (m - reach m q / 4) * 2 ^ q := by
  have hunit := interval_unit q
  have hreach : reach m q ≤ 4 * m := by
    unfold reach
    split <;> omega
  simp only [interval, Nat.cast_mul, mul_div_assoc, hunit]
  rw [← reach, Nat.cast_sub hreach]
  push_cast
  ring

lemma den_interval_pos (m : Nat) (q : Int) : 0 < (interval m q).den := by
  unfold interval
  dsimp only
  split
  · exact Nat.one_pos
  · exact Nat.pow_pos two_pos

/-- A number counts as `m` steps of `2 ^ q`. -/
structure RoundsTo (m : Nat) (q : Int) (v : ℚ) : Prop where
  low : (m : ℚ) - reach m q / 4 ≤ v / 2 ^ q
  high : v / 2 ^ q ≤ m + 1 / 2
  even : v / 2 ^ q = m - reach m q / 4 ∨ v / 2 ^ q = m + 1 / 2 → m % 2 = 0

/-- What lies in the interval of a double rounds to it. -/
lemma RoundsTo.of_holds (hm : 0 < m) (h : (interval m q).Holds v) : RoundsTo m q v := by
  have hstep : (0 : ℚ) < 2 ^ q := by positivity
  unfold Interval.Holds at h
  rw [low_interval hm, high_interval] at h
  split at h
  · next hclosed =>
    rw [← le_div_iff₀ hstep, ← div_le_iff₀ hstep] at h
    exact ⟨h.1, h.2, fun _ => by simpa [interval] using hclosed⟩
  · rw [← lt_div_iff₀ hstep, ← div_lt_iff₀ hstep] at h
    refine ⟨h.1.le, h.2.le, fun hend => ?_⟩
    obtain heq | heq := hend
    · exact absurd heq h.1.ne'
    · exact absurd heq h.2.ne

/-- What lies strictly between the ends lies in the interval. -/
lemma holds_of_lt (hm : 0 < m) (hlow : (m - reach m q / 4 : ℚ) * 2 ^ q < v)
    (hhigh : v < (m + 1 / 2) * 2 ^ q) : (interval m q).Holds v := by
  unfold Interval.Holds
  rw [low_interval hm, high_interval]
  split
  · exact ⟨hlow.le, hhigh.le⟩
  · exact ⟨hlow, hhigh⟩

/-! ### Rounding back -/

/-- What the significand and the scale of a finite double can be. -/
structure Scaled (m : Nat) (q : Int) : Prop where
  most : m < 2 * leadingBit
  finest : -1074 ≤ q
  least : leadingBit ≤ m ∨ q = -1074

lemma scaled (x : Double) : Scaled x.significand x.scale := by
  have hfraction := x.fraction.isLt
  unfold significand scale
  split
  · next hzero => exact ⟨by omega, by omega, .inr (by omega)⟩
  · next hpos => exact ⟨by omega, by omega, .inl (by omega)⟩

lemma exists_stretch (hv : 0 < v) : ∃ e : Int, (2 : ℚ) ^ e ≤ v ∧ v < 2 ^ (e + 1) :=
  ⟨Int.log 2 v, by exact_mod_cast Int.zpow_log_le_self one_lt_two hv,
    by exact_mod_cast Int.lt_zpow_succ_log_self one_lt_two v⟩

lemma reach_le (m : Nat) (q : Int) : reach m q ≤ 2 := by
  unfold reach
  split <;> decide

lemma RoundsTo.near (h : RoundsTo m q v) : |v / 2 ^ q - (m : ℚ)| ≤ 1 / 2 := by
  have hreach : (reach m q : ℚ) ≤ 2 := by exact_mod_cast reach_le m q
  rw [abs_le]
  constructor <;> linarith [h.low, h.high]

lemma RoundsTo.tie (h : RoundsTo m q v) (htie : |v / 2 ^ q - (m : ℚ)| = 1 / 2) : m % 2 = 0 := by
  have hreach : (reach m q : ℚ) ≤ 2 := by exact_mod_cast reach_le m q
  refine h.even ?_
  obtain habove | hbelow := (abs_eq (by norm_num)).mp htie
  · exact .inr (by linarith)
  · have hlow := h.low
    exact .inl (by linarith)

lemma RoundsTo.pos (hm : 0 < m) (h : RoundsTo m q v) : 0 < v := by
  have hstep : (0 : ℚ) < 2 ^ q := by positivity
  have hm' : (1 : ℚ) ≤ m := by exact_mod_cast hm
  have hbounds := abs_le.mp h.near
  have hcount : 0 < v / 2 ^ q := by linarith
  exact (div_pos_iff_of_pos_right hstep).mp hcount

/-- A number that rounds to `m` steps lies in their stretch, unless it lies just below a power of
two. -/
lemma RoundsTo.stretch {e : Int} (h : RoundsTo m q v) (hs : Scaled m q) (hlow : (2 : ℚ) ^ e ≤ v)
    (hhigh : v < 2 ^ (e + 1)) :
    max (e - 52) (-1074) = q ∨ (m = leadingBit ∧ -1074 < q ∧ v / 2 ^ q < m ∧
      max (e - 52) (-1074) = q - 1) := by
  have hstep : (0 : ℚ) < 2 ^ q := by positivity
  have hsteps (n : Nat) : (2 : ℚ) ^ (q + n) = 2 ^ n * 2 ^ q := by
    rw [zpow_add₀ two_ne_zero, zpow_natCast, mul_comm]
  have hmost : (m : ℚ) + 1 ≤ 2 ^ 53 := by exact_mod_cast hs.most
  have he : e < q + 53 := by
    refine (zpow_lt_zpow_iff_right₀ one_lt_two).mp (hlow.trans_lt ?_)
    rw [show q + 53 = q + (53 : Nat) by rfl, hsteps, ← div_lt_iff₀ hstep]
    linarith [h.high]
  have hfinest := hs.finest
  by_cases hsame : q ≤ max (e - 52) (-1074)
  · exact .inl (by omega)
  · have hless : v / 2 ^ q < 2 ^ 52 := by
      rw [div_lt_iff₀ hstep, ← hsteps]
      refine hhigh.trans_le (zpow_le_zpow_right₀ one_le_two ?_)
      omega
    have hm : m = leadingBit := by
      have hle : m < leadingBit + 1 := by
        have hnear := abs_le.mp h.near
        have : (m : ℚ) < (2 ^ 52 + 1 : Nat) := by
          push_cast
          linarith
        exact_mod_cast this
      have hleast := hs.least
      omega
    have hreach : reach m q = 1 := if_pos ⟨hm, by omega⟩
    refine .inr ⟨hm, by omega, by rw [hm]; exact_mod_cast hless, ?_⟩
    have hfrom : q + 51 < e + 1 := by
      refine (zpow_lt_zpow_iff_right₀ one_lt_two).mp (lt_of_le_of_lt ?_ hhigh)
      rw [show q + 51 = q + (51 : Nat) by rfl, hsteps, ← le_div_iff₀ hstep]
      refine le_trans ?_ h.low
      rw [hreach, hm]
      norm_num [leadingBit]
    omega

/-- A ratio that counts as a double's steps is rounded to these, in its own steps or, just below a
power of two, in twice as many of the next finer ones. -/
lemma ofRatio_of_roundsTo (hm : 0 < m) (hs : Scaled m q) (hden : 0 < den)
    (h : RoundsTo m q (num / den)) :
    ofRatio negative num den = ofFields negative ((q + 1074).toNat * leadingBit + m) := by
  have hpos := h.pos hm
  have hnum : num ≠ 0 := by
    rintro rfl
    simp at hpos
  obtain ⟨e, hlow, hhigh⟩ := exists_stretch hpos
  have hgrid := gridScale_eq_max hden hlow hhigh
  obtain hsame | ⟨rfl, hq, hbelow, hfiner⟩ := h.stretch hs hlow hhigh
  · exact ofRatio_eq_of_grid hnum hden (hgrid.trans hsame) h.near h.tie
  · have hhalf : (num / den : ℚ) / 2 ^ (q - 1) = 2 * (num / den / 2 ^ q) := by
      rw [zpow_sub_one₀ two_ne_zero]
      field_simp
    have hreach : reach leadingBit q = 1 := if_pos ⟨rfl, hq⟩
    have hleast := h.low
    rw [hreach] at hleast
    have hnear : |(num / den : ℚ) / 2 ^ (q - 1) - (2 * leadingBit : Nat)| ≤ 1 / 2 := by
      rw [hhalf, abs_le]
      push_cast
      constructor <;> linarith
    have hfields : (q - 1 + 1074).toNat * leadingBit + 2 * leadingBit =
        (q + 1074).toNat * leadingBit + leadingBit := by
      have hnext : (q + 1074).toNat = (q - 1 + 1074).toNat + 1 := by omega
      rw [hnext, Nat.add_mul, Nat.two_mul, Nat.one_mul, Nat.add_assoc]
    rw [ofRatio_eq_of_grid hnum hden (hgrid.trans hfiner) hnear fun _ => Nat.mul_mod_right 2 _,
      hfields]

/-- Every ratio in the interval of a double is rounded to the double. -/
theorem ofRatio_eq_of_holds (hx : x.isFinite) (hm : 0 < x.significand) (hden : 0 < den)
    (h : (interval x.significand x.scale).Holds (num / den)) : ofRatio x.negative num den = x := by
  rw [ofRatio_of_roundsTo hm (scaled x) hden (.of_holds hm h), ofFields_significand hx]

end Promotion.Double
