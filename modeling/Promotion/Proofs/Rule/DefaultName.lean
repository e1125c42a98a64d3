import Promotion.Proofs.Node.Grammar
import Promotion.Proofs.Number.Rounding
import Promotion.Proofs.Rule.CreatedAt

/-! The number in a default name beside the time a rule was made. It goes through two rounded
doubles and is cut toward zero, while the time is cut to the millisecond before it. -/
namespace Promotion

namespace Double
variable {x : Double} {v : ℚ} {e : Int} {m n k : Nat}

/-- A product with a whole number is rounded in the stretch that it falls into. -/
lemma Nearest.exists_scaleBy (h : Nearest e v m x) (hlow : 2 ^ (n + 52) ≤ m * k)
    (hhigh : m * k < 2 ^ (n + 53)) (he : -1022 ≤ e) (he' : e + n ≤ 1022) :
    ∃ j, Nearest (e + n) (x.size * k) j (x.scaleBy k) := by
  have hspacing := spacing_pos e
  have hratio : ((x.ratio.1 * k : Nat) : ℚ) / x.ratio.2 = x.size * k := by
    unfold size
    push_cast
    ring
  have hproduct : x.size * k = (m * k : Nat) * spacing e := by
    rw [h.size_eq]
    push_cast
    ring
  rw [← hratio] at hproduct ⊢
  refine exists_nearest_ofRatio x.negative x.ratio_snd_pos ?_ ?_ (by omega) he'
  · rw [hproduct, two_zpow_eq, spacing_add, ← mul_assoc, ← pow_add, add_comm 52 n]
    gcongr
    exact_mod_cast hlow
  · rw [hproduct, two_zpow_succ_eq, spacing_add, ← mul_assoc, ← pow_add, add_comm 53 n]
    gcongr
    exact_mod_cast hhigh

end Double

open Double

namespace DateTime
variable {t : DateTime} {e : Int}

/-- The double from which the number in a default name is cut. -/
def millisDouble (t : DateTime) : Double := t.secondsDouble.scaleBy 1000

lemma nameMillis_eq (t : DateTime) : t.nameMillis =
    if t.instant < 0 then -(⌊t.millisDouble.size⌋₊ : Int) else ⌊t.millisDouble.size⌋₊ := by
  have hsign : t.millisDouble.negative = decide (t.instant < 0) := by
    rw [millisDouble, scaleBy, negative_ofRatio, secondsDouble, negative_ofRatio]
  have hcut : t.nameMillis = t.millisDouble.truncate := rfl
  rw [hcut, truncate_eq, hsign]
  simp only [decide_eq_true_eq]

lemma exists_nearest_seconds (hlow : (2 : ℚ) ^ e ≤ t.instant.natAbs / 1000000)
    (hhigh : (t.instant.natAbs : ℚ) / 1000000 < 2 ^ (e + 1)) (he : -1000 ≤ e) (he' : e ≤ 1000) :
    ∃ m, Nearest e (t.instant.natAbs / 1000000) m t.secondsDouble := by
  have hden : ((microsPerSecond : Nat) : ℚ) = 1000000 := by norm_num [microsPerSecond]
  rw [← hden] at hlow hhigh ⊢
  exact exists_nearest_ofRatio _ (by decide) hlow hhigh (by omega) (by omega)

/-- Milliseconds are spaced 512 or 1024 times as wide as the seconds that they come from. -/
lemma exists_nearest_millis {v : ℚ} {m : Nat} (h : Nearest e v m t.secondsDouble)
    (he : -1000 ≤ e) (he' : e ≤ 1000) : ∃ n j : Nat, n ≤ 10 ∧ (2 ^ 62 ≤ m * 1000 → n = 10) ∧
      Nearest (e + n) (t.secondsDouble.size * 1000) j t.millisDouble := by
  have hleast := h.least
  have hmost := h.most
  rcases Nat.lt_or_ge (m * 1000) (2 ^ 62) with hlower | hupper
  · obtain ⟨j, hj⟩ := h.exists_scaleBy (n := 9) (k := 1000) (by omega) (by omega) (by omega)
      (by omega)
    exact ⟨9, j, by omega, by omega, by exact_mod_cast hj⟩
  · obtain ⟨j, hj⟩ := h.exists_scaleBy (n := 10) (k := 1000) (by omega) (by omega) (by omega)
      (by omega)
    exact ⟨10, j, by omega, by omega, by exact_mod_cast hj⟩

lemma millisDouble_zero (h : t.instant = 0) : t.millisDouble.size = 0 := by
  rw [millisDouble, secondsDouble, h]
  decide +kernel

lemma exists_stretch (h : t.instant ≠ 0) : ∃ e : Int, (2 : ℚ) ^ e ≤ t.instant.natAbs / 1000000 ∧
    (t.instant.natAbs : ℚ) / 1000000 < 2 ^ (e + 1) ∧ -20 ≤ e := by
  have hone : (1 : ℚ) ≤ t.instant.natAbs := by exact_mod_cast Int.natAbs_pos.mpr h
  have hpos : (0 : ℚ) < t.instant.natAbs / 1000000 := by positivity
  have hlow := Int.zpow_log_le_self (R := ℚ) (b := 2) (by norm_num) hpos
  have hhigh := Int.lt_zpow_succ_log_self (R := ℚ) (b := 2) (by norm_num)
    (t.instant.natAbs / 1000000)
  simp only [Nat.cast_ofNat] at hlow hhigh
  refine ⟨_, hlow, hhigh, ?_⟩
  have hsmall : (2 : ℚ) ^ (-20 : Int) < 2 ^ (Int.log 2 ((t.instant.natAbs : ℚ) / 1000000) + 1) := by
    have htiny : (2 : ℚ) ^ (-20 : Int) ≤ 1 / 1000000 := by norm_num
    refine lt_of_le_of_lt (htiny.trans ?_) hhigh
    gcongr
  have := (zpow_lt_zpow_iff_right₀ one_lt_two).mp hsmall
  omega

/-- The milliseconds are off by less than 1012 spacings of the seconds. -/
lemma millisDouble_near {last : Int} (h : t.instant ≠ 0)
    (hsize : (t.instant.natAbs : ℚ) / 1000000 < 2 ^ (last + 1)) (hlast : last ≤ 1000) :
    |t.millisDouble.size - t.instant.natAbs / 1000| ≤ 1012 * spacing last := by
  obtain ⟨e, hlow, hhigh, he⟩ := exists_stretch h
  have hle : e ≤ last := by
    have := (zpow_lt_zpow_iff_right₀ one_lt_two).mp (hlow.trans_lt hsize)
    omega
  have hspacing : spacing e ≤ spacing last :=
    zpow_le_zpow_right₀ one_le_two (by omega)
  obtain ⟨m, hm⟩ := exists_nearest_seconds hlow hhigh (by omega) (by omega)
  obtain ⟨n, j, hn, -, hj⟩ := exists_nearest_millis hm (by omega) (by omega)
  have hwide : spacing (e + n) ≤ 1024 * spacing e := by
    have hpow : (2 : ℚ) ^ n ≤ 2 ^ (10 : Nat) := pow_le_pow_right₀ one_le_two hn
    rw [spacing_add]
    refine mul_le_mul_of_nonneg_right ?_ (spacing_pos e).le
    linarith
  obtain ⟨hseconds, hseconds'⟩ := abs_le.mp hm.near
  obtain ⟨hmillis, hmillis'⟩ := abs_le.mp hj.near
  rw [abs_le]
  constructor <;> linarith

lemma natCast_div_thousand (k : Nat) :
    (k : ℚ) / 1000 = (k / 1000 : Nat) + (k % 1000 : Nat) / 1000 := by
  have hsplit : (k : ℚ) = 1000 * (k / 1000 : Nat) + (k % 1000 : Nat) := by
    exact_mod_cast (Nat.div_add_mod k 1000).symm
  linarith

/-- A number that is nearer to some milliseconds than the next whole ones are is cut as they are. -/
lemma floor_eq_of_near {x : ℚ} {k d : Nat} (hclose : |x - k / 1000| < d / 1000)
    (hlow : d ≤ k % 1000) (hhigh : k % 1000 + d ≤ 1000) : ⌊x⌋₊ = k / 1000 := by
  have hlow' : (d : ℚ) ≤ (k % 1000 : Nat) := by exact_mod_cast hlow
  have hhigh' : ((k % 1000 : Nat) : ℚ) + d ≤ 1000 := by exact_mod_cast hhigh
  rw [natCast_div_thousand, abs_lt] at hclose
  have hfloor : ((k / 1000 : Nat) : ℚ) ≤ x := by linarith
  rw [Nat.floor_eq_iff (le_trans (by positivity) hfloor)]
  exact ⟨hfloor, by linarith⟩

lemma floor_near {x : ℚ} {k : Nat} (hx : 0 ≤ x) (hclose : |x - k / 1000| < 1) :
    k / 1000 ≤ ⌊x⌋₊ + 1 ∧ ⌊x⌋₊ ≤ k / 1000 + 1 := by
  have hrest : ((k % 1000 : Nat) : ℚ) < 1000 := by exact_mod_cast Nat.mod_lt k (by decide)
  have hrest' : (0 : ℚ) ≤ (k % 1000 : Nat) := by positivity
  have hfloor := Nat.floor_le hx
  have hnext := Nat.lt_floor_add_one x
  rw [natCast_div_thousand, abs_lt] at hclose
  constructor
  · have hlt : ((k / 1000 : Nat) : ℚ) < ⌊x⌋₊ + 2 := by linarith
    have : k / 1000 < ⌊x⌋₊ + 2 := by exact_mod_cast hlt
    omega
  · have hlt : (⌊x⌋₊ : ℚ) < (k / 1000 : Nat) + 2 := by linarith
    have : ⌊x⌋₊ < k / 1000 + 2 := by exact_mod_cast hlt
    omega

lemma InYears.natAbs_lt (h : t.InYears) : t.instant.natAbs < 2 ^ 38 * 1000000 := by
  unfold InYears at h
  omega

/-- Away from whole milliseconds the number is cut toward zero, so that before 1970 it is the next
one. How far away it has to be grows with the distance from 1970. -/
theorem nameMillis_of_far (c : Nat) (hsize : t.instant.natAbs < 2 ^ (33 + c) * 1000000)
    (hlow : 2 ^ c ≤ t.instant.natAbs % 1000) (hhigh : t.instant.natAbs % 1000 + 2 ^ c ≤ 1000) :
    t.nameMillis = if t.instant < 0 then t.instant / 1000 + 1 else t.instant / 1000 := by
  have hne : t.instant ≠ 0 := by
    intro hzero
    have := Nat.two_pow_pos c
    simp [hzero] at hlow
  have hc : c < 10 := by
    have hlt : 2 ^ c < 2 ^ 10 := by omega
    exact (Nat.pow_lt_pow_iff_right (by decide)).mp hlt
  have hseconds : (t.instant.natAbs : ℚ) / 1000000 < 2 ^ ((32 + c : Int) + 1) := by
    have hlast : (32 + c : Int) + 1 = (33 + c : Nat) := by omega
    rw [div_lt_iff₀ (by norm_num), hlast, zpow_natCast]
    exact_mod_cast hsize
  have hspacing : spacing (32 + c) = 2 ^ c / 1048576 := by
    rw [spacing_add, spacing]
    norm_num
    ring
  have hclose : |t.millisDouble.size - t.instant.natAbs / 1000| < (2 ^ c : Nat) / 1000 := by
    have hpos : (0 : ℚ) < 2 ^ c := by positivity
    have hnear := millisDouble_near hne hseconds (by omega)
    rw [hspacing] at hnear
    push_cast
    linarith
  have hfar : 0 < t.instant.natAbs % 1000 := (Nat.two_pow_pos c).trans_le hlow
  rw [nameMillis_eq, floor_eq_of_near hclose hlow hhigh]
  split <;> omega

/-- Not within 2.4 per cent below the next power of two. -/
def ClearOfPower (n : Nat) : Prop := 128 * n < 125 * 2 ^ (n.log2 + 1)

instance (n : Nat) : Decidable (ClearOfPower n) := inferInstanceAs (Decidable (_ < _))

/-- Such milliseconds, as seconds, lie in the upper part of their stretch: the product is in a
higher one by ten. -/
lemma ClearOfPower.exists_stretch {n : Nat} (hclear : ClearOfPower n) (hpos : 0 < n) :
    ∃ e : Int, e + 10 = n.log2 ∧ (1024 * 2 ^ e : ℚ) ≤ n ∧ (n : ℚ) / 1000 < 2 ^ (e + 1) := by
  obtain ⟨hlow, -⟩ := log2_bounds hpos
  have hhigh : (128 : ℚ) * n < 125 * 2 ^ ((n.log2 : Int) + 1) := by exact_mod_cast hclear
  have hpower : (2 : ℚ) ^ (n.log2 : Int) = 1024 * 2 ^ ((n.log2 : Int) - 10) := by
    rw [zpow_sub₀ two_ne_zero]
    norm_num
    ring
  rw [hpower] at hlow
  rw [zpow_add_one₀ two_ne_zero, hpower] at hhigh
  refine ⟨(n.log2 : Int) - 10, by omega, hlow, ?_⟩
  rw [zpow_add_one₀ two_ne_zero]
  linarith

/-- Rounding the seconds does not leave the upper part of the stretch. -/
lemma upper_of_nearest {v : ℚ} {m : Nat} {x : Double} (h : Nearest e v m x)
    (hv : 1024 * 2 ^ e ≤ 1000 * v) : 2 ^ 62 ≤ m * 1000 := by
  have hnear := abs_le.mp h.near
  rw [h.size_eq] at hnear
  rw [two_zpow_eq] at hv
  have hle : (2 : ℚ) ^ 62 * spacing e ≤ (1000 * m + 500) * spacing e := by linarith
  have hle' : (2 : ℚ) ^ 62 ≤ 1000 * m + 500 := le_of_mul_le_mul_right hle (spacing_pos e)
  have : 2 ^ 62 ≤ 1000 * m + 500 := by exact_mod_cast hle'
  omega

/-- Where the milliseconds are spaced 1024 times as wide as the seconds, the error of the seconds is
rounded off again. -/
lemma millisDouble_of_whole {n : Nat} (hwhole : t.instant.natAbs = 1000 * n) (hpos : 0 < n)
    (hclear : ClearOfPower n) (hsmall : n.log2 ≤ 52) : t.millisDouble.size = n := by
  obtain ⟨e, he, hlow, hhigh⟩ := hclear.exists_stretch hpos
  have hmillis : (t.instant.natAbs : ℚ) / 1000000 = n / 1000 := by
    rw [hwhole]
    push_cast
    ring
  obtain ⟨m, hm⟩ : ∃ m, Nearest e (n / 1000) m t.secondsDouble := by
    have hpower : (0 : ℚ) < 2 ^ e := by positivity
    have hleast : (2 : ℚ) ^ e ≤ n / 1000 := by linarith
    rw [← hmillis] at hleast hhigh ⊢
    exact exists_nearest_seconds hleast hhigh (by omega) (by omega)
  obtain ⟨w, j, -, hw, hj⟩ := exists_nearest_millis hm (by omega) (by omega)
  obtain rfl := hw (upper_of_nearest hm (by linarith))
  have hwide : spacing (e + (10 : Nat)) = 1024 * spacing e := by
    rw [spacing_add]
    norm_num
  have hn := natCast_eq_mul_spacing (e := e + (10 : Nat)) (k := 52 - n.log2) (by omega) n
  have hsame : j = n * 2 ^ (52 - n.log2) := by
    have hspacing := spacing_pos e
    have hseconds := abs_le.mp hm.near
    have hnear := abs_le.mp hj.near
    refine eq_of_near_spacing (e := e + (10 : Nat)) ?_
    rw [← hn, ← hj.size_eq, hwide, abs_lt]
    rw [hwide] at hnear
    constructor <;> linarith
  rw [hj.size_eq, hsame, ← hn]

/-- A whole millisecond has its number, unless that lies just below a power of two. -/
theorem nameMillis_of_whole (h : t.InYears) (hwhole : 1000 ∣ t.instant)
    (hclear : ClearOfPower (t.instant / 1000).natAbs) : t.nameMillis = t.instant / 1000 := by
  have hyears := h.natAbs_lt
  rw [nameMillis_eq]
  by_cases hzero : t.instant = 0
  · rw [millisDouble_zero hzero, hzero]
    simp
  · have hmillis : t.instant.natAbs = 1000 * (t.instant / 1000).natAbs := by omega
    have hlog : (t.instant / 1000).natAbs.log2 < 52 := by
      rw [Nat.log2_lt (by omega)]
      omega
    rw [millisDouble_of_whole hmillis (by omega) hclear (by omega), Nat.floor_natCast]
    split <;> omega

/-- The number is off by at most two from the milliseconds before the time. -/
theorem nameMillis_near (h : t.InYears) :
    t.instant / 1000 - 1 ≤ t.nameMillis ∧ t.nameMillis ≤ t.instant / 1000 + 2 := by
  have hclose : |t.millisDouble.size - t.instant.natAbs / 1000| < 1 := by
    by_cases hzero : t.instant = 0
    · rw [millisDouble_zero hzero, hzero]
      norm_num
    · have hseconds : (t.instant.natAbs : ℚ) / 1000000 < 2 ^ ((37 : Int) + 1) := by
        rw [div_lt_iff₀ (by norm_num)]
        exact_mod_cast h.natAbs_lt
      have hnear := millisDouble_near hzero hseconds (by omega)
      have hspacing : 1012 * spacing 37 < 1 := by norm_num [spacing]
      linarith
  have hfloor := floor_near t.millisDouble.size_nonneg hclose
  rw [nameMillis_eq]
  split <;> omega

end DateTime

/-- The rule has the default name for the milliseconds that the time in its document is read back
with, give or take some. -/
def Rule.NamedBeside (r : Rule) (shift : Int) : Prop :=
  ∃ stamp back, r.toJson? = some (r.document stamp) ∧
    Calendar.readDateTime stamp = .read back ∧
    r.name = "Rule_" ++ String.ofList (Json.intText (back.instant / 1000 + shift))

namespace Graph
variable {g : Graph} {metadata : RuleMetadata} {now : DateTime} {rule : Rule}

lemma name_of_compile (hok : g.compile metadata now = .ok rule) (hname : metadata.name = "") :
    rule.name = defaultName now := by
  obtain ⟨entries, _, hrest⟩ := bind_eq_ok_iff.mp hok
  obtain ⟨salience, _, hrule⟩ := bind_eq_ok_iff.mp hrest
  obtain rfl := Except.ok.inj hrule
  simp only [hname, if_true]
  exact DateTime.defaultName_congr rfl

/-- The default name beside the time in the document. The two agree on whole milliseconds that are
clear of the next power of two, and from 1970 on also between whole milliseconds, if not too close
to one; before 1970 the name there is one too large. They are never further apart than two. -/
theorem defaultName_beside_createdAt (hok : g.compile metadata now = .ok rule)
    (hname : metadata.name = "") (hnow : now.InYears) :
    (1000 ∣ now.instant → DateTime.ClearOfPower (now.instant / 1000).natAbs →
      rule.NamedBeside 0) ∧
    (∀ c, now.instant.natAbs < 2 ^ (33 + c) * 1000000 → 2 ^ c ≤ now.instant.natAbs % 1000 →
      now.instant.natAbs % 1000 + 2 ^ c ≤ 1000 →
        rule.NamedBeside (if now.instant < 0 then 1 else 0)) ∧
    ∃ shift, -1 ≤ shift ∧ shift ≤ 2 ∧ rule.NamedBeside shift := by
  obtain ⟨u, hutc, hu, -⟩ := hnow.exists_stamp
  have hwritten := DateTime.writtenAs_stampChars hutc hu
  obtain ⟨back, hback, -, hinstant⟩ := hwritten.reads
  have hmillis : back.instant / 1000 = now.instant / 1000 := by omega
  have hnamed : ∀ shift, now.nameMillis = now.instant / 1000 + shift → rule.NamedBeside shift := by
    intro shift hshift
    refine ⟨_, back, hwritten.orUtc.document rule (createdAt_of_compile hok), hback, ?_⟩
    rw [name_of_compile hok hname, defaultName, hshift, hmillis]
  refine ⟨fun hwhole hclear => hnamed 0 ?_, fun c hsize hlow hhigh => hnamed _ ?_, ?_⟩
  · rw [now.nameMillis_of_whole hnow hwhole hclear, Int.add_zero]
  · rw [now.nameMillis_of_far c hsize hlow hhigh]
    split <;> omega
  · obtain ⟨hleast, hmost⟩ := now.nameMillis_near hnow
    exact ⟨now.nameMillis - now.instant / 1000, by omega, by omega, hnamed _ (by omega)⟩

/-- Metadata without a name. -/
def unnamed : RuleMetadata := .standard (.int 5)

/-- Between two milliseconds, and on one. -/
theorem defaultName_beside_createdAt_sample :
    (∃ rule, sample.compile unnamed sampleEast = .ok rule ∧ rule.NamedBeside 0) ∧
      ∃ rule, sample.compile unnamed sampleNow = .ok rule ∧ rule.NamedBeside 0 := by
  have hcompile : ∀ now, ∃ rule, sample.compile unnamed now = .ok rule := fun now =>
    sample_attainable.keepsRules.exists_compile_iff.mpr ⟨5, rfl⟩
  obtain ⟨rule, hok⟩ := hcompile sampleEast
  obtain ⟨rule', hok'⟩ := hcompile sampleNow
  obtain ⟨-, hfar, -⟩ := defaultName_beside_createdAt hok rfl (by decide +kernel)
  obtain ⟨hwhole, -⟩ := defaultName_beside_createdAt hok' rfl (by decide +kernel)
  exact ⟨⟨rule, hok, hfar 0 (by decide +kernel) (by decide +kernel) (by decide +kernel)⟩,
    ⟨rule', hok', hwhole (by decide +kernel) (by decide +kernel)⟩⟩

/-- A whole millisecond just above a power of two of seconds. -/
def late : DateTime := ⟨⟨2038, 2, 1, by decide⟩, ⟨0, 0, 0, 2000, by decide⟩, some 0⟩

def lateRule : Rule where
  name := "Rule_2148595200001"
  salience := 5
  stackable := true
  active := true
  validFrom := none
  validUntil := none
  conditions := []
  actions := []
  logicals := []
  links := []
  createdAt := late

/-- There the name is for the millisecond before the one in the document. -/
theorem defaultName_behind_createdAt :
    (empty (.int 5)).compile unnamed late = .ok lateRule ∧ late.InYears ∧
      lateRule.toJson? = some (lateRule.document "2038-02-01T00:00:00.002Z") ∧
      ¬ lateRule.NamedBeside 0 := by
  have hdocument : lateRule.toJson? = some (lateRule.document "2038-02-01T00:00:00.002Z") := by
    decide +kernel
  refine ⟨by decide +kernel, by decide +kernel, hdocument, ?_⟩
  rintro ⟨stamp, back, hstamp, hback, hname⟩
  obtain rfl : "2038-02-01T00:00:00.002Z" = stamp := by
    simpa [Rule.document] using hdocument.symm.trans hstamp
  have hread : Calendar.readDateTime "2038-02-01T00:00:00.002Z" = .read late := rfl
  obtain rfl := Reading.read.inj (hread.symm.trans hback)
  exact absurd hname (by decide +kernel)

end Graph
end Promotion
