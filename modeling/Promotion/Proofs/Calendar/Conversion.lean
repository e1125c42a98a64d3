import Mathlib.Order.Monotone.Basic
import Promotion.Calendar.Count
import Promotion.Proofs.Calendar.Instant

/-! Instants as days and times of day. Every instant of the years 1 to 9999 is one in UTC, and the
days in the order of their years, months and days are in the order of their numbers. -/
namespace Promotion
namespace Calendar

/-! ### Years and months -/

lemma daysBeforeYear_monotone : Monotone daysBeforeYear := by
  refine monotone_nat_of_le_succ fun y => ?_
  cases y with
  | zero => decide
  | succ y =>
    simp only [daysBeforeYear_succ]
    omega

/-- Every number of days falls into a year. -/
lemma exists_year (days : Nat) :
    ∃ y, daysBeforeYear (y + 1) ≤ days ∧ days < daysBeforeYear (y + 2) := by
  induction days with
  | zero => exact ⟨0, by decide, by decide⟩
  | succ days ih =>
    obtain ⟨y, hfirst, hnext⟩ := ih
    by_cases hsame : days + 1 < daysBeforeYear (y + 2)
    · exact ⟨y, Nat.le_succ_of_le hfirst, hsame⟩
    · refine ⟨y + 1, Nat.le_of_not_lt hsame, ?_⟩
      have hlonger : daysBeforeYear (y + 2) < daysBeforeYear (y + 1 + 2) := by
        simp only [daysBeforeYear_succ]
        omega
      omega

/-- A number of days that is less than all months together falls into one of them. -/
lemma exists_month {lengths : List Nat} {days : Nat} (h : days < lengths.sum) :
    ∃ i day, day < lengths.getD i 0 ∧ (lengths.take i).sum + day = days := by
  induction lengths generalizing days with
  | nil => simp at h
  | cons length lengths ih =>
    by_cases hfirst : days < length
    · exact ⟨0, days, by simpa using hfirst, by simp⟩
    · have hrest : days - length < lengths.sum := by
        simp only [List.sum_cons] at h
        omega
      obtain ⟨i, day, hday, hdays⟩ := ih hrest
      refine ⟨i + 1, day, by simpa using hday, ?_⟩
      simp only [List.take_succ_cons, List.sum_cons]
      omega

/-- A month ends before any later one begins. -/
lemma total_take_add_lt_take {lengths : List Nat} {i j day : Nat} (hday : day < lengths.getD i 0)
    (hij : i < j) : (lengths.take i).sum + day < (lengths.take j).sum := by
  have hin : day < (lengths.take j).getD i 0 := by simpa [List.getD, hij] using hday
  have hlt := total_take_add_lt hin
  rwa [List.take_take, Nat.min_eq_left hij.le] at hlt

end Calendar

namespace Date
open Calendar
variable {d d' : Date}

/-! ### Days by their numbers -/

/-- The number of the last day of the year 9999. -/
def lastOrdinal : Nat := 3652059

lemma exists_ordinal_eq {n : Nat} (hfirst : 1 ≤ n) (hlast : n ≤ lastOrdinal) :
    ∃ d : Date, d.ordinal = n := by
  obtain ⟨y, hyear, hnext⟩ := exists_year (n - 1)
  have hin : n - 1 - daysBeforeYear (y + 1) < (monthLengths (y + 1)).sum := by
    have := daysBeforeYear_add_sum y
    omega
  obtain ⟨i, day, hday, hdays⟩ := exists_month hin
  have hy : y + 1 ≤ 9999 := by
    by_contra hlate
    have hbefore : daysBeforeYear 10000 ≤ daysBeforeYear (y + 1) :=
      daysBeforeYear_monotone (by omega)
    have h10000 : daysBeforeYear 10000 = lastOrdinal := rfl
    omega
  have hi : i < 12 := by
    by_contra hi
    have hlength : (monthLengths (y + 1)).length ≤ i := Nat.le_of_not_lt hi
    simp [List.getD, List.getElem?_eq_none hlength] at hday
  have hisDay : Calendar.isDay (y + 1) (i + 1) (day + 1) = true := by
    have hlength : day + 1 ≤ monthLength (y + 1) (i + 1) := hday
    simp only [Calendar.isDay, isMonthDay, Bool.and_eq_true, decide_eq_true_eq]
    omega
  refine ⟨⟨y + 1, i + 1, day + 1, hisDay⟩, ?_⟩
  simp only [ordinal, daysBeforeMonth_eq_sum, Nat.add_sub_cancel]
  omega

/-- The days of a year before the last of them. -/
lemma ordinal_bounds (d : Date) :
    daysBeforeYear d.year < d.ordinal ∧ d.ordinal ≤ daysBeforeYear (d.year + 1) ∧
      1 ≤ d.year ∧ d.year ≤ 9999 := by
  obtain ⟨year, month, day, hisDay⟩ := d
  have hfields := hisDay
  simp only [Calendar.isDay, isMonthDay, Bool.and_eq_true, decide_eq_true_eq] at hfields
  obtain ⟨⟨hyear, hlast⟩, ⟨⟨hmonth, -⟩, hday⟩, hlength⟩ := hfields
  obtain ⟨y, rfl⟩ : ∃ y, year = y + 1 := ⟨year - 1, by omega⟩
  have hin : day - 1 < (monthLengths (y + 1)).getD (month - 1) 0 := by
    have hlength : day ≤ (monthLengths (y + 1)).getD (month - 1) 0 := hlength
    omega
  have hmonths := total_take_add_lt hin
  have hyears : daysBeforeYear (y + 1) + (monthLengths (y + 1)).sum =
      daysBeforeYear (y + 1 + 1) := daysBeforeYear_add_sum y
  simp only [ordinal, daysBeforeMonth_eq_sum]
  omega

lemma ordinal_lt_of_year_lt (h : d.year < d'.year) : d.ordinal < d'.ordinal :=
  calc d.ordinal ≤ daysBeforeYear (d.year + 1) := d.ordinal_bounds.2.1
    _ ≤ daysBeforeYear d'.year := daysBeforeYear_monotone h
    _ < d'.ordinal := d'.ordinal_bounds.1

lemma ordinal_lt_of_month_lt (hyear : d.year = d'.year) (h : d.month < d'.month) :
    d.ordinal < d'.ordinal := by
  have hfields := d.isDay
  simp only [Calendar.isDay, isMonthDay, Bool.and_eq_true, decide_eq_true_eq] at hfields
  obtain ⟨-, ⟨⟨hmonth, -⟩, hday⟩, hlength⟩ := hfields
  have hfields' := d'.isDay
  simp only [Calendar.isDay, isMonthDay, Bool.and_eq_true, decide_eq_true_eq] at hfields'
  obtain ⟨-, ⟨-, hday'⟩, -⟩ := hfields'
  have hin : d.day - 1 < (monthLengths d.year).getD (d.month - 1) 0 := by
    have hlength : d.day ≤ (monthLengths d.year).getD (d.month - 1) 0 := hlength
    omega
  have hbefore : d.month - 1 < d'.month - 1 := by omega
  have hmonths := total_take_add_lt_take hin hbefore
  simp only [ordinal, daysBeforeMonth_eq_sum, ← hyear]
  omega

/-- Days are in the order of their years, then months, then days of the month. -/
theorem ordinal_lt_iff : d.ordinal < d'.ordinal ↔ d.year < d'.year ∨ d.year = d'.year ∧
    (d.month < d'.month ∨ d.month = d'.month ∧ d.day < d'.day) := by
  have hforward : ∀ {d d' : Date}, (d.year < d'.year ∨ d.year = d'.year ∧
      (d.month < d'.month ∨ d.month = d'.month ∧ d.day < d'.day)) → d.ordinal < d'.ordinal := by
    rintro d d' (hyear | ⟨hyear, hmonth | ⟨hmonth, hday⟩⟩)
    · exact ordinal_lt_of_year_lt hyear
    · exact ordinal_lt_of_month_lt hyear hmonth
    · simp only [ordinal, hyear, hmonth]
      omega
  refine ⟨fun h => ?_, hforward⟩
  by_contra hnot
  -- Otherwise it is the other way round, or the days are the same.
  by_cases hback : d'.year < d.year ∨ d'.year = d.year ∧
      (d'.month < d.month ∨ d'.month = d.month ∧ d'.day < d.day)
  · exact absurd (hforward hback) h.not_gt
  · have hsame : d.year = d'.year ∧ d.month = d'.month ∧ d.day = d'.day := by omega
    simp [ordinal, hsame] at h

theorem ordinal_injective : Function.Injective ordinal := by
  intro d d' h
  have hread := ofOrdinal?_ordinal d
  rw [h, ofOrdinal?_ordinal d'] at hread
  exact (Option.some.inj hread).symm

lemma ofOrdinal?_eq_none {n : Int} (h : n < 1 ∨ lastOrdinal < n) : ofOrdinal? n = none := by
  rcases h with h | h
  · exact if_pos h
  obtain ⟨y, hfirst, hnext⟩ := exists_year (n.toNat - 1)
  have hyear : 9999 < y + 1 := by
    by_contra hyear
    have hlast : daysBeforeYear (y + 2) ≤ daysBeforeYear 10000 := daysBeforeYear_monotone (by omega)
    have h10000 : daysBeforeYear 10000 = lastOrdinal := rfl
    omega
  unfold ofOrdinal?
  rw [if_neg (by omega)]
  dsimp only
  rw [yearOf_eq hfirst hnext]
  exact dif_neg (by simp [Calendar.isDay]; omega)

end Date

namespace DateTime
variable {t u : DateTime}

/-! ### Points in time -/

/-- In UTC the point in time falls into the years 1 to 9999. -/
def InYears (t : DateTime) : Prop :=
  -62135596800000000 ≤ t.instant ∧ t.instant < 253402300800000000

instance (t : DateTime) : Decidable t.InYears := inferInstanceAs (Decidable (_ ∧ _))

/-- Every instant of these years is a point in UTC. -/
lemma InYears.exists_utc (h : t.InYears) :
    ∃ date time, (⟨date, time, some 0⟩ : DateTime).instant = t.instant := by
  obtain ⟨hfirst, hlast⟩ := h
  generalize t.instant = micros at hfirst hlast ⊢
  obtain ⟨date, hdate⟩ := Date.exists_ordinal_eq
    (n := (micros / 86400000000 + Date.epochOrdinal).toNat)
    (by unfold Date.epochOrdinal; omega) (by unfold Date.lastOrdinal Date.epochOrdinal; omega)
  let inDay := (micros % 86400000000).toNat
  have hinDay : inDay < 86400000000 := by omega
  let time : TimeOfDay := ⟨inDay / 3600000000, inDay / 60000000 % 60, inDay / 1000000 % 60,
    inDay % 1000000, by simp; omega⟩
  refine ⟨date, time, ?_⟩
  have hseconds : time.seconds = inDay / 1000000 := by
    simp only [TimeOfDay.seconds, time]
    omega
  simp only [instant, hdate, hseconds, time, Date.epochOrdinal, secondsPerDay, microsPerSecond,
    Option.getD_some]
  omega

lemma inYears_of_utc (h : t.offset.getD 0 = 0) : t.InYears := by
  obtain ⟨hfirst, hlast, hyear, hyear'⟩ := t.date.ordinal_bounds
  have hbefore : Calendar.daysBeforeYear 1 ≤ Calendar.daysBeforeYear t.date.year :=
    Calendar.daysBeforeYear_monotone hyear
  have hafter : Calendar.daysBeforeYear (t.date.year + 1) ≤ Calendar.daysBeforeYear 10000 :=
    Calendar.daysBeforeYear_monotone (by omega)
  have hone : Calendar.daysBeforeYear 1 = 0 := rfl
  have h10000 : Calendar.daysBeforeYear 10000 = 3652059 := rfl
  have htime := t.time.bounds
  simp only [InYears, instant, h, Date.epochOrdinal, secondsPerDay, microsPerSecond,
    TimeOfDay.seconds]
  omega

/-- These years are the ones that points in UTC lie in. -/
theorem inYears_iff : t.InYears ↔ ∃ u : DateTime, u.offset = some 0 ∧ u.instant = t.instant := by
  constructor
  · intro h
    obtain ⟨date, time, hinstant⟩ := h.exists_utc
    exact ⟨⟨date, time, some 0⟩, rfl, hinstant⟩
  · rintro ⟨u, hutc, hinstant⟩
    have hu : u.InYears := inYears_of_utc (by simp [hutc])
    rwa [InYears, hinstant] at hu

lemma ofInstant?_eq_none (h : ¬ t.InYears) : ofInstant? t.instant = none := by
  have hday : t.instant / microsPerSecond / secondsPerDay + Date.epochOrdinal < 1 ∨
      (Date.lastOrdinal : Int) <
        t.instant / microsPerSecond / secondsPerDay + Date.epochOrdinal := by
    simp only [InYears] at h
    simp only [microsPerSecond, secondsPerDay, Date.epochOrdinal, Date.lastOrdinal]
    omega
  simp only [ofInstant?, Date.ofOrdinal?_eq_none hday, Option.bind_eq_bind, Option.bind_none]

/-- An instant is taken apart into the point in UTC that it is put together from. -/
theorem ofInstant?_eq_some_iff :
    ofInstant? t.instant = some u ↔ u.offset = some 0 ∧ u.instant = t.instant := by
  constructor
  · intro hu
    by_cases ht : t.InYears
    · obtain ⟨date, time, hinstant⟩ := ht.exists_utc
      have hread := ofInstant?_instant (t := ⟨date, time, some 0⟩) rfl
      rw [hinstant, hu] at hread
      obtain rfl := Option.some.inj hread
      exact ⟨rfl, hinstant⟩
    · simp [ofInstant?_eq_none ht] at hu
  · obtain ⟨date, time, _⟩ := u
    rintro ⟨rfl, hinstant⟩
    exact hinstant ▸ ofInstant?_instant rfl

end DateTime

namespace Calendar

end Calendar
end Promotion
