import Mathlib.Algebra.Order.Ring.Int
import Promotion.Calendar.DateTime

/-! Days by their number and points in time by their instant: each is read back from it. -/
namespace Promotion
namespace Calendar

lemma daysBeforeYear_succ (y : Nat) :
    daysBeforeYear (y + 1) = 365 * y + y / 4 - y / 100 + y / 400 := rfl

lemma isLeap_iff (year : Nat) : isLeap year = true ↔ 4 ∣ year ∧ (¬ 100 ∣ year ∨ 400 ∣ year) := by
  simp [isLeap, Nat.dvd_iff_mod_eq_zero]

lemma daysBeforeMonth_eq_sum (year month : Nat) :
    daysBeforeMonth year month = ((monthLengths year).take (month - 1)).sum := rfl

/-- A year is as long as its months together. -/
lemma daysBeforeYear_add_sum (y : Nat) :
    daysBeforeYear (y + 1) + (monthLengths (y + 1)).sum = daysBeforeYear (y + 2) := by
  have hlength : (monthLengths (y + 1)).sum = if isLeap (y + 1) then 366 else 365 := by
    simp only [monthLengths, List.sum_cons, List.sum_nil]
    split_ifs <;> rfl
  have h100 : 100 ∣ y + 1 → 4 ∣ y + 1 := Nat.dvd_trans (by decide)
  have h400 : 400 ∣ y + 1 → 100 ∣ y + 1 := Nat.dvd_trans (by decide)
  rw [hlength, daysBeforeYear_succ, daysBeforeYear_succ, Nat.succ_div, Nat.succ_div, Nat.succ_div]
  simp only [isLeap_iff]
  split_ifs <;> omega

/-- The guess is off by at most a year, which the comparisons put right. -/
lemma yearOf_eq {y days : Nat} (hfirst : daysBeforeYear (y + 1) ≤ days)
    (hnext : days < daysBeforeYear (y + 2)) : yearOf days = y + 1 := by
  have hguess : days * 400 / 146097 + 1 = y ∨ days * 400 / 146097 = y ∨
      days * 400 / 146097 = y + 1 := by
    simp only [daysBeforeYear_succ] at hfirst hnext
    omega
  unfold yearOf
  rcases hguess with h | h | h
  · obtain ⟨x, rfl⟩ : ∃ x, y = x + 1 := ⟨_, h.symm⟩
    have hbefore : daysBeforeYear (x + 1) ≤ days :=
      Nat.le_trans (Nat.le.intro (daysBeforeYear_add_sum x)) hfirst
    simp only [h, if_neg hbefore.not_gt, if_pos hfirst]
  · simp only [h, if_neg hfirst.not_gt, if_neg hnext.not_ge]
  · simp only [h, if_pos hnext, Nat.add_sub_cancel]

/-- A number of days inside a month leads to that month. -/
lemma splitMonths_take {lengths : List Nat} {i day : Nat} (hday : day < lengths.getD i 0)
    (month : Nat) :
    splitMonths month lengths ((lengths.take i).sum + day) = (month + i, day + 1) := by
  induction i generalizing lengths month with
  | zero =>
    cases lengths with
    | nil => simp at hday
    | cons length lengths =>
      simp only [List.getD_cons_zero] at hday
      simp [splitMonths, hday]
  | succ i ih =>
    cases lengths with
    | nil => simp at hday
    | cons length lengths =>
      have hrest : day < lengths.getD i 0 := by simpa using hday
      have hskip : ¬ length + ((lengths.take i).sum + day) < length := by omega
      simp only [List.take_succ_cons, List.sum_cons, splitMonths, Nat.add_assoc, hskip, if_false,
        Nat.add_sub_cancel_left, ih hrest]
      simp [Nat.add_comm]

/-- A month ends before its year does. -/
lemma total_take_add_lt {lengths : List Nat} {i day : Nat} (hday : day < lengths.getD i 0) :
    (lengths.take i).sum + day < lengths.sum := by
  induction i generalizing lengths with
  | zero =>
    cases lengths with
    | nil => simp at hday
    | cons length lengths =>
      simp only [List.getD_cons_zero] at hday
      simp only [List.take_zero, List.sum_cons, List.sum_nil]
      omega
  | succ i ih =>
    cases lengths with
    | nil => simp at hday
    | cons length lengths =>
      have hrest : (lengths.take i).sum + day < lengths.sum :=
        ih (by simpa using hday)
      simp only [List.take_succ_cons, List.sum_cons]
      omega

end Calendar

open Calendar

/-- The day with the number of a day is that day. -/
theorem Date.ofOrdinal?_ordinal (d : Date) : Date.ofOrdinal? d.ordinal = some d := by
  obtain ⟨year, month, day, hisDay⟩ := d
  have hfields := hisDay
  simp only [Calendar.isDay, isMonthDay, Bool.and_eq_true, decide_eq_true_eq] at hfields
  obtain ⟨⟨hyear, -⟩, ⟨⟨hmonth, -⟩, hday⟩, hlast⟩ := hfields
  obtain ⟨y, rfl⟩ : ∃ y, year = y + 1 := ⟨year - 1, by omega⟩
  obtain ⟨m, rfl⟩ : ∃ m, month = m + 1 := ⟨month - 1, by omega⟩
  obtain ⟨n, rfl⟩ : ∃ n, day = n + 1 := ⟨day - 1, by omega⟩
  have hin : n < (monthLengths (y + 1)).getD m 0 := hlast
  have hordinal : ordinal ⟨y + 1, m + 1, n + 1, hisDay⟩ =
      daysBeforeYear (y + 1) + (((monthLengths (y + 1)).take m).sum + n) + 1 := by
    simp only [ordinal, daysBeforeMonth_eq_sum, Nat.add_sub_cancel]
    omega
  have hnext : daysBeforeYear (y + 1) + (((monthLengths (y + 1)).take m).sum + n) <
      daysBeforeYear (y + 2) := by
    rw [← daysBeforeYear_add_sum]
    exact Nat.add_lt_add_left (total_take_add_lt hin) _
  unfold ofOrdinal?
  rw [hordinal, if_neg (by omega), Int.toNat_natCast]
  simp only [Nat.add_sub_cancel, yearOf_eq (Nat.le_add_right _ _) hnext, Nat.add_sub_cancel_left,
    splitMonths_take hin, Nat.add_comm 1 m]
  exact Date.of?_fields ⟨y + 1, m + 1, n + 1, hisDay⟩

namespace TimeOfDay

lemma of?_fields (t : TimeOfDay) : of? t.hour t.minute t.second t.micro = some t := by
  simp [of?, t.inRange]

lemma bounds (t : TimeOfDay) : t.hour < 24 ∧ t.minute < 60 ∧ t.second < 60 ∧ t.micro < 1000000 := by
  simpa [and_assoc] using t.inRange

end TimeOfDay

namespace DateTime

/-- A day and a time of day are read back from the instant that they make in UTC. -/
lemma ofInstant?_eq (date : Date) (time : TimeOfDay) :
    ofInstant? ((((date.ordinal : Int) - Date.epochOrdinal) * secondsPerDay + time.seconds) *
      microsPerSecond + time.micro) = some ⟨date, time, some 0⟩ := by
  have htime := time.bounds
  have hinDay : time.seconds < 86400 := by
    unfold TimeOfDay.seconds
    omega
  have hseconds : ((((date.ordinal : Int) - Date.epochOrdinal) * secondsPerDay + time.seconds) *
      microsPerSecond + time.micro) / microsPerSecond =
      ((date.ordinal : Int) - Date.epochOrdinal) * secondsPerDay + time.seconds := by
    unfold microsPerSecond
    omega
  have hdays : (((date.ordinal : Int) - Date.epochOrdinal) * secondsPerDay + time.seconds) /
      secondsPerDay + Date.epochOrdinal = date.ordinal := by
    unfold secondsPerDay
    omega
  have hrest : ((((date.ordinal : Int) - Date.epochOrdinal) * secondsPerDay + time.seconds) %
      secondsPerDay).toNat = time.seconds := by
    unfold secondsPerDay
    omega
  have hmicro : (((((date.ordinal : Int) - Date.epochOrdinal) * secondsPerDay + time.seconds) *
      microsPerSecond + time.micro) % microsPerSecond).toNat = time.micro := by
    unfold microsPerSecond
    omega
  have hhour : time.seconds / 3600 = time.hour := by
    unfold TimeOfDay.seconds
    omega
  have hminute : time.seconds / 60 % 60 = time.minute := by
    unfold TimeOfDay.seconds
    omega
  have hsecond : time.seconds % 60 = time.second := by
    unfold TimeOfDay.seconds
    omega
  simp only [ofInstant?, hseconds, hdays, hrest, hmicro, hhour, hminute, hsecond,
    Date.ofOrdinal?_ordinal, TimeOfDay.of?_fields, Option.bind_eq_bind, Option.bind_some,
    Option.pure_def]

/-- A point in UTC is read back from its instant. -/
theorem ofInstant?_instant {t : DateTime} (hutc : t.offset.getD 0 = 0) :
    ofInstant? t.instant = some t.orUtc := by
  simp only [instant, hutc, orUtc, Int.sub_zero]
  exact ofInstant?_eq t.date t.time

end DateTime
end Promotion
