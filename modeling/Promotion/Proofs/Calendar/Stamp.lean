import Mathlib.Data.List.Forall2
import Promotion.Calendar.Reading
import Promotion.Proofs.Calendar.Conversion
import Promotion.Proofs.Json.Numeral

/-! The text of the time a rule was made. It is read back as the instant cut to the millisecond, and
such texts are in the order of their instants. -/
namespace Promotion

/-! ### Numbers of a fixed width -/

namespace Text
variable {width n m : Nat} {a b c d : List Char}

lemma isDigit_ofNat (h : n < 10) : (Char.ofNat (48 + n)).isDigit = true := by
  have hall : ∀ k : Fin 10, (Char.ofNat (48 + k)).isDigit = true := by decide
  exact hall ⟨n, h⟩

lemma digitValue?_ofNat (h : n < 10) : digitValue? (Char.ofNat (48 + n)) = some n := by
  have hall : ∀ k : Fin 10, digitValue? (Char.ofNat (48 + k)) = some k.val := by decide
  exact hall ⟨n, h⟩

lemma ofNat_lt_ofNat_iff (hn : n < 10) (hm : m < 10) :
    Char.ofNat (48 + n) < Char.ofNat (48 + m) ↔ n < m := by
  have hall : ∀ i j : Fin 10, Char.ofNat (48 + i) < Char.ofNat (48 + j) ↔ i.val < j.val := by decide
  exact hall ⟨n, hn⟩ ⟨m, hm⟩

lemma isDigit_of_mem_padded {c : Char} (h : c ∈ padded width n) : c.isDigit = true := by
  induction width generalizing n with
  | zero => cases h
  | succ width ih =>
    rcases List.mem_append.mp h with hfront | hlast
    · exact ih hfront
    · rw [List.mem_singleton.mp hlast]
      exact isDigit_ofNat (Nat.mod_lt _ (by decide))

/-- A number that fits into the width is read back. -/
lemma ofDigits?_padded (h : n < 10 ^ width) : ofDigits? (padded width n) = some n := by
  induction width generalizing n with
  | zero =>
    obtain rfl : n = 0 := by simpa using h
    rfl
  | succ width ih =>
    have hfront := ih (n := n / 10) (by rw [Nat.pow_succ] at h; omega)
    have hlast := digitValue?_ofNat (Nat.mod_lt n (by decide : 10 > 0))
    unfold ofDigits? at hfront ⊢
    rw [padded, List.foldlM_append, hfront]
    simp [hlast, Nat.div_add_mod']

lemma append_lt_append_iff (h : a.length = b.length) :
    a ++ c < b ++ d ↔ a < b ∨ a = b ∧ c < d := by
  induction a generalizing b with
  | nil =>
    obtain rfl := List.length_eq_zero_iff.mp h.symm
    simp
  | cons x a ih =>
    obtain ⟨y, b, rfl⟩ := List.exists_cons_of_length_eq_add_one h.symm
    simp only [List.cons_append, List.cons_lt_cons_iff, List.cons.injEq,
      ih (Nat.succ.inj h)]
    tauto

lemma padded_eq_padded_iff (hn : n < 10 ^ width) (hm : m < 10 ^ width) :
    padded width n = padded width m ↔ n = m := by
  refine ⟨fun h => ?_, congrArg _⟩
  have hread := ofDigits?_padded hn
  rw [h, ofDigits?_padded hm] at hread
  exact (Option.some.inj hread).symm

/-- Numbers of one width are in the order of their texts. -/
lemma padded_lt_padded_iff (hn : n < 10 ^ width) (hm : m < 10 ^ width) :
    padded width n < padded width m ↔ n < m := by
  induction width generalizing n m with
  | zero =>
    simp only [Nat.pow_zero, Nat.lt_one_iff] at hn hm
    simp [hn, hm]
  | succ width ih =>
    have hn' : n / 10 < 10 ^ width := by rw [Nat.pow_succ] at hn; omega
    have hm' : m / 10 < 10 ^ width := by rw [Nat.pow_succ] at hm; omega
    have hlast := ofNat_lt_ofNat_iff (Nat.mod_lt n (by decide : 10 > 0))
      (Nat.mod_lt m (by decide : 10 > 0))
    rw [padded, padded, append_lt_append_iff (by simp), ih hn' hm', padded_eq_padded_iff hn' hm']
    simp only [List.cons_lt_cons_iff, List.lt_irrefl, and_false, or_false, hlast]
    omega

/-- A text that fits a pattern has a digit for each zero of the pattern, and its other characters as
they are. -/
def Fits (pattern text : List Char) : Prop :=
  List.Forall₂ (fun p c => if p = '0' then c.isDigit = true else c = p) pattern text

lemma fits_number (width n : Nat) (h : Fits a b) :
    Fits (List.replicate width '0' ++ a) (padded width n ++ b) := by
  induction width generalizing n a b with
  | zero => exact h
  | succ width ih =>
    rw [List.replicate_succ', padded, List.append_assoc, List.append_assoc]
    have hdigit := isDigit_ofNat (Nat.mod_lt n (by decide : 10 > 0))
    exact ih (n / 10) (.cons (by simpa using hdigit) h)

lemma fits_mark (mark : Char) (hmark : mark ≠ '0') (h : Fits a b) :
    Fits (mark :: a) (mark :: b) := .cons (by simp [hmark]) h

end Text

/-! ### Reading -/

namespace Date

lemma lt_width (d : Date) : d.year < 10 ^ 4 ∧ d.month < 10 ^ 2 ∧ d.day < 10 ^ 2 := by
  have hfields := d.isDay
  simp only [Calendar.isDay, Calendar.isMonthDay, Bool.and_eq_true, decide_eq_true_eq] at hfields
  obtain ⟨⟨hyear, hlast⟩, ⟨⟨hmonth, hmonth'⟩, hday⟩, hlength⟩ := hfields
  have hshort : Calendar.monthLength d.year d.month ≤ 31 := by
    have hall : ∀ length ∈ Calendar.monthLengths d.year, length ≤ 31 := by
      simp only [Calendar.monthLengths, List.mem_cons, List.not_mem_nil, or_false]
      split_ifs <;> omega
    unfold Calendar.monthLength List.getD
    cases hget : (Calendar.monthLengths d.year)[d.month - 1]? with
    | none => simp
    | some length => exact hall length (List.mem_of_getElem? hget)
  omega

end Date

namespace TimeOfDay

lemma lt_width (t : TimeOfDay) : t.hour < 10 ^ 2 ∧ t.minute < 10 ^ 2 ∧ t.second < 10 ^ 2 ∧
    t.micro / 1000 < 10 ^ 3 := by
  have := t.bounds
  omega

/-- The time of day cut to the millisecond. -/
def cut (t : TimeOfDay) : TimeOfDay :=
  ⟨t.hour, t.minute, t.second, t.micro / 1000 * 1000, by
    have := t.bounds
    simp only [Bool.and_eq_true, decide_eq_true_eq]
    omega⟩

end TimeOfDay

namespace Calendar
variable {width n : Nat} {rest : List Char}

lemma spanNumber_padded (h : n < 10 ^ width) :
    spanNumber width (Text.padded width n ++ rest) = some (n, rest) := by
  have htake : (Text.padded width n ++ rest).take width = Text.padded width n := by
    simp
  have hdrop : (Text.padded width n ++ rest).drop width = rest := by
    simp
  simp [spanNumber, htake, hdrop, Text.ofDigits?_padded h]

lemma spanDate_chars (d : Date) (rest : List Char) :
    spanDate (d.chars ++ rest) = some (.read d, rest) := by
  obtain ⟨hyear, hmonth, hday⟩ := d.lt_width
  simp only [spanDate, Date.chars, List.append_assoc, List.cons_append, spanNumber_padded hyear,
    spanNumber_padded hmonth, spanNumber_padded hday, spanChar, Option.bind_eq_bind,
    Option.bind_some, if_true, Date.of?_fields, Option.pure_def]

/-- A day that is written out is read as that day. -/
theorem readDay_chars (d : Date) : readDay d.chars = .read d := by
  have hspan := spanDate_chars d []
  rw [List.append_nil] at hspan
  simp [readDay, hspan]

/-- Three digits behind a decimal mark are milliseconds. -/
lemma spanFraction_padded (h : n < 10 ^ 3) :
    spanFraction ('.' :: (Text.padded 3 n ++ 'Z' :: rest)) = some (n * 1000, 'Z' :: rest) := by
  have hdigits : ∀ c ∈ Text.padded 3 n, (Text.digitValue? c).isSome = true := fun c hc => by
    rw [Text.digitValue?_of_isDigit (Text.isDigit_of_mem_padded hc)]
    rfl
  have hZ : (Text.digitValue? 'Z').isSome = false := by decide
  have hspan : Number.spanDigits (Text.padded 3 n ++ 'Z' :: rest) =
      (Text.padded 3 n, 'Z' :: rest) := by
    unfold Number.spanDigits
    rw [List.takeWhile_append_of_pos hdigits, List.dropWhile_append_of_pos hdigits]
    simp [hZ]
  have hmicros : microsOf (Text.padded 3 n) = n * 1000 := by
    have htake : (Text.padded 3 n).take 6 = Text.padded 3 n := List.take_of_length_le (by simp)
    simp [microsOf, htake, Text.ofDigits?_padded h]
  have hne : (Text.padded 3 n).isEmpty = false := by
    rw [List.isEmpty_eq_false_iff, ← List.length_pos_iff]
    simp
  simp [spanFraction, hspan, hmicros, hne]

lemma spanTime_chars (t : TimeOfDay) (rest : List Char) :
    spanTime (t.chars ++ '.' :: (Text.padded 3 (t.micro / 1000) ++ 'Z' :: rest)) =
      some (t.cut, 'Z' :: rest) := by
  obtain ⟨hhour, hminute, hsecond, hmillis⟩ := t.lt_width
  have hof : TimeOfDay.of? t.hour t.minute t.second (t.micro / 1000 * 1000) = some t.cut :=
    t.cut.of?_fields
  simp only [spanTime, TimeOfDay.chars, List.append_assoc, List.cons_append,
    spanNumber_padded hhour, spanNumber_padded hminute, spanNumber_padded hsecond, spanChar,
    Option.bind_eq_bind, Option.bind_some, if_true, spanFraction_padded hmillis, hof,
    Option.pure_def]

end Calendar

namespace DateTime
variable {t u v : DateTime}

/-- The point in time cut to the millisecond. -/
def cut (t : DateTime) : DateTime := { t with time := t.time.cut }

/-- The text that a point in UTC has as the time a rule was made. -/
def stampChars (u : DateTime) : List Char :=
  u.dayAndTime ++ '.' :: (Text.padded 3 (u.time.micro / 1000) ++ ['Z'])

lemma stamp?_eq (hutc : u.offset = some 0) (h : u.instant = t.instant) :
    t.stamp? = some (String.ofList u.stampChars) := by
  rw [stamp?, ofInstant?_eq_some_iff.mpr ⟨hutc, h⟩]
  rfl

lemma InYears.exists_stamp (h : t.InYears) : ∃ u : DateTime,
    u.offset = some 0 ∧ u.instant = t.instant ∧ t.stamp? = some (String.ofList u.stampChars) := by
  obtain ⟨u, hutc, hinstant⟩ := inYears_iff.mp h
  exact ⟨u, hutc, hinstant, stamp?_eq hutc hinstant⟩

lemma fits_stampChars (u : DateTime) :
    Text.Fits "0000-00-00T00:00:00.000Z".toList u.stampChars := by
  have hmillis := Text.fits_number 3 (u.time.micro / 1000)
    (Text.fits_mark 'Z' (by decide) .nil)
  have hclock := Text.fits_number 2 u.time.hour (Text.fits_mark ':' (by decide)
    (Text.fits_number 2 u.time.minute (Text.fits_mark ':' (by decide)
      (Text.fits_number 2 u.time.second (Text.fits_mark '.' (by decide) hmillis)))))
  have hday := Text.fits_number 4 u.date.year (Text.fits_mark '-' (by decide)
    (Text.fits_number 2 u.date.month (Text.fits_mark '-' (by decide)
      (Text.fits_number 2 u.date.day (Text.fits_mark 'T' (by decide) hclock)))))
  simp only [stampChars, dayAndTime, Date.chars, TimeOfDay.chars, List.append_assoc,
    List.cons_append]
  exact hday

theorem readDateTime_stampChars (hutc : u.offset = some 0) :
    Calendar.readDateTime (String.ofList u.stampChars) = .read u.cut := by
  have hdate := Calendar.spanDate_chars u.date
    ('T' :: (u.time.chars ++ '.' :: (Text.padded 3 (u.time.micro / 1000) ++ ['Z'])))
  have htime := Calendar.spanTime_chars u.time []
  have hpoint : Calendar.readPoint u.stampChars = some (.read u.cut) := by
    simp only [Calendar.readPoint, stampChars, dayAndTime, List.append_assoc, List.cons_append,
      hdate, htime, Option.bind_eq_bind, Option.bind_some, true_or, if_true, Calendar.readOffset,
      Reading.atTime, Option.pure_def]
    rw [cut, hutc]
  simp [Calendar.readDateTime, hpoint]

lemma instant_cut (hutc : t.offset = some 0) : t.cut.instant = t.instant / 1000 * 1000 := by
  have hmicro := t.time.bounds.2.2.2
  simp only [instant, cut, TimeOfDay.cut, TimeOfDay.seconds, hutc, Option.getD_some, secondsPerDay,
    microsPerSecond]
  omega

end DateTime

/-! ### Order -/

open Text

/-- Days are in the order of their texts. -/
lemma Date.chars_lt_chars_iff {d d' : Date} : d.chars < d'.chars ↔ d.ordinal < d'.ordinal := by
  obtain ⟨hyear, hmonth, hday⟩ := d.lt_width
  obtain ⟨hyear', hmonth', hday'⟩ := d'.lt_width
  simp only [chars, List.append_assoc, List.cons_append, append_lt_append_iff, length_padded,
    List.cons_lt_cons_iff, Char.lt_irrefl, false_or, true_and, padded_lt_padded_iff hyear hyear',
    padded_eq_padded_iff hyear hyear', padded_lt_padded_iff hmonth hmonth',
    padded_eq_padded_iff hmonth hmonth', padded_lt_padded_iff hday hday', ordinal_lt_iff]

lemma Date.chars_eq_chars_iff {d d' : Date} : d.chars = d'.chars ↔ d.ordinal = d'.ordinal := by
  constructor
  · intro h
    have hread := Calendar.readDay_chars d
    rw [h, Calendar.readDay_chars, Reading.read.injEq] at hread
    rw [hread]
  · intro h
    rw [ordinal_injective h]

namespace DateTime
variable {t u v : DateTime}

/-- The milliseconds since midnight. -/
def dayMillis (t : DateTime) : Nat := t.time.seconds * 1000 + t.time.micro / 1000

/-- The part of a stamp behind the day. -/
lemma clockChars_lt_iff :
    u.time.chars ++ '.' :: (padded 3 (u.time.micro / 1000) ++ ['Z']) <
      v.time.chars ++ '.' :: (padded 3 (v.time.micro / 1000) ++ ['Z']) ↔
        u.dayMillis < v.dayMillis := by
  obtain ⟨hhour, hminute, hsecond, hmillis⟩ := u.time.lt_width
  obtain ⟨hhour', hminute', hsecond', hmillis'⟩ := v.time.lt_width
  have hbounds := u.time.bounds
  have hbounds' := v.time.bounds
  simp only [TimeOfDay.chars, List.append_assoc, List.cons_append, append_lt_append_iff,
    length_padded, List.cons_lt_cons_iff, Char.lt_irrefl, false_or, true_and,
    padded_lt_padded_iff hhour hhour', padded_eq_padded_iff hhour hhour',
    padded_lt_padded_iff hminute hminute', padded_eq_padded_iff hminute hminute',
    padded_lt_padded_iff hsecond hsecond', padded_eq_padded_iff hsecond hsecond',
    padded_lt_padded_iff hmillis hmillis', List.lt_irrefl, and_false, or_false, dayMillis,
    TimeOfDay.seconds]
  omega

lemma millis_eq (hutc : u.offset = some 0) :
    u.instant / 1000 = ((u.date.ordinal : Int) - Date.epochOrdinal) * 86400000 + u.dayMillis := by
  simp only [instant, dayMillis, TimeOfDay.seconds, hutc, Option.getD_some, secondsPerDay,
    microsPerSecond]
  omega

/-- Points in UTC are in the order of their stamps, down to the millisecond. -/
theorem stampChars_lt_stampChars_iff (hu : u.offset = some 0) (hv : v.offset = some 0) :
    u.stampChars < v.stampChars ↔ u.instant / 1000 < v.instant / 1000 := by
  have hday : u.dayMillis < 86400000 ∧ v.dayMillis < 86400000 := by
    have hbounds := u.time.bounds
    have hbounds' := v.time.bounds
    simp only [dayMillis, TimeOfDay.seconds]
    omega
  have hlength : u.date.chars.length = v.date.chars.length := by simp [Date.chars]
  rw [millis_eq hu, millis_eq hv]
  simp only [stampChars, dayAndTime, List.append_assoc, List.cons_append,
    append_lt_append_iff hlength, Date.chars_lt_chars_iff, Date.chars_eq_chars_iff,
    List.cons_lt_cons_iff, Char.lt_irrefl, false_or, true_and, clockChars_lt_iff]
  omega

end DateTime
end Promotion
