import Mathlib.Data.List.Find
import Mathlib.Data.List.TakeWhile
import Mathlib.Tactic.Common
import Promotion.Json.Reader
import Promotion.Json.Writer

/-! Numerals are read back. A numeral ends where a separator, a bracket or a gap stands, so reading
one does not depend on what comes behind it. -/
namespace Promotion

namespace Text

lemma digitValue?_of_isDigit {c : Char} (h : c.isDigit = true) :
    digitValue? c = some (c.toNat - 48) := by
  refine if_pos ?_
  simpa [Char.isDigit, Char.le_def] using h

/-- Digits spell the number that they stand for. -/
lemma ofDigits?_of_isDigit {digits : List Char} (h : ∀ c ∈ digits, c.isDigit = true) :
    ofDigits? digits = some (Nat.ofDigitChars 10 digits 0) := by
  have hall : ∀ (cs : List Char) (n : Nat), (∀ c ∈ cs, c.isDigit = true) →
      cs.foldlM (fun n c => (digitValue? c).map (n * 10 + ·)) n =
        some (Nat.ofDigitChars 10 cs n) := by
    intro cs
    induction cs with
    | nil => simp
    | cons c cs ih =>
      intro n hcs
      have hc := digitValue?_of_isDigit (hcs c List.mem_cons_self)
      rw [List.foldlM_cons, hc, Nat.ofDigitChars_cons]
      simpa [Nat.mul_comm] using ih _ fun d hd => hcs d (List.mem_cons_of_mem _ hd)
  exact hall digits 0 h

lemma isDigit_of_mem_decimal {c : Char} {n : Nat} (h : c ∈ decimal n) : c.isDigit = true :=
  Nat.isDigit_of_mem_toDigits (by decide) (by decide) h

lemma ofDigits?_decimal (n : Nat) : ofDigits? (decimal n) = some n := by
  rw [ofDigits?_of_isDigit fun _ => isDigit_of_mem_decimal]
  exact congrArg some Nat.ofDigitChars_ten_toDigits

lemma decimal_ne_nil (n : Nat) : decimal n ≠ [] := Nat.toDigits_ne_nil

/-- Only the number zero starts with a zero. -/
lemma head?_decimal_ne_zero {n : Nat} (h : 0 < n) : (decimal n).head? ≠ some '0' := by
  induction n using Nat.strongRecOn with
  | ind n ih =>
    by_cases hsmall : n < 10
    · have hall : ∀ m : Fin 10, 0 < m.val → (decimal m).head? ≠ some '0' := by decide
      exact hall ⟨n, hsmall⟩ h
    · have hfront := ih (n / 10) (by omega) (by omega)
      unfold decimal at hfront ⊢
      rw [Nat.toDigits_of_base_le (by decide) (by omega)]
      rwa [List.head?_append, Option.or_of_isSome (by simp [Nat.toDigits_ne_nil])]

end Text

namespace Json
variable {cs rest left : List Char}

/-- What may stand behind a value: nothing, a gap, a comma or a closing bracket. -/
def Ends (rest : List Char) : Prop :=
  ∀ c ∈ rest.head?, isGap c = true ∨ c = ',' ∨ c = ']' ∨ c = '\x7d'

/-- A character that goes on with a numeral. -/
def isNumeral (c : Char) : Bool :=
  (Text.digitValue? c).isSome || c == '.' || c == 'e' || c == 'E' || c == '-' || c == '+'

lemma Ends.not_isNumeral (h : Ends rest) {c : Char} (hc : c ∈ rest.head?) :
    isNumeral c = false := by
  rcases h c hc with hgap | rfl | rfl | rfl
  · simp only [isGap, decide_eq_true_eq] at hgap
    rcases hgap with rfl | rfl | rfl | rfl <;> decide
  all_goals decide

lemma spanDigits_append (cs : List Char) (h : Ends rest) : Number.spanDigits (cs ++ rest) =
    ((Number.spanDigits cs).1, (Number.spanDigits cs).2 ++ rest) := by
  induction cs with
  | nil =>
    cases rest with
    | nil => rfl
    | cons c rest =>
      have hc := h.not_isNumeral (c := c) rfl
      simp only [isNumeral, Bool.or_eq_false_iff] at hc
      simp [Number.spanDigits, hc]
  | cons c cs ih =>
    simp only [Number.spanDigits, Prod.mk.injEq] at ih ⊢
    by_cases hc : (Text.digitValue? c).isSome <;> simp [hc, ih]

lemma spanWhole_append (h : Ends rest) :
    spanWhole (cs ++ rest) = ((spanWhole cs).1, (spanWhole cs).2 ++ rest) := by
  cases cs with
  | nil =>
    have hspan := spanDigits_append [] h
    cases rest with
    | nil => rfl
    | cons c rest =>
      have hc := h.not_isNumeral (c := c) rfl
      have hzero : c ≠ '0' := by
        rintro rfl
        exact absurd hc (by decide)
      simpa [spanWhole, hzero] using hspan
  | cons c cs =>
    by_cases hzero : c = '0'
    · simp [spanWhole, hzero]
    · have hspan := spanDigits_append (c :: cs) h
      simpa [spanWhole, hzero] using hspan

lemma spanFraction_append (h : Ends rest) :
    spanFraction (cs ++ rest) = ((spanFraction cs).1, (spanFraction cs).2 ++ rest) := by
  cases cs with
  | nil =>
    cases rest with
    | nil => rfl
    | cons c rest =>
      have hc := h.not_isNumeral (c := c) rfl
      have hpoint : c ≠ '.' := by
        rintro rfl
        exact absurd hc (by decide)
      simp [spanFraction, hpoint]
  | cons c cs =>
    by_cases hpoint : c = '.'
    · have hspan := spanDigits_append cs h
      simp only [hpoint, List.cons_append, spanFraction, hspan]
      split_ifs <;> rfl
    · simp [spanFraction, hpoint]

lemma splitSign_append (cs : List Char) (h : Ends rest) : Number.splitSign (cs ++ rest) =
    ((Number.splitSign cs).1, (Number.splitSign cs).2 ++ rest) := by
  cases cs with
  | nil =>
    cases rest with
    | nil => rfl
    | cons c rest =>
      have hc := h.not_isNumeral (c := c) rfl
      have hminus : c ≠ '-' := by
        rintro rfl
        exact absurd hc (by decide)
      have hplus : c ≠ '+' := by
        rintro rfl
        exact absurd hc (by decide)
      simp [Number.splitSign, hminus, hplus]
  | cons c cs =>
    by_cases hminus : c = '-'
    · simp [Number.splitSign, hminus]
    · by_cases hplus : c = '+' <;> simp [Number.splitSign, hminus, hplus]

lemma spanPower_append (h : Ends rest) :
    spanPower (cs ++ rest) = (spanPower cs).map fun found => (found.1, found.2 ++ rest) := by
  cases cs with
  | nil =>
    cases rest with
    | nil => rfl
    | cons c rest =>
      have hc := h.not_isNumeral (c := c) rfl
      have hletter : ¬ (c = 'e' ∨ c = 'E') := by
        rintro (rfl | rfl) <;> exact absurd hc (by decide)
      simp [spanPower, hletter]
  | cons c cs =>
    simp only [List.cons_append, spanPower, splitSign_append _ h, spanDigits_append _ h]
    split_ifs <;> simp [Option.map_map, Function.comp_def]

section
variable {limit : Option Nat} {value : Json}

lemma readNumber_of_ne_minus {c : Char} (h : c ≠ '-') :
    readNumber limit (c :: cs) = readUnsigned limit (c :: cs) false (c :: cs) := by
  simp [readNumber, h]

lemma readUnsigned_append {start body : List Char} {negative : Bool} (h : Ends rest)
    (hread : readUnsigned limit start negative body = .ok (value, left)) :
    readUnsigned limit (start ++ rest) negative (body ++ rest) = .ok (value, left ++ rest) := by
  unfold readUnsigned at hread ⊢
  simp only [spanWhole_append h, spanFraction_append h, spanPower_append h] at hread ⊢
  by_cases hwhole : (spanWhole body).1.isEmpty = true
  · simp [hwhole, fail] at hread
  · rw [if_neg hwhole] at hread ⊢
    cases hpower : spanPower (spanFraction (spanWhole body).2).2 with
    | some found =>
      simp only [hpower, Except.ok.injEq, Prod.mk.injEq] at hread
      simp [hread]
    | none =>
      simp only [hpower, Option.map_none] at hread ⊢
      split_ifs at hread ⊢ <;> simp_all

/-- A numeral is read up to its end, whatever comes behind it. -/
lemma readNumber_append (h : Ends rest) (hread : readNumber limit cs = .ok (value, left)) :
    readNumber limit (cs ++ rest) = .ok (value, left ++ rest) := by
  cases cs with
  | nil => simp [readNumber, readUnsigned, spanWhole, Number.spanDigits, fail] at hread
  | cons c cs =>
    by_cases hminus : c = '-'
    · subst hminus
      exact readUnsigned_append h hread
    · rw [readNumber_of_ne_minus hminus] at hread
      rw [List.cons_append, readNumber_of_ne_minus hminus]
      exact readUnsigned_append h hread

lemma readUnsigned_float {start body : List Char} {negative : Bool} {x : Double}
    (hread : readUnsigned none start negative body = .ok (.float x, left)) :
    readUnsigned limit start negative body = .ok (.float x, left) := by
  unfold readUnsigned at hread ⊢
  dsimp only at hread ⊢
  by_cases hwhole : (spanWhole body).1.isEmpty = true
  · simp [hwhole, fail] at hread
  · rw [if_neg hwhole] at hread ⊢
    cases hpower : spanPower (spanFraction (spanWhole body).2).2 with
    | some found => simpa only [hpower] using hread
    | none =>
      simp only [hpower] at hread ⊢
      split_ifs at hread ⊢ <;> simp_all

end

/-! ### Whole numbers -/

lemma spanDigits_of_isDigit (h : ∀ c ∈ cs, c.isDigit = true) : Number.spanDigits cs = (cs, []) := by
  have hall : ∀ c ∈ cs, (Text.digitValue? c).isSome = true := fun c hc => by
    rw [Text.digitValue?_of_isDigit (h c hc)]
    rfl
  unfold Number.spanDigits
  rw [List.takeWhile_eq_self_iff.mpr hall, List.dropWhile_eq_nil_iff.mpr hall]

lemma spanWhole_decimal (n : Nat) : spanWhole (Text.decimal n) = (Text.decimal n, []) := by
  rcases Nat.eq_zero_or_pos n with rfl | hpos
  · rfl
  · have hhead := Text.head?_decimal_ne_zero hpos
    have hspan := spanDigits_of_isDigit fun c hc => Text.isDigit_of_mem_decimal (n := n) hc
    unfold spanWhole
    split
    · next heq => simp [heq] at hhead
    · exact hspan

/-- A whole number with no more digits than the limit allows. -/
def KeepsLimit (limit : Option Nat) (n : Int) : Prop :=
  ∀ most ∈ limit, (Text.decimal n.natAbs).length ≤ most

section
variable {limit : Option Nat}

lemma readUnsigned_decimal {n : Nat} (h : KeepsLimit limit n) (start : List Char)
    (negative : Bool) : readUnsigned limit start negative (Text.decimal n) =
      .ok (.int (Number.withSign negative n), []) := by
  have hlimit : exceeds limit (Text.decimal n).length = false := by
    cases limit with
    | none => rfl
    | some most => simpa [exceeds] using h most rfl
  unfold readUnsigned
  rw [spanWhole_decimal]
  simp [Text.decimal_ne_nil, spanFraction, spanPower, hlimit, Text.ofDigits?_decimal]

/-- The text of a whole number is read back. -/
lemma readNumber_intText {n : Int} (h : KeepsLimit limit n) :
    readNumber limit (intText n) = .ok (.int n, []) := by
  have habs : KeepsLimit limit (n.natAbs : Int) := h
  unfold intText
  split_ifs with hneg
  · rw [readNumber, readUnsigned_decimal habs]
    simp only [Number.withSign, if_true]
    congr 3
    omega
  · obtain ⟨c, cs, hcs⟩ := List.exists_cons_of_ne_nil (Text.decimal_ne_nil n.natAbs)
    have hc : c ≠ '-' := by
      rintro rfl
      exact absurd (Text.isDigit_of_mem_decimal (n := n.natAbs) (c := '-') (by simp [hcs]))
        (by decide)
    rw [hcs, readNumber_of_ne_minus hc, ← hcs, readUnsigned_decimal habs]
    simp only [Number.withSign, Bool.false_eq_true, if_false]
    congr 3
    omega

end

/-! ### Words -/

section
variable {limit : Option Nat} {value : Json}

lemma isPrefixOf_append {word : List Char} (hword : ∀ c ∈ word, isNumeral c || c.isAlpha)
    (h : Ends rest) : word.isPrefixOf (cs ++ rest) = word.isPrefixOf cs := by
  induction word generalizing cs with
  | nil => simp
  | cons a word ih =>
    cases cs with
    | nil =>
      cases rest with
      | nil => rfl
      | cons c rest =>
        have hne : a ≠ c := by
          rintro rfl
          have ha := hword a List.mem_cons_self
          rcases h a rfl with hgap | rfl | rfl | rfl
          · simp only [isGap, decide_eq_true_eq] at hgap
            rcases hgap with rfl | rfl | rfl | rfl <;> exact absurd ha (by decide)
          all_goals exact absurd ha (by decide)
        simp [List.isPrefixOf, hne]
    | cons c cs => simp [List.isPrefixOf, ih fun d hd => hword d (List.mem_cons_of_mem _ hd)]

/-- Words and numerals are read up to their end, whatever comes behind. -/
lemma readWord_append (h : Ends rest) (hread : readWord limit cs = .ok (value, left)) :
    readWord limit (cs ++ rest) = .ok (value, left ++ rest) := by
  have hwords : ∀ word ∈ words, ∀ c ∈ word.1, (isNumeral c || c.isAlpha) = true := by
    have hall : (words.all fun word => word.1.all fun c => isNumeral c || c.isAlpha) = true := rfl
    simpa only [List.all_eq_true] using hall
  have hfind : (words.find? fun word => word.1.isPrefixOf (cs ++ rest)) =
      words.find? fun word => word.1.isPrefixOf cs :=
    List.find?_congr fun word hmem => isPrefixOf_append (hwords word hmem) h
  unfold readWord at hread ⊢
  rw [hfind]
  split at hread
  · next word v hfound =>
    obtain ⟨rfl, rfl⟩ : v = value ∧ cs.drop word.length = left := by simpa using hread
    have hfits := List.find?_some hfound
    rw [List.drop_append_of_le_length (List.isPrefixOf_iff_prefix.mp hfits).length_le]
  · exact readNumber_append h hread

/-- The limit is for whole numbers only. -/
lemma readWord_float {x : Double} (hread : readWord none cs = .ok (.float x, left)) :
    readWord limit cs = .ok (.float x, left) := by
  unfold readWord at hread ⊢
  split at hread
  · next heq => simpa only [heq] using hread
  · unfold readNumber at hread ⊢
    split at hread <;> exact readUnsigned_float hread

/-- The text of a word or numeral starts with one of these. -/
def startsWord (c : Char) : Bool :=
  (Text.digitValue? c).isSome || ['n', 't', 'f', 'N', 'I', '-'].contains c

lemma startsWord_of_readUnsigned {start body : List Char} {negative : Bool}
    (hread : readUnsigned limit start negative body = .ok (value, left)) :
    ∃ c more, body = c :: more ∧ (Text.digitValue? c).isSome = true := by
  unfold readUnsigned at hread
  cases body with
  | nil => simp [spanWhole, Number.spanDigits, fail] at hread
  | cons c more =>
    refine ⟨c, more, rfl, ?_⟩
    by_contra hc
    have hzero : c ≠ '0' := by
      rintro rfl
      exact hc rfl
    have hwhole : (spanWhole (c :: more)).1 = [] := by
      simp [spanWhole, Number.spanDigits, hzero, hc]
    simp [hwhole, fail] at hread

lemma startsWord_of_readWord (hread : readWord limit cs = .ok (value, left)) :
    ∃ c more, cs = c :: more ∧ startsWord c = true := by
  unfold readWord at hread
  split at hread
  · next word v hfound =>
    have hfits := List.find?_some hfound
    have hprefix := List.isPrefixOf_iff_prefix.mp hfits
    have hall : (words.all fun word => word.1.head?.any startsWord) = true := rfl
    have hword := List.all_eq_true.mp hall _ (List.mem_of_find?_eq_some hfound)
    obtain ⟨c, hc, hstart⟩ := (Option.any_eq_true _ _).mp hword
    obtain ⟨more, rfl⟩ := hprefix
    obtain ⟨w, rfl⟩ : ∃ w, word = c :: w := by
      cases word <;> simp_all
    exact ⟨c, w ++ more, rfl, hstart⟩
  · cases cs with
    | nil => simp [readNumber, readUnsigned, spanWhole, Number.spanDigits, fail] at hread
    | cons c cs =>
      by_cases hminus : c = '-'
      · exact ⟨c, cs, rfl, by rw [hminus]; decide⟩
      · rw [readNumber_of_ne_minus hminus] at hread
        obtain ⟨d, more, heq, hd⟩ := startsWord_of_readUnsigned hread
        obtain ⟨rfl, rfl⟩ := List.cons.inj heq
        exact ⟨c, cs, rfl, by simp [startsWord, hd]⟩

/-- A digit, or a minus sign and a digit, starts no word. -/
lemma readWord_of_isDigit (limit : Option Nat) {c : Char} (h : c.isDigit = true)
    (cs : List Char) :
    readWord limit (c :: cs) = readNumber limit (c :: cs) ∧
      readWord limit ('-' :: c :: cs) = readNumber limit ('-' :: c :: cs) := by
  have hletters : 'n' ≠ c ∧ 't' ≠ c ∧ 'f' ≠ c ∧ 'N' ≠ c ∧ 'I' ≠ c ∧ '-' ≠ c := by
    refine ⟨?_, ?_, ?_, ?_, ?_, ?_⟩ <;> (rintro rfl; exact absurd h (by decide))
  have hnone : (words.find? fun word => word.1.isPrefixOf (c :: cs)) = none := by
    simp [words, List.isPrefixOf, hletters]
  have hnone' : (words.find? fun word => word.1.isPrefixOf ('-' :: c :: cs)) = none := by
    simp [words, List.isPrefixOf, hletters]
  unfold readWord
  rw [hnone, hnone']
  exact ⟨rfl, rfl⟩

lemma readWord_intText {n : Int} (h : KeepsLimit limit n) :
    readWord limit (intText n) = .ok (.int n, []) := by
  obtain ⟨c, cs, hcs⟩ := List.exists_cons_of_ne_nil (Text.decimal_ne_nil n.natAbs)
  have hdigit := Text.isDigit_of_mem_decimal (n := n.natAbs) (c := c) (by simp [hcs])
  obtain ⟨hplain, hminus⟩ := readWord_of_isDigit limit hdigit cs
  rw [← readNumber_intText h]
  unfold intText
  rw [hcs]
  split_ifs
  · exact hminus
  · exact hplain

end

end Json
end Promotion
