import Promotion.Proofs.Json.Canonical
import Promotion.Proofs.Json.Double

/-! Values on one line of a log. The text is confined to ASCII and holds no control characters, so
that nothing inside a value can end the line, and it is read back as the value. -/
namespace Promotion

namespace Text

/-- A character of ASCII that is no control character. -/
def isPlain (c : Char) : Bool := 0x20 ≤ c.toNat && c.toNat < 0x7f

def Plain (cs : List Char) : Prop := ∀ c ∈ cs, isPlain c = true

instance (cs : List Char) : Decidable (Plain cs) :=
  decidable_of_iff (cs.all isPlain = true) List.all_eq_true

section
variable {c : Char} {cs ds : List Char}

@[simp] lemma plain_nil : Plain [] := List.forall_mem_nil _

@[simp] lemma plain_cons : Plain (c :: cs) ↔ isPlain c = true ∧ Plain cs := List.forall_mem_cons

@[simp] lemma plain_append : Plain (cs ++ ds) ↔ Plain cs ∧ Plain ds := List.forall_mem_append

lemma isPlain_of_isHex (h : isHex c) : isPlain c = true :=
  of_isHex (p := fun c => isPlain c = true) h (by decide)

lemma isPlain_of_isDigit (h : c.isDigit = true) : isPlain c = true := by
  simp only [Char.isDigit, Bool.and_eq_true, decide_eq_true_eq, ge_iff_le,
    UInt32.le_iff_toNat_le] at h
  have hbounds : 48 ≤ c.toNat ∧ c.toNat ≤ 57 := h
  simp only [isPlain, Bool.and_eq_true, decide_eq_true_eq]
  omega

lemma plain_decimal (n : Nat) : Plain (decimal n) :=
  fun _ hc => isPlain_of_isDigit (isDigit_of_mem_decimal hc)

lemma plain_padded (width n : Nat) : Plain (padded width n) := by
  induction width generalizing n with
  | zero => exact plain_nil
  | succ width ih =>
    have hdigit : ∀ d : Fin 10, isPlain (Char.ofNat (48 + d.val)) = true := by decide
    have hlast := hdigit ⟨n % 10, Nat.mod_lt n (by decide)⟩
    simp [padded, ih, hlast]

lemma plain_hexDigits (lower : Bool) (width n : Nat) : Plain (hexDigits lower width n) := by
  induction width generalizing n with
  | zero => exact plain_nil
  | succ width ih =>
    have hlast := isHex_hexDigit lower (Nat.mod_lt n (by decide : 16 > 0))
    simp [hexDigits, ih, isPlain_of_isHex hlast]

lemma half?_of_isPlain (h : isPlain c = true) : half? c = none := by
  simp only [isPlain, Bool.and_eq_true, decide_eq_true_eq] at h
  have hplane : c.toNat / planeSize = 0 := by
    unfold planeSize
    omega
  exact if_neg fun hhalf => absurd (hplane.symm.trans hhalf.1) (by decide)

lemma holdsHalf_eq_false_iff {s : String} :
    holdsHalf s = false ↔ ∀ c ∈ s.toList, half? c = none := by
  simp [holdsHalf]

/-- Plain text has no half of a pair in it. -/
lemma Plain.whole (h : Plain cs) : holdsHalf (String.ofList cs) = false := by
  rw [holdsHalf_eq_false_iff, String.toList_ofList]
  exact fun c hc => half?_of_isPlain (h c hc)

lemma Plain.apart (h : Plain cs) : Apart cs := apart_of_whole fun c hc => half?_of_isPlain (h c hc)

end

end Text

open Text

namespace Double

lemma plain_decimalText {digits : List Char} (h : Plain digits) (lead : Int) :
    Plain (decimalText digits lead) := by
  have hzeros : ∀ n, Plain (List.replicate n '0') := by
    intro n c hc
    rw [List.eq_of_mem_replicate hc]
    decide
  have htake : ∀ n, Plain (digits.take n) := fun _ c hc => h c (List.mem_of_mem_take hc)
  have hdrop : ∀ n, Plain (digits.drop n) := fun _ c hc => h c (List.mem_of_mem_drop hc)
  have htail : Plain digits.tail := fun c hc => h c (List.mem_of_mem_tail hc)
  have hpower := plain_decimal lead.natAbs
  unfold decimalText
  dsimp only
  split_ifs <;> simp [htake, hdrop, htail, hzeros, hpower, h, isPlain]

lemma plain_text (x : Double) : Plain x.text := by
  have hdigits : ∀ n, Plain ((decimal n).reverse.dropWhile (· == '0')).reverse := by
    intro n c hc
    have hin := (List.dropWhile_suffix _).subset (List.mem_reverse.mp hc)
    exact plain_decimal n c (List.mem_reverse.mp hin)
  unfold text
  dsimp only
  split_ifs <;> simp [plain_decimalText (hdigits _), isPlain]

end Double

namespace Json

lemma plain_unitEscape (n : Nat) : Plain (unitEscape n) := by
  simp [unitEscape, plain_hexDigits, isPlain]

lemma plain_wideEscape (c : Char) : Plain (wideEscape c) := by
  unfold wideEscape
  cases half? c <;> simp [plain_unitEscape]

lemma plain_escapedChar (c : Char) : Plain (escapedChar true c) := by
  have hself (hcontrol : ¬ c.toNat < 0x20) (hplain : (!true || decide (c.toNat < 0x7f)) = true) :
      Plain [c] := by
    simp only [Bool.not_true, Bool.false_or, decide_eq_true_eq] at hplain
    simp [isPlain, Nat.not_lt.mp hcontrol, hplain]
  unfold escapedChar
  split_ifs with _ _ _ _ _ _ _ hcontrol hplain <;>
    first
    | exact hself hcontrol hplain
    | exact plain_wideEscape c
    | simp [plain_unitEscape, isPlain]

lemma plain_quotedText (s : String) : Plain (quotedText true s) := by
  have hinside : Plain (s.toList.flatMap (escapedChar true)) := by
    intro c hc
    obtain ⟨d, -, hd⟩ := List.mem_flatMap.mp hc
    exact plain_escapedChar d c hd
  simp [quotedText, hinside, isPlain]

lemma plain_intText (n : Int) : Plain (intText n) := by
  unfold intText
  split <;> simp [plain_decimal, isPlain]

lemma plain_scalarText (x : Json) : Plain (scalarText true x) := by
  cases x with
  | bool b => cases b <;> decide
  | int n => exact plain_intText n
  | float x =>
    simp only [scalarText, floatText]
    split_ifs <;> first | decide | exact x.plain_text
  | str s => exact plain_quotedText s
  | _ => exact (by decide : Plain "null".toList)

lemma plain_comma : Plain Style.line.comma := by decide

lemma plain_colon : Plain Style.line.colon := by decide

lemma plain_key (key : String) : Plain (quotedText Style.line.ascii key) := plain_quotedText key

mutual
/-- The text of a value is plain whatever texts and keys are in it. -/
lemma plain_write (x : Json) : Plain (write .line x) := by
  cases x with
  | arr xs =>
    cases xs with
    | nil => simp [write, isPlain]
    | cons x xs => simp [write, plain_write x, plain_writeItems xs, isPlain]
  | obj fields =>
    cases fields with
    | nil => simp [write, isPlain]
    | cons field fields =>
      obtain ⟨key, x⟩ := field
      simp [write, plain_key, plain_colon, plain_write x, plain_writeFields fields, isPlain]
  | _ => exact plain_scalarText _

lemma plain_writeItems (xs : List Json) : Plain (writeItems .line xs) := by
  cases xs with
  | nil => simp [writeItems, isPlain]
  | cons x xs => simp [writeItems, plain_comma, plain_write x, plain_writeItems xs]

lemma plain_writeFields (fields : List (String × Json)) : Plain (writeFields .line fields) := by
  cases fields with
  | nil => simp [writeFields, isPlain]
  | cons field fields =>
    obtain ⟨key, x⟩ := field
    simp [writeFields, plain_key, plain_comma, plain_colon, plain_write x, plain_writeFields fields]
end

/-! ### Reading a line -/

/-- What a value is made of: an object has no key twice, there is one double that is no number, and
no halves of a pair stand one behind the other, each on its own, in a text or a key. -/
def IsValue : Json → Prop
  | .float x => x.isNaN → x = .nan
  | .str s => Text.Apart s.toList
  | .obj fields =>
    (Fields.keys fields).Nodup ∧ ∀ key ∈ Fields.keys fields, Text.Apart key.toList
  | _ => True

namespace Layout

def line : Layout := ⟨true, fun _ => [], fun _ => [' '], fun _ => [], [' ']⟩

end Layout

end Json
end Promotion
