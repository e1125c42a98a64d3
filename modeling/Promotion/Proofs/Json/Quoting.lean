import Mathlib.Data.List.Chain
import Promotion.Json.Reader
import Promotion.Json.Writer
import Promotion.Proofs.Text.Hex

/-! Quoted texts are read back. Every character is written as one unit or a pair of them, which the
reader joins again. Only in ASCII are halves of pairs on their own written as such, and two of them
are joined if a first one stands right in front of a second one. -/
namespace Promotion

namespace Text
variable {c d : Char} {cs : List Char} {n half : Nat}

lemma toNat_valid (c : Char) : c.toNat < 0xd800 ∨ 0xdfff < c.toNat ∧ c.toNat < 0x110000 := c.valid

lemma toNat_lt (c : Char) : c.toNat < 0x110000 := by
  have hvalid := toNat_valid c
  omega

/-- A character is no half of a pair. -/
lemma isHalf_toNat (c : Char) : isHighHalf c.toNat = false ∧ isLowHalf c.toNat = false := by
  have hvalid := toNat_valid c
  simp only [isHighHalf, isLowHalf, Bool.and_eq_false_iff, decide_eq_false_iff_not]
  omega

/-- A first half is no second half. -/
lemma isLowHalf_of_isHighHalf (h : isHighHalf n = true) : isLowHalf n = false := by
  simp only [isHighHalf, isLowHalf, Bool.and_eq_true, Bool.and_eq_false_iff, decide_eq_true_eq,
    decide_eq_false_iff_not] at h ⊢
  omega

/-- The character that stands in for a half, and which it stands in for. -/
lemma eq_standIn_of_half? (h : half? c = some half) :
    isHalf half = true ∧ half < 0x10000 ∧ 0x10000 ≤ c.toNat ∧ standIn half = c := by
  unfold half? at h
  split at h
  · next hhalf =>
    obtain rfl := Option.some.inj h
    have hcode : standInPlane * planeSize + c.toNat % planeSize = c.toNat := by
      rw [← hhalf.1, Nat.div_add_mod']
    have hbound : c.toNat % planeSize < planeSize := Nat.mod_lt _ (by decide)
    refine ⟨hhalf.2, hbound, ?_, ?_⟩
    · rw [← hcode, standInPlane, planeSize]
      omega
    · rw [standIn, hcode, Char.ofNat_toNat]
  · cases h

/-- Two characters stand in for a first and a second half of a pair. -/
def Joins (c d : Char) : Prop :=
  (∃ half ∈ half? c, isHighHalf half = true) ∧ ∃ half ∈ half? d, isLowHalf half = true

instance : DecidableRel Joins := fun _ _ => inferInstanceAs (Decidable (_ ∧ _))

/-- No first half of a pair stands right in front of a second one. -/
def Apart (cs : List Char) : Prop := cs.IsChain fun c d => ¬ Joins c d

instance (cs : List Char) : Decidable (Apart cs) :=
  inferInstanceAs (Decidable (cs.IsChain fun c d => ¬ Joins c d))

lemma apart_of_whole (h : ∀ c ∈ cs, half? c = none) : Apart cs := by
  induction cs with
  | nil => exact .nil
  | cons c cs ih =>
    obtain ⟨hc, hcs⟩ := List.forall_mem_cons.mp h
    cases cs with
    | nil => exact .singleton c
    | cons d cs =>
      refine .cons_cons (fun hjoins => ?_) (ih hcs)
      obtain ⟨half, hhalf, -⟩ := hjoins.1
      rw [hc] at hhalf
      cases hhalf

end Text

namespace Json
variable {ascii : Bool} {c : Char} {start rest : List Char}

/-- The units of a character from the 65536th on: a pair, or the half that it stands in for. -/
def wideUnits (c : Char) : List Nat :=
  match Text.half? c with
  | some half => [half]
  | none => [Text.highHalf c.toNat, Text.lowHalf c.toNat]

/-- The units that a character is read back from. -/
def charUnits (ascii : Bool) (c : Char) : List Nat :=
  if ascii = true ∧ 0x10000 ≤ c.toNat then wideUnits c else [c.toNat]

/-- Puts several code points before what is read of a text. -/
def consUnits (units : List Nat) (reading : Reading (List Nat)) : Reading (List Nat) :=
  units.foldr consUnit reading

lemma consUnits_ok (units more : List Nat) :
    consUnits units (.ok (more, rest)) = .ok (units ++ more, rest) := by
  induction units with
  | nil => rfl
  | cons n units ih =>
    change consUnit n (consUnits units _) = _
    rw [ih]
    rfl

/-- An escape by number is read as that number, if anything comes behind it. -/
lemma readUnits_unitEscape {n : Nat} (hn : n < 0x10000) (hrest : rest ≠ []) :
    readUnits start (unitEscape n ++ rest) = consUnit n (readUnits start rest) := by
  obtain ⟨first, more, rfl⟩ := List.exists_cons_of_ne_nil hrest
  have hdigits := Text.ofHexDigits?_hexDigits true 4 n
  rw [Nat.mod_eq_of_lt (by simpa using hn)] at hdigits
  unfold unitEscape
  obtain ⟨a, b, c, d, habcd⟩ : ∃ a b c d, Text.hexDigits true 4 n = [a, b, c, d] :=
    ⟨_, _, _, _, rfl⟩
  rw [habcd] at hdigits ⊢
  simp [readUnits, hdigits]

lemma readUnits_plain (hquote : c ≠ '"') (hslash : c ≠ '\\') (hcontrol : ¬ c.toNat < 0x20) :
    readUnits start (c :: rest) = consUnit c.toNat (readUnits start rest) := by
  rw [readUnits.eq_def]
  split
  case h_7 heq =>
    obtain ⟨rfl, rfl⟩ := List.cons.inj heq
    rw [if_neg hcontrol]
  all_goals simp_all

/-- A letter behind a backslash is read as what it stands for. -/
lemma readUnits_escape {e : Char} (he : escape? c = some e) (hu : c ≠ 'u') :
    readUnits start ('\\' :: c :: rest) = consUnit e.toNat (readUnits start rest) := by
  rw [readUnits.eq_def]
  split
  case h_7 hnone heq =>
    obtain ⟨rfl, rfl⟩ := List.cons.inj heq
    exact absurd rfl (hnone _ _ rfl)
  all_goals simp_all

lemma charUnits_of_small (h : c.toNat < 0x10000) : charUnits ascii c = [c.toNat] :=
  if_neg fun hlarge => absurd hlarge.2 (Nat.not_le.mpr h)

lemma readUnits_wideEscape (hlarge : 0x10000 ≤ c.toNat) (hrest : rest ≠ []) :
    readUnits start (wideEscape c ++ rest) = consUnits (wideUnits c) (readUnits start rest) := by
  unfold wideEscape wideUnits
  cases hhalf : Text.half? c with
  | some half =>
    obtain ⟨-, hbound, -, -⟩ := Text.eq_standIn_of_half? hhalf
    exact readUnits_unitEscape hbound hrest
  | none =>
    have hbound := Text.toNat_lt c
    have hlow : unitEscape (Text.lowHalf c.toNat) ++ rest ≠ [] := by simp [unitEscape]
    simp only [List.append_assoc]
    rw [readUnits_unitEscape (by unfold Text.highHalf; omega) hlow,
      readUnits_unitEscape (by unfold Text.lowHalf; omega) hrest]
    rfl

/-- A character between quotes is read as its units. -/
lemma readUnits_escapedChar (hrest : rest ≠ []) :
    readUnits start (escapedChar ascii c ++ rest) =
      consUnits (charUnits ascii c) (readUnits start rest) := by
  have hnamed : ∀ letter e, escape? letter = some e → letter ≠ 'u' → c.toNat = e.toNat →
      e.toNat < 0x10000 → readUnits start (['\\', letter] ++ rest) =
        consUnits (charUnits ascii c) (readUnits start rest) := by
    intro letter e he hu hc hsmall
    rw [charUnits_of_small (hc ▸ hsmall), hc]
    exact readUnits_escape he hu
  unfold escapedChar
  split_ifs with hquote hslash hnewline hreturn htab hback hfeed hcontrol hplain hsmall
  · exact hnamed '"' '"' rfl (by decide) (by rw [hquote]) (by decide)
  · exact hnamed '\\' '\\' rfl (by decide) (by rw [hslash]) (by decide)
  · exact hnamed 'n' '\n' rfl (by decide) (by rw [hnewline]) (by decide)
  · exact hnamed 'r' '\r' rfl (by decide) (by rw [hreturn]) (by decide)
  · exact hnamed 't' '\t' rfl (by decide) (by rw [htab]) (by decide)
  · exact hnamed 'b' (Char.ofNat 8) rfl (by decide) hback (by decide)
  · exact hnamed 'f' (Char.ofNat 12) rfl (by decide) hfeed (by decide)
  · rw [readUnits_unitEscape (by omega) hrest, charUnits_of_small (by omega)]
    rfl
  · have hunits : charUnits ascii c = [c.toNat] := by
      refine if_neg fun ⟨hascii, hlarge⟩ => ?_
      simp only [hascii, Bool.not_true, Bool.false_or, decide_eq_true_eq] at hplain
      omega
    rw [hunits]
    exact readUnits_plain hquote hslash hcontrol
  · rw [readUnits_unitEscape hsmall hrest, charUnits_of_small hsmall]
    rfl
  · have hascii : ascii = true := by simpa using fun h : ascii = false => hplain (by simp [h])
    rw [charUnits, if_pos ⟨hascii, by omega⟩]
    exact readUnits_wideEscape (by omega) hrest

/-- The inside of a quoted text is read up to its closing quote. -/
lemma readUnits_quoted (cs : List Char) :
    readUnits start (cs.flatMap (escapedChar ascii) ++ '"' :: rest) =
      .ok (cs.flatMap (charUnits ascii), rest) := by
  induction cs with
  | nil => simp [readUnits]
  | cons c cs ih =>
    rw [List.flatMap_cons, List.append_assoc, readUnits_escapedChar (by simp), ih, consUnits_ok]
    rfl

/-! ### Joining the units -/

/-- A text that is not confined to ASCII, or in which no halves can be joined. -/
def Legible (ascii : Bool) (cs : List Char) : Prop := ascii = true → Text.Apart cs

/-- The first unit of what comes next is no second half. -/
def Fresh (units : List Nat) : Prop := ∀ n ∈ units.head?, Text.isLowHalf n = false

/-- A first half stays on its own if no second one comes next. -/
lemma joinUnits_some {high : Nat} {units : List Nat} (h : Fresh units) :
    joinUnits (some high) units = charOfUnit high :: joinUnits none units := by
  cases units with
  | nil => rfl
  | cons n units =>
    have hlow : Text.isLowHalf n = false := h n rfl
    cases hhigh : Text.isHighHalf n <;> simp [joinUnits, hlow, hhigh]

/-- The units of a character are joined to the character, if those that come next do not go with
them. -/
lemma joinUnits_charUnits {units : List Nat}
    (h : (∃ half ∈ Text.half? c, Text.isHighHalf half = true) → ascii = true → Fresh units) :
    joinUnits none (charUnits ascii c ++ units) = c :: joinUnits none units := by
  unfold charUnits
  split_ifs with hpair
  · obtain ⟨hascii, hlarge⟩ := hpair
    unfold wideUnits
    cases hhalf : Text.half? c with
    | some half =>
      obtain ⟨hishalf, -, -, hstand⟩ := Text.eq_standIn_of_half? hhalf
      have hchar : charOfUnit half = c := by rw [charOfUnit, if_pos hishalf, hstand]
      cases hhigh : Text.isHighHalf half with
      | true =>
        have hfresh := h ⟨half, hhalf, hhigh⟩ hascii
        simp [joinUnits, hhigh, joinUnits_some hfresh, hchar]
      | false => simp [joinUnits, hhigh, hchar]
    | none =>
      have hfirst := Text.isHighHalf_highHalf (Text.toNat_lt c)
      simp [joinUnits, hfirst, Text.isLowHalf_lowHalf, Text.joinHalves_highHalf_lowHalf hlarge]
  · obtain ⟨hhigh, hlow⟩ := Text.isHalf_toNat c
    simp [joinUnits, hhigh, charOfUnit, Text.isHalf, hlow]

/-- A character begins with a second half only if it stands in for one. -/
lemma fresh_charUnits (h : ∀ half ∈ Text.half? c, Text.isLowHalf half = false)
    (units : List Nat) : Fresh (charUnits ascii c ++ units) := by
  unfold charUnits wideUnits
  split_ifs
  · split
    · next half hhalf =>
      rintro _ ⟨⟩
      exact h half hhalf
    · rintro _ ⟨⟩
      exact Text.isLowHalf_of_isHighHalf (Text.isHighHalf_highHalf (Text.toNat_lt c))
  · rintro _ ⟨⟩
    exact (Text.isHalf_toNat c).2

lemma joinUnits_flatMap_charUnits {cs : List Char} (h : Legible ascii cs) :
    joinUnits none (cs.flatMap (charUnits ascii)) = cs := by
  induction cs with
  | nil => rfl
  | cons c cs ih =>
    have hrest : Legible ascii cs := fun hascii => (h hascii).tail
    rw [List.flatMap_cons, joinUnits_charUnits, ih hrest]
    intro hhigh hascii
    cases cs with
    | nil => rintro _ ⟨⟩
    | cons d cs =>
      have hapart := (List.isChain_cons_cons.mp (h hascii)).1
      rw [List.flatMap_cons]
      refine fresh_charUnits (fun half hhalf => ?_) _
      by_contra hlow
      exact hapart ⟨hhigh, half, hhalf, by simpa using hlow⟩

/-- A quoted text is read back. -/
theorem readText_quoted {s : String} (h : Legible ascii s.toList) (start rest : List Char) :
    readText start (s.toList.flatMap (escapedChar ascii) ++ '"' :: rest) = .ok (s, rest) := by
  rw [readText, readUnits_quoted]
  simp [joinUnits_flatMap_charUnits h]

end Json
end Promotion
