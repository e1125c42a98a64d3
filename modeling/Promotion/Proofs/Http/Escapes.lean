import Promotion.Http.Percent
import Promotion.Proofs.Text.Hex

/-! What an encoded path spells. A percent sign stays as it is in a path, so one in front of two
hexadecimal digits is taken for an escape; every other text is spelled out as it was. -/
namespace Promotion.Http
open Text
variable {safe : Char → Bool} {c : Char} {cs ds : List Char}

/-- The bytes of a text. -/
def utf8Bytes (cs : List Char) : List UInt8 := cs.flatMap String.utf8EncodeChar

@[simp] lemma utf8Bytes_cons (c : Char) (cs : List Char) :
    utf8Bytes (c :: cs) = String.utf8EncodeChar c ++ utf8Bytes cs := List.flatMap_cons

lemma utf8Bytes_append (cs ds : List Char) :
    utf8Bytes (cs ++ ds) = utf8Bytes cs ++ utf8Bytes ds := List.flatMap_append

lemma length_utf8EncodeChar_pos (c : Char) : 0 < (String.utf8EncodeChar c).length :=
  List.length_pos_iff.mpr String.utf8EncodeChar_ne_nil

lemma utf8Bytes_injective (h : utf8Bytes cs = utf8Bytes ds) : cs = ds := by
  have hbytes : cs.utf8Encode = ds.utf8Encode := congrArg List.toByteArray h
  have htext : String.ofList cs = String.ofList ds := by
    rw [← String.toByteArray_inj, String.toByteArray_ofList, String.toByteArray_ofList, hbytes]
  exact String.ofList_inj.mp htext

/-! ### Encoded characters -/

lemma percentEncode_cons (safe : Char → Bool) (c : Char) (cs : List Char) :
    percentEncode safe (c :: cs) = percentChar safe c ++ percentEncode safe cs := List.flatMap_cons

lemma percentChar_of_safe (h : safe c) : percentChar safe c = [c] := if_pos h

lemma percentChar_of_not_safe (h : ¬ safe c) :
    percentChar safe c = (String.utf8EncodeChar c).flatMap percentByte := if_neg h

lemma percentByte_eq (b : UInt8) : percentByte b =
    ['%', hexDigit false (b.toNat / 16 % 16), hexDigit false (b.toNat % 16)] := rfl

/-- An encoded character that is not safe begins with a percent sign. -/
lemma exists_percentChar_of_not_safe (h : ¬ safe c) :
    ∃ rest, percentChar safe c = '%' :: rest := by
  obtain ⟨b, bytes, hbytes⟩ := List.exists_cons_of_ne_nil (@String.utf8EncodeChar_ne_nil c)
  rw [percentChar_of_not_safe h, hbytes, List.flatMap_cons]
  exact ⟨_, rfl⟩

lemma mem_percentByte {b : UInt8} (h : c ∈ percentByte b) : c = '%' ∨ isHex c := by
  simp only [percentByte_eq, List.mem_cons, List.not_mem_nil, or_false] at h
  rcases h with rfl | rfl | rfl
  · exact .inl rfl
  · exact .inr (isHex_hexDigit _ (Nat.mod_lt _ (by decide)))
  · exact .inr (isHex_hexDigit _ (Nat.mod_lt _ (by decide)))

/-- What stands in an encoded text. -/
lemma mem_percentEncode (h : c ∈ percentEncode safe cs) :
    (c ∈ cs ∧ safe c) ∨ c = '%' ∨ isHex c := by
  obtain ⟨d, hd, hc⟩ := List.mem_flatMap.mp h
  unfold percentChar at hc
  split_ifs at hc with hsafe
  · cases List.mem_singleton.mp hc
    exact .inl ⟨hd, hsafe⟩
  · obtain ⟨b, -, hc⟩ := List.mem_flatMap.mp hc
    exact .inr (mem_percentByte hc)

lemma pathSafe_of_isHex (h : isHex c) : pathSafe c :=
  of_isHex (p := fun c => pathSafe c = true) h (by decide)

lemma pathSafe_of_mem_percentEncode (h : c ∈ percentEncode pathSafe cs) : pathSafe c := by
  obtain ⟨-, hsafe⟩ | rfl | hhex := mem_percentEncode h
  · exact hsafe
  · decide
  · exact pathSafe_of_isHex hhex

lemma querySafe_of_mem_percentEncode (h : c ∈ percentEncode querySafe cs) : querySafe c := by
  obtain ⟨-, hsafe⟩ | rfl | hhex := mem_percentEncode h
  · exact hsafe
  · decide
  · exact of_isHex (p := fun c => querySafe c = true) hhex (by decide)

/-! ### Escapes -/

def startsHex (cs : List Char) : Bool := cs.head?.any isHex

/-- Two hexadecimal digits stand in front. -/
def hexPair (cs : List Char) : Bool := startsHex cs && startsHex cs.tail

/-- A percent sign stands in front of two hexadecimal digits somewhere. -/
def hasEscape : List Char → Bool
  | [] => false
  | c :: cs => (c == '%' && hexPair cs) || hasEscape cs

lemma exists_of_hexPair (h : hexPair cs) :
    ∃ a b rest, cs = a :: b :: rest ∧ isHex a ∧ isHex b := by
  match cs with
  | [] => cases h
  | [a] => simp [hexPair, startsHex] at h
  | a :: b :: rest => exact ⟨a, b, rest, rfl, by simpa [hexPair, startsHex] using h⟩

lemma startsHex_percentEncode (cs : List Char) :
    startsHex (percentEncode pathSafe cs) = startsHex cs := by
  cases cs with
  | nil => rfl
  | cons c cs =>
    rw [percentEncode_cons]
    by_cases hc : pathSafe c
    · rw [percentChar_of_safe hc]
      rfl
    · obtain ⟨rest, hrest⟩ := exists_percentChar_of_not_safe hc
      have hhex : isHex c = false := by
        by_contra hhex
        exact hc (pathSafe_of_isHex (by simpa using hhex))
      rw [hrest]
      exact hhex.symm

/-- Encoding a path neither makes an escape nor hides one. -/
lemma hexPair_percentEncode (cs : List Char) :
    hexPair (percentEncode pathSafe cs) = hexPair cs := by
  unfold hexPair
  rw [startsHex_percentEncode]
  cases cs with
  | nil => rfl
  | cons c cs =>
    by_cases hc : isHex c
    · rw [percentEncode_cons, percentChar_of_safe (pathSafe_of_isHex hc), List.singleton_append,
        List.tail_cons, List.tail_cons, startsHex_percentEncode]
    · have hstarts : startsHex (c :: cs) = false := by simpa [startsHex] using hc
      rw [hstarts, Bool.false_and, Bool.false_and]

lemma ofHexDigits?_pair (a b : Char) :
    ofHexDigits? [a, b] =
      (hexValue? a).bind fun m => (hexValue? b).map (m * 16 + ·) := by
  cases ha : hexValue? a <;> simp [ofHexDigits?, ha]

lemma percentBytes_cons (h : (c == '%' && hexPair cs) = false) :
    percentBytes (c :: cs) = String.utf8EncodeChar c ++ percentBytes cs := by
  rw [percentBytes.eq_def]
  split
  · next a b rest heq =>
    cases heq
    have hnone : ofHexDigits? [a, b] = none := by
      rw [ofHexDigits?_pair]
      have hpair : (isHex a && isHex b) = false := by simpa [hexPair, startsHex] using h
      cases ha : hexValue? a <;> cases hb : hexValue? b <;> simp_all [isHex]
    rw [hnone]
  · next heq =>
    cases heq
    rfl
  · next heq => cases heq

/-- An escape spells one byte. -/
lemma percentBytes_escape {a b : Char} (ha : isHex a) (hb : isHex b) (rest : List Char) :
    ∃ byte, percentBytes ('%' :: a :: b :: rest) = byte :: percentBytes rest := by
  obtain ⟨m, hm⟩ := Option.isSome_iff_exists.mp ha
  obtain ⟨n, hn⟩ := Option.isSome_iff_exists.mp hb
  rw [percentBytes, ofHexDigits?_pair, hm, hn]
  exact ⟨_, rfl⟩

lemma percentBytes_percentByte (b : UInt8) (cs : List Char) :
    percentBytes (percentByte b ++ cs) = b :: percentBytes cs := by
  have hdigits := ofHexDigits?_hexDigits false 2 b.toNat
  rw [Nat.mod_eq_of_lt (by simpa using b.toNat_lt)] at hdigits
  change ofHexDigits? [hexDigit false (b.toNat / 16 % 16), hexDigit false (b.toNat % 16)] =
    some b.toNat at hdigits
  change percentBytes ('%' :: hexDigit false (b.toNat / 16 % 16) ::
    hexDigit false (b.toNat % 16) :: cs) = _
  rw [percentBytes, hdigits]
  simp

/-- An encoded character spells itself, unless it begins an escape. -/
lemma percentBytes_percentChar (h : (c == '%' && hexPair cs) = false) :
    percentBytes (percentChar pathSafe c ++ cs) = String.utf8EncodeChar c ++ percentBytes cs := by
  by_cases hc : pathSafe c
  · rw [percentChar_of_safe hc, List.singleton_append, percentBytes_cons h]
  · rw [percentChar_of_not_safe hc]
    induction String.utf8EncodeChar c with
    | nil => rfl
    | cons b bytes ih =>
      rw [List.flatMap_cons, List.append_assoc, percentBytes_percentByte, ih, List.cons_append]

/-- The bytes that a text spells in a path. -/
def spelled (cs : List Char) : List UInt8 := percentBytes (percentEncode pathSafe cs)

lemma spelled_cons (h : (c == '%' && hexPair cs) = false) :
    spelled (c :: cs) = String.utf8EncodeChar c ++ spelled cs := by
  unfold spelled
  rw [percentEncode_cons, percentBytes_percentChar (by rwa [hexPair_percentEncode])]

/-- An escape spells less than its two digits alone. -/
lemma length_spelled_escape (h : hexPair cs) :
    (spelled ('%' :: cs)).length < (spelled cs).length := by
  obtain ⟨a, b, rest, rfl, ha, hb⟩ := exists_of_hexPair h
  have hne {c : Char} (hc : isHex c) (cs : List Char) : (c == '%' && hexPair cs) = false := by
    have hpercent : c ≠ '%' := by
      rintro rfl
      exact absurd hc (by decide)
    simp [hpercent]
  obtain ⟨byte, hbyte⟩ := percentBytes_escape ha hb (percentEncode pathSafe rest)
  have hescape : spelled ('%' :: a :: b :: rest) = byte :: spelled rest := by
    unfold spelled
    rw [← hbyte]
    simp only [percentEncode_cons, percentChar_of_safe (pathSafe_of_isHex ha),
      percentChar_of_safe (pathSafe_of_isHex hb), percentChar_of_safe (by decide : pathSafe '%')]
    rfl
  rw [hescape, spelled_cons (hne ha _), spelled_cons (hne hb _)]
  have hlength := length_utf8EncodeChar_pos a
  have hlength' := length_utf8EncodeChar_pos b
  simp only [List.length_cons, List.length_append]
  omega

/-- A text without escapes spells itself; with one it spells less. -/
lemma spelled_cases (cs : List Char) :
    (hasEscape cs = false ∧ spelled cs = utf8Bytes cs) ∨
      (hasEscape cs = true ∧ (spelled cs).length < (utf8Bytes cs).length) := by
  induction cs with
  | nil => exact .inl ⟨rfl, rfl⟩
  | cons c cs ih =>
    cases hc : c == '%' && hexPair cs with
    | false =>
      rw [hasEscape, hc, Bool.false_or, spelled_cons hc, utf8Bytes_cons]
      refine ih.imp (And.imp_right fun h => by rw [h]) (And.imp_right fun h => ?_)
      simp only [List.length_append]
      omega
    | true =>
      obtain ⟨hpercent, hpair⟩ := Bool.and_eq_true_iff.mp hc
      cases beq_iff_eq.mp hpercent
      have hless := length_spelled_escape hpair
      have hle : (spelled cs).length ≤ (utf8Bytes cs).length := by
        obtain ⟨-, heq⟩ | ⟨-, hlt⟩ := ih
        · exact heq ▸ Nat.le_refl _
        · exact Nat.le_of_lt hlt
      refine .inr ⟨by rw [hasEscape, hc, Bool.true_or], ?_⟩
      simp only [utf8Bytes_cons, List.length_append]
      omega

lemma length_spelled_le (cs : List Char) : (spelled cs).length ≤ (utf8Bytes cs).length := by
  obtain ⟨-, heq⟩ | ⟨-, hlt⟩ := spelled_cases cs
  · exact heq ▸ Nat.le_refl _
  · exact Nat.le_of_lt hlt

/-- Exactly the texts without escapes are read back from a path. -/
theorem spelled_eq_iff : spelled cs = utf8Bytes cs ↔ hasEscape cs = false := by
  obtain ⟨hnone, heq⟩ | ⟨hsome, hlt⟩ := spelled_cases cs
  · exact iff_of_true heq hnone
  · refine iff_of_false (fun heq => ?_) (by simp [hsome])
    rw [heq] at hlt
    exact Nat.lt_irrefl _ hlt

end Promotion.Http
