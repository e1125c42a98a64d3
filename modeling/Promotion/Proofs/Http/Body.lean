import Promotion.Http.Exchange
import Promotion.Proofs.Json.Limits
import Promotion.Proofs.Json.Line

/-! Bodies of plain text. The bytes of such a text tell of UTF-8 and hold nothing but the text, so
what is read of a body is what is read of its text. -/
namespace Promotion

lemma fromUTF8?_toUTF8 (s : String) : String.fromUTF8? s.toUTF8 = some s := by
  unfold String.fromUTF8?
  exact dif_pos s.isValidUTF8

namespace Http
variable {cs : List Char} {bytes : List UInt8}

/-- Bytes that stand for plain characters. -/
def PlainBytes (bytes : List UInt8) : Prop := ∀ b ∈ bytes, 0x20 ≤ b ∧ b < 0x7f

lemma plainBytes_of_plain (h : Text.Plain cs) :
    PlainBytes (String.ofList cs).toUTF8.data.toList := by
  rw [String.toUTF8_eq_toByteArray, String.toByteArray_ofList]
  induction cs with
  | nil => nofun
  | cons c cs ih =>
    obtain ⟨hc, hcs⟩ := Text.plain_cons.mp h
    simp only [Text.isPlain, Bool.and_eq_true, decide_eq_true_eq] at hc
    have hbyte : String.utf8EncodeChar c = [UInt8.ofNat c.toNat] :=
      if_pos (show c.toNat ≤ 127 by omega)
    have hfirst : [c].utf8Encode.data.toList = [UInt8.ofNat c.toNat] := by
      simp [List.utf8Encode, hbyte]
    have hvalue : (UInt8.ofNat c.toNat).toNat = c.toNat :=
      UInt8.toNat_ofNat_of_lt' (Nat.lt_trans hc.2 (by decide))
    rw [List.utf8Encode_cons, ByteArray.data_append, Array.toList_append, hfirst]
    refine List.forall_mem_cons.mpr ⟨?_, ih hcs⟩
    rw [UInt8.le_iff_toNat_le, UInt8.lt_iff_toNat_lt, hvalue]
    exact hc

lemma replaceHalves_of_plain (h : PlainBytes bytes) : Encoding.replaceHalves bytes = bytes := by
  induction bytes with
  | nil => rfl
  | cons b bytes ih =>
    obtain ⟨hb, hbytes⟩ := List.forall_mem_cons.mp h
    have hne : b ≠ 0xed := by
      rintro rfl
      exact absurd hb.2 (by decide)
    rw [Encoding.replaceHalves, ih hbytes]
    exact fun _ _ heq _ => hne heq

/-- No mark of byte order is plain. -/
lemma find?_mark_of_plain (h : PlainBytes bytes) :
    (Encoding.marked.find? fun encoding => encoding.mark.isPrefixOf bytes) = none := by
  have hmarks : ∀ encoding ∈ Encoding.marked, ∃ b ∈ encoding.mark, ¬ (0x20 ≤ b ∧ b < 0x7f) := by
    decide
  refine List.find?_eq_none.mpr fun encoding hencoding hfront => ?_
  obtain ⟨b, hb, hplain⟩ := hmarks encoding hencoding
  exact hplain (h b ((List.isPrefixOf_iff_prefix.mp hfront).subset hb))

lemma ofZeros_of_plain (h : PlainBytes bytes) : Encoding.ofZeros bytes = .utf8 := by
  have hzero : (0 : UInt8) ∉ bytes := fun hmem => absurd (h 0 hmem).1 (by decide)
  unfold Encoding.ofZeros
  split <;> first | rfl | simp at hzero

lemma detect_of_plain (h : PlainBytes bytes) : Encoding.detect bytes = (.utf8, bytes) := by
  rw [Encoding.detect, find?_mark_of_plain h]
  simp only [ofZeros_of_plain h]

/-- The text of a body that is plain. -/
theorem jsonText?_of_plain (h : Text.Plain cs) :
    jsonText? (String.ofList cs).toUTF8.data.toList = some (String.ofList cs) := by
  have hbytes := plainBytes_of_plain h
  rw [jsonText?, detect_of_plain hbytes]
  simp only [Encoding.decode?, replaceHalves_of_plain hbytes]
  exact fromUTF8?_toUTF8 (String.ofList cs)

/-- A body of brackets alone is nested too deep if it is longer than the limit. -/
theorem bodyJson_brackets {limits : Json.Limits} {n : Nat} (h : limits.depth < n) :
    bodyJson limits (String.ofList (List.replicate n '[')).toUTF8 = .error .tooDeep := by
  have hplain : Text.Plain (List.replicate n '[') := by
    intro c hc
    rw [List.eq_of_mem_replicate hc]
    decide
  rw [bodyJson, jsonText?_of_plain hplain, Option.map_some, Json.readWithin_brackets h]

end Http
end Promotion
