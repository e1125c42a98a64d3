import Promotion.Proofs.Json.Line

/-! Halves of pairs on their own. The canonical texts of a value hold one just if a text or a key in
the value does, and so it can be seen from a value whether it may be printed or sent. -/
namespace Promotion

namespace Text
variable {c : Char} {cs ds : List Char}

/-- No half of a pair stands on its own. -/
def Whole (cs : List Char) : Prop := ∀ c ∈ cs, half? c = none

instance (cs : List Char) : Decidable (Whole cs) :=
  inferInstanceAs (Decidable (∀ c ∈ cs, half? c = none))

@[simp] lemma whole_nil : Whole [] := List.forall_mem_nil _

@[simp] lemma whole_cons : Whole (c :: cs) ↔ half? c = none ∧ Whole cs := List.forall_mem_cons

@[simp] lemma whole_append : Whole (cs ++ ds) ↔ Whole cs ∧ Whole ds := List.forall_mem_append

lemma holdsHalf_eq_false_iff_whole {s : String} : holdsHalf s = false ↔ Whole s.toList :=
  holdsHalf_eq_false_iff

lemma holdsHalf_append (s t : String) : holdsHalf (s ++ t) = (holdsHalf s || holdsHalf t) := by
  simp [holdsHalf, String.toList_append]

/-- What is left of a text of whole characters has only such. -/
lemma holdsHalf_strip {s : String} (h : holdsHalf s = false) : holdsHalf (strip s) = false := by
  have hsub : trimBy isBlankChar s.toList ⊆ s.toList := fun c hc =>
    (List.dropWhile_suffix _).subset (List.mem_reverse.mp
      ((List.dropWhile_suffix _).subset (List.mem_reverse.mp hc)))
  rw [holdsHalf_eq_false_iff] at h ⊢
  rw [strip, String.toList_ofList]
  exact fun c hc => h c (hsub hc)

lemma whole_of_plain (h : Plain cs) : Whole cs := fun c hc => half?_of_isPlain (h c hc)

/-- There is no half of a pair among the first characters. -/
lemma half?_of_lt (h : c.toNat < planeSize) : half? c = none := by
  refine if_neg fun hhalf => ?_
  rw [Nat.div_eq_of_lt h] at hhalf
  exact absurd hhalf.1 (by decide)

lemma whole_of_blank (h : ∀ c ∈ cs, Json.isGap c = true) : Whole cs := by
  intro c hc
  have hgap := h c hc
  simp only [Json.isGap, decide_eq_true_eq] at hgap
  rcases hgap with rfl | rfl | rfl | rfl <;> decide

end Text

namespace Json
open Text
variable {x : Json} {s : String} {l : Layout} {xs : List Json} {fields : Fields} {depth : Nat}

/-- No half of a pair stands on its own in a text or a key. -/
def WholeTexts : Json → Prop
  | .str s => holdsHalf s = false
  | .obj fields => ∀ key ∈ Fields.keys fields, holdsHalf key = false
  | _ => True

instance : DecidablePred WholeTexts
  | .str s => inferInstanceAs (Decidable (holdsHalf s = false))
  | .obj fields => inferInstanceAs (Decidable (∀ key ∈ Fields.keys fields, holdsHalf key = false))
  | .null | .bool _ | .int _ | .float _ | .arr _ => inferInstanceAs (Decidable True)

lemma ignoresOrder_wholeTexts : IgnoresOrder WholeTexts :=
  ⟨fun h hxs key hkey => hxs key (h.symm.subset hkey), fun _ => trivial⟩

/-- What is written in the place of a character is the character itself, or it is plain and the
character is one of the first. -/
lemma whole_escapedChar (c : Char) : Whole (escapedChar false c) ↔ half? c = none := by
  have hescaped {cs : List Char} (hplain : Plain cs) (hc : c.toNat < planeSize) :
      Whole cs ↔ half? c = none := iff_of_true (whole_of_plain hplain) (half?_of_lt hc)
  unfold escapedChar
  split_ifs with hquote hslash hnewline hreturn htab hback hfeed hcontrol hself
  · exact hescaped (by decide) (by rw [hquote]; decide)
  · exact hescaped (by decide) (by rw [hslash]; decide)
  · exact hescaped (by decide) (by rw [hnewline]; decide)
  · exact hescaped (by decide) (by rw [hreturn]; decide)
  · exact hescaped (by decide) (by rw [htab]; decide)
  · exact hescaped (by decide) (by rw [hback]; decide)
  · exact hescaped (by decide) (by rw [hfeed]; decide)
  · exact hescaped (plain_unitEscape _) (hcontrol.trans (by decide))
  · simp
  all_goals simp at hself

lemma whole_quotedText : Whole (quotedText false s) ↔ holdsHalf s = false := by
  have hinside : Whole (s.toList.flatMap (escapedChar false)) ↔ Whole s.toList := by
    simp only [Whole, List.forall_mem_flatMap]
    exact forall₂_congr fun c _ => whole_escapedChar c
  have hquote : half? '"' = none := by decide
  rw [holdsHalf_eq_false_iff_whole, quotedText]
  simp [hinside, hquote]

lemma half?_mark : half? '[' = none ∧ half? ']' = none ∧ half? '\x7b' = none ∧
    half? '\x7d' = none ∧ half? ',' = none ∧ half? ':' = none := by decide

/-- Only texts depend on whether they are confined to ASCII. -/
lemma plain_scalarText_of_isWord (h : IsWord x) (ascii : Bool) : Plain (scalarText ascii x) := by
  have hplain := plain_scalarText x
  cases x with
  | str => exact h.elim
  | bool b => cases b <;> exact hplain
  | _ => exact hplain

mutual
/-- Texts and keys are all there is in a layout that can hold half of a pair. -/
lemma whole_layOut_iff (hl : l.Blank) (hascii : l.ascii = false) (depth : Nat) (x : Json) :
    Whole (layOut l depth x) ↔ x.Everywhere WholeTexts := by
  cases x with
  | str s =>
    change Whole (quotedText l.ascii s) ↔ _
    rw [hascii]
    exact whole_quotedText
  | arr xs =>
    cases xs with
    | nil => simp [layOut, Everywhere, EverywhereInItems, WholeTexts, half?_mark]
    | cons x xs =>
      simp [layOut, Everywhere, EverywhereInItems, WholeTexts, half?_mark,
        whole_of_blank (hl.first depth), whole_layOut_iff hl hascii (depth + 1) x,
        whole_layOutItems_iff hl hascii depth xs]
  | obj fields =>
    cases fields with
    | nil => simp [layOut, Everywhere, EverywhereInFields, WholeTexts, half?_mark, Fields.keys]
    | cons field fields =>
      obtain ⟨key, x⟩ := field
      simp [layOut, Everywhere, EverywhereInFields, WholeTexts, half?_mark, hascii,
        whole_of_blank (hl.first depth), whole_of_blank hl.colon, whole_quotedText,
        whole_layOut_iff hl hascii (depth + 1) x, whole_layOutFields_iff hl hascii depth fields,
        Fields.keys]
      tauto
  | _ =>
    rw [layOut_of_isWord (by trivial)]
    exact iff_of_true (whole_of_plain (plain_scalarText_of_isWord (by trivial) _)) trivial

lemma whole_layOutItems_iff (hl : l.Blank) (hascii : l.ascii = false) (depth : Nat)
    (xs : List Json) : Whole (layOutItems l depth xs) ↔ EverywhereInItems WholeTexts xs := by
  cases xs with
  | nil => simp [layOutItems, EverywhereInItems, whole_of_blank (hl.last depth), half?_mark]
  | cons x xs =>
    simp [layOutItems, EverywhereInItems, whole_of_blank (hl.next depth), half?_mark,
      whole_layOut_iff hl hascii (depth + 1) x, whole_layOutItems_iff hl hascii depth xs]

lemma whole_layOutFields_iff (hl : l.Blank) (hascii : l.ascii = false) (depth : Nat)
    (fields : Fields) : Whole (layOutFields l depth fields) ↔
      (∀ key ∈ Fields.keys fields, holdsHalf key = false) ∧
        EverywhereInFields WholeTexts fields := by
  cases fields with
  | nil =>
    simp [layOutFields, EverywhereInFields, whole_of_blank (hl.last depth), half?_mark,
      Fields.keys]
  | cons field fields =>
    obtain ⟨key, x⟩ := field
    simp [layOutFields, EverywhereInFields, whole_of_blank (hl.next depth), half?_mark, hascii,
      whole_of_blank hl.colon, whole_quotedText, whole_layOut_iff hl hascii (depth + 1) x,
      whole_layOutFields_iff hl hascii depth fields, Fields.keys]
    tauto
end

/-- To see whether a value is whole it can be written with its keys as they are. -/
lemma everywhere_wholeTexts_iff : x.Everywhere WholeTexts ↔ Whole (write .canonical x) := by
  rw [write_eq_layOut Layout.oneLine_canonical 0, whole_layOut_iff Layout.blank_canonical rfl]

lemma everywhere_wholeTexts_sortKeys :
    x.sortKeys.Everywhere WholeTexts ↔ x.Everywhere WholeTexts :=
  ⟨fun h => h.reordered ignoresOrder_wholeTexts (reordered_sortKeys x).symm,
    fun h => h.reordered ignoresOrder_wholeTexts (reordered_sortKeys x)⟩

/-- Half of a pair stands in a canonical text just if it stands in the value. -/
theorem holdsHalf_canonical_iff :
    holdsHalf x.canonical = false ↔ x.Everywhere WholeTexts := by
  rw [canonical, holdsHalf_eq_false_iff_whole, String.toList_ofList,
    ← everywhere_wholeTexts_iff, everywhere_wholeTexts_sortKeys]

/-- A value whose canonical texts can be printed or sent: it keeps to the limits, and no half of a
pair stands on its own in it. -/
structure Printable (limits : Limits) (x : Json) : Prop where
  keeps : x.KeepsTo limits
  whole : x.Everywhere WholeTexts

/-- What a value that can be printed is made of. -/
def Tame (limits : Limits) (x : Json) : Prop := WholeTexts x ∧ InLimit limits.digits x

section
variable {limits : Limits}

lemma tame_str_iff : (Json.str s).Everywhere (Tame limits) ↔ holdsHalf s = false :=
  ⟨fun h => h.1, fun h => ⟨h, trivial⟩⟩

lemma tame_int_iff {n : Int} :
    (Json.int n).Everywhere (Tame limits) ↔ KeepsLimit limits.digits n :=
  ⟨fun h => h.2, fun h => ⟨trivial, h⟩⟩

lemma tame_arr_iff :
    (Json.arr xs).Everywhere (Tame limits) ↔ ∀ x ∈ xs, x.Everywhere (Tame limits) := by
  rw [everywhere_arr_iff]
  exact and_iff_right ⟨trivial, trivial⟩

lemma tame_obj_iff : (Json.obj fields).Everywhere (Tame limits) ↔
    (∀ key ∈ Fields.keys fields, holdsHalf key = false) ∧
      ∀ field ∈ fields, field.2.Everywhere (Tame limits) := by
  rw [everywhere_obj_iff]
  exact and_congr_left fun _ => ⟨fun h => h.1, fun h => ⟨h, trivial⟩⟩

end

end Json
end Promotion
