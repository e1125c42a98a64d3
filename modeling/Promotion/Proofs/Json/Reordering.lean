import Mathlib.Data.List.Nodup
import Mathlib.Tactic.Common
import Promotion.Json.Writer

/-! Values that differ in the order of keys only. Sorting the keys of a value picks one of each such
class, provided that no object has a key twice. -/
namespace Promotion.Json

/-- One value is reached from the other by putting the fields of objects in another order, of the
value itself and of anything inside. -/
inductive Reordered : Json → Json → Prop
  | refl (x : Json) : Reordered x x
  | trans {x y z : Json} : Reordered x y → Reordered y z → Reordered x z
  | fields {xs ys : Fields} : xs.Perm ys → Reordered (.obj xs) (.obj ys)
  | item (before after : List Json) {x y : Json} : Reordered x y →
      Reordered (.arr (before ++ x :: after)) (.arr (before ++ y :: after))
  | value (before after : Fields) (key : String) {x y : Json} : Reordered x y →
      Reordered (.obj (before ++ (key, x) :: after)) (.obj (before ++ (key, y) :: after))

lemma Reordered.symm {x y : Json} (h : Reordered x y) : Reordered y x := by
  induction h with
  | refl x => exact .refl x
  | trans _ _ ih ih' => exact ih'.trans ih
  | fields h => exact .fields h.symm
  | item before after _ ih => exact .item before after ih
  | value before after key _ ih => exact .value before after key ih

/-! ### What holds everywhere inside -/

/-- Induction over the items of arrays and the values in objects. -/
@[elab_as_elim]
theorem induction_on {motive : Json → Prop} (null : motive .null) (bool : ∀ b, motive (.bool b))
    (int : ∀ n, motive (.int n)) (float : ∀ x, motive (.float x)) (str : ∀ s, motive (.str s))
    (arr : ∀ xs, (∀ x ∈ xs, motive x) → motive (.arr xs))
    (obj : ∀ fields, (∀ field ∈ fields, motive field.2) → motive (.obj fields)) :
    (x : Json) → motive x
  | .null => null
  | .bool b => bool b
  | .int n => int n
  | .float x => float x
  | .str s => str s
  | .arr xs => arr xs fun x _ => induction_on null bool int float str arr obj x
  | .obj fields => obj fields fun field _ => induction_on null bool int float str arr obj field.2
termination_by x => sizeOf x
decreasing_by
  · have := List.sizeOf_lt_of_mem ‹x ∈ xs›
    simp
    omega
  · have := List.sizeOf_lt_of_mem ‹field ∈ fields›
    cases field
    simp at this ⊢
    omega

mutual
/-- A property of a value and of all values inside. -/
def Everywhere (P : Json → Prop) : Json → Prop
  | .arr xs => P (.arr xs) ∧ EverywhereInItems P xs
  | .obj fields => P (.obj fields) ∧ EverywhereInFields P fields
  | x => P x

def EverywhereInItems (P : Json → Prop) : List Json → Prop
  | [] => True
  | x :: xs => Everywhere P x ∧ EverywhereInItems P xs

def EverywhereInFields (P : Json → Prop) : List (String × Json) → Prop
  | [] => True
  | (_, x) :: xs => Everywhere P x ∧ EverywhereInFields P xs
end

section
variable {P : Json → Prop} [DecidablePred P]

mutual
def decideEverywhere : (x : Json) → Decidable (x.Everywhere P)
  | .arr xs => @instDecidableAnd _ _ _ (decideEverywhereInItems xs)
  | .obj fields => @instDecidableAnd _ _ _ (decideEverywhereInFields fields)
  | .null => inferInstanceAs (Decidable (P .null))
  | .bool b => inferInstanceAs (Decidable (P (.bool b)))
  | .int n => inferInstanceAs (Decidable (P (.int n)))
  | .float x => inferInstanceAs (Decidable (P (.float x)))
  | .str s => inferInstanceAs (Decidable (P (.str s)))

def decideEverywhereInItems : (xs : List Json) → Decidable (EverywhereInItems P xs)
  | [] => inferInstanceAs (Decidable True)
  | x :: xs => @instDecidableAnd _ _ (decideEverywhere x) (decideEverywhereInItems xs)

def decideEverywhereInFields : (fields : List (String × Json)) →
    Decidable (EverywhereInFields P fields)
  | [] => inferInstanceAs (Decidable True)
  | (_, x) :: fields => @instDecidableAnd _ _ (decideEverywhere x) (decideEverywhereInFields fields)
end

instance : DecidablePred (Everywhere P) := decideEverywhere

end

section
variable {P : Json → Prop}

lemma Everywhere.self {x : Json} (h : x.Everywhere P) : P x := by
  cases x <;> simp only [Everywhere] at h
  case arr => exact h.1
  case obj => exact h.1
  all_goals exact h

lemma everywhereInItems_iff {xs : List Json} :
    EverywhereInItems P xs ↔ ∀ x ∈ xs, x.Everywhere P := by
  induction xs with
  | nil => simp [EverywhereInItems]
  | cons x xs ih => simp [EverywhereInItems, ih]

lemma everywhereInFields_iff {fields : Fields} :
    EverywhereInFields P fields ↔ ∀ field ∈ fields, field.2.Everywhere P := by
  induction fields with
  | nil => simp [EverywhereInFields]
  | cons field fields ih => simp [EverywhereInFields, ih]

lemma everywhere_arr_iff {xs : List Json} :
    (Json.arr xs).Everywhere P ↔ P (.arr xs) ∧ ∀ x ∈ xs, x.Everywhere P := by
  rw [Everywhere, everywhereInItems_iff]

lemma everywhere_obj_iff {fields : Fields} : (Json.obj fields).Everywhere P ↔
    P (.obj fields) ∧ ∀ field ∈ fields, field.2.Everywhere P := by
  rw [Everywhere, everywhereInFields_iff]

lemma Everywhere.mono {Q : Json → Prop} {x : Json} (hx : x.Everywhere P) (h : ∀ x, P x → Q x) :
    x.Everywhere Q := by
  induction x using induction_on with
  | arr xs ih =>
    rw [everywhere_arr_iff] at hx ⊢
    exact ⟨h _ hx.1, fun y hy => ih y hy (hx.2 y hy)⟩
  | obj fields ih =>
    rw [everywhere_obj_iff] at hx ⊢
    exact ⟨h _ hx.1, fun field hfield => ih field hfield (hx.2 field hfield)⟩
  | _ => exact h _ hx

lemma Everywhere.and {Q : Json → Prop} {x : Json} (hP : x.Everywhere P) (hQ : x.Everywhere Q) :
    x.Everywhere fun y => P y ∧ Q y := by
  induction x using induction_on with
  | arr xs ih =>
    rw [everywhere_arr_iff] at hP hQ ⊢
    exact ⟨⟨hP.1, hQ.1⟩, fun y hy => ih y hy (hP.2 y hy) (hQ.2 y hy)⟩
  | obj fields ih =>
    rw [everywhere_obj_iff] at hP hQ ⊢
    exact ⟨⟨hP.1, hQ.1⟩,
      fun field hfield => ih field hfield (hP.2 field hfield) (hQ.2 field hfield)⟩
  | _ => exact ⟨hP, hQ⟩

lemma everywhere_of_forall (h : ∀ x, P x) (x : Json) : x.Everywhere P := by
  induction x using induction_on with
  | arr xs ih => exact everywhere_arr_iff.mpr ⟨h _, ih⟩
  | obj fields ih => exact everywhere_obj_iff.mpr ⟨h _, ih⟩
  | _ => exact h _

/-- A property of objects that depends on their set of keys only. -/
structure IgnoresOrder (P : Json → Prop) : Prop where
  obj : ∀ {xs ys : Fields}, (Fields.keys xs).Perm (Fields.keys ys) → P (.obj xs) → P (.obj ys)
  arr : ∀ {xs ys : List Json}, P (.arr xs) → P (.arr ys)

lemma Everywhere.reordered (hP : IgnoresOrder P) {x y : Json} (hx : x.Everywhere P)
    (h : Reordered x y) : y.Everywhere P := by
  induction h with
  | refl x => exact hx
  | trans _ _ ih ih' => exact ih' (ih hx)
  | fields h =>
    rw [everywhere_obj_iff] at hx ⊢
    exact ⟨hP.obj (h.map _) hx.1, fun field hmem => hx.2 field (h.symm.subset hmem)⟩
  | item before after _ ih =>
    rw [everywhere_arr_iff] at hx ⊢
    refine ⟨hP.arr hx.1, fun z hz => ?_⟩
    simp only [List.mem_append, List.mem_cons] at hz hx
    rcases hz with hz | rfl | hz
    · exact hx.2 z (.inl hz)
    · exact ih (hx.2 _ (.inr (.inl rfl)))
    · exact hx.2 z (.inr (.inr hz))
  | value before after key _ ih =>
    rw [everywhere_obj_iff] at hx ⊢
    refine ⟨hP.obj (by simp [Fields.keys]) hx.1, fun z hz => ?_⟩
    simp only [List.mem_append, List.mem_cons] at hz hx
    rcases hz with hz | rfl | hz
    · exact hx.2 z (.inl hz)
    · exact ih (hx.2 _ (.inr (.inl rfl)))
    · exact hx.2 z (.inr (.inr hz))

end

/-! ### Sorted keys -/

lemma sortItems_eq_map (xs : List Json) : sortItems xs = xs.map sortKeys := by
  induction xs with
  | nil => rfl
  | cons x xs ih => simp [sortItems, ih]

lemma sortFields_eq_map (fields : Fields) :
    sortFields fields = fields.map fun field => (field.1, sortKeys field.2) := by
  induction fields with
  | nil => rfl
  | cons field fields ih => simp [sortFields, ih]

/-- Fields by the order of their keys. -/
def byKey (a b : String × Json) : Bool := a.1 ≤ b.1

lemma pairwise_mergeSort_byKey (fields : Fields) :
    (fields.mergeSort byKey).Pairwise fun a b => byKey a b = true :=
  List.pairwise_mergeSort
    (fun a b c => by simpa [byKey] using String.le_trans)
    (fun a b => by simpa [byKey] using String.le_total a.1 b.1) fields

/-- Fields with distinct keys have one sorted order. -/
lemma mergeSort_byKey_eq_of_perm {xs ys : Fields} (h : xs.Perm ys)
    (hkeys : (Fields.keys xs).Nodup) : xs.mergeSort byKey = ys.mergeSort byKey := by
  refine List.Perm.eq_of_pairwise ?_ (pairwise_mergeSort_byKey xs) (pairwise_mergeSort_byKey ys)
    ((List.mergeSort_perm xs byKey).trans (h.trans (List.mergeSort_perm ys byKey).symm))
  intro a b ha hb hab hba
  simp only [byKey, decide_eq_true_eq] at hab hba
  exact List.inj_on_of_nodup_map hkeys (List.mem_mergeSort.mp ha)
    (h.symm.subset (List.mem_mergeSort.mp hb)) (String.le_antisymm hab hba)

lemma sortKeys_obj (fields : Fields) : sortKeys (.obj fields) =
    .obj ((fields.map fun field => (field.1, sortKeys field.2)).mergeSort byKey) := by
  rw [sortKeys, sortFields_eq_map]
  rfl

lemma sortKeys_arr (xs : List Json) : sortKeys (.arr xs) = .arr (xs.map sortKeys) := by
  rw [sortKeys, sortItems_eq_map]

mutual
theorem sortKeys_sortKeys (x : Json) : sortKeys (sortKeys x) = sortKeys x := by
  cases x with
  | arr xs => rw [sortKeys, sortKeys, sortKeys_sortItems]
  | obj fields =>
    rw [sortKeys, sortKeys, sortFields_eq_map]
    have hsorted : ((sortFields fields).mergeSort fun a b => a.1 ≤ b.1).map
        (fun field => (field.1, sortKeys field.2)) =
          (sortFields fields).mergeSort fun a b => a.1 ≤ b.1 := by
      conv_rhs => rw [← List.map_id ((sortFields fields).mergeSort _)]
      refine List.map_congr_left fun field hfield => ?_
      rw [sortKeys_of_mem_sortFields fields field (List.mem_mergeSort.mp hfield)]
      rfl
    rw [hsorted]
    exact congrArg Json.obj (List.mergeSort_of_pairwise (pairwise_mergeSort_byKey _))
  | _ => rfl

theorem sortKeys_sortItems (xs : List Json) : sortItems (sortItems xs) = sortItems xs := by
  cases xs with
  | nil => rfl
  | cons x xs => simp only [sortItems, sortKeys_sortKeys x, sortKeys_sortItems xs]

theorem sortKeys_of_mem_sortFields (fields : List (String × Json)) (field : String × Json)
    (h : field ∈ sortFields fields) : sortKeys field.2 = field.2 := by
  cases fields with
  | nil => simp [sortFields] at h
  | cons first fields =>
    obtain ⟨key, x⟩ := first
    simp only [sortFields, List.mem_cons] at h
    rcases h with rfl | h
    · exact sortKeys_sortKeys x
    · exact sortKeys_of_mem_sortFields fields field h
end

mutual
theorem reordered_sortKeys (x : Json) : Reordered x (sortKeys x) := by
  cases x with
  | arr xs => exact reordered_sortItems [] xs
  | obj fields =>
    exact (reordered_sortFields [] fields).trans (.fields (List.mergeSort_perm _ _).symm)
  | _ => exact .refl _

/-- The items in front are kept as they are, so that the induction can put sorted ones there. -/
theorem reordered_sortItems (before xs : List Json) :
    Reordered (.arr (before ++ xs)) (.arr (before ++ sortItems xs)) := by
  cases xs with
  | nil => exact .refl _
  | cons x xs =>
    have hrest := reordered_sortItems (before ++ [sortKeys x]) xs
    simp only [List.append_assoc, List.singleton_append] at hrest
    exact (Reordered.item before xs (reordered_sortKeys x)).trans hrest

theorem reordered_sortFields (before fields : List (String × Json)) :
    Reordered (.obj (before ++ fields)) (.obj (before ++ sortFields fields)) := by
  cases fields with
  | nil => exact .refl _
  | cons field fields =>
    obtain ⟨key, x⟩ := field
    have hrest := reordered_sortFields (before ++ [(key, sortKeys x)]) fields
    simp only [List.append_assoc, List.singleton_append] at hrest
    exact (Reordered.value before fields key (reordered_sortKeys x)).trans hrest
end

/-- Objects have no key twice. -/
def HasDistinctKeys : Json → Prop
  | .obj fields => (Fields.keys fields).Nodup
  | _ => True

lemma ignoresOrder_hasDistinctKeys : IgnoresOrder HasDistinctKeys :=
  ⟨fun h hxs => h.nodup hxs, fun _ => trivial⟩

lemma sortKeys_eq_of_reordered {x y : Json} (hx : x.Everywhere HasDistinctKeys)
    (h : Reordered x y) : sortKeys x = sortKeys y := by
  induction h with
  | refl x => rfl
  | trans h _ ih ih' => exact (ih hx).trans (ih' (hx.reordered ignoresOrder_hasDistinctKeys h))
  | fields h =>
    have hkeys : (Fields.keys _).Nodup := hx.self
    rw [sortKeys_obj, sortKeys_obj, mergeSort_byKey_eq_of_perm (h.map _)]
    simpa [Fields.keys, Function.comp_def] using hkeys
  | item before after _ ih =>
    rw [everywhere_arr_iff] at hx
    rw [sortKeys_arr, sortKeys_arr]
    simp [ih (hx.2 _ (by simp))]
  | value before after key _ ih =>
    rw [everywhere_obj_iff] at hx
    rw [sortKeys_obj, sortKeys_obj]
    simp [ih (hx.2 (key, _) (by simp))]

/-- Sorted keys are a normal form up to the order of keys. -/
theorem sortKeys_eq_iff_reordered {x y : Json} (hx : x.Everywhere HasDistinctKeys) :
    sortKeys x = sortKeys y ↔ Reordered x y := by
  constructor
  · intro h
    exact (reordered_sortKeys x).trans (h ▸ (reordered_sortKeys y).symm)
  · exact sortKeys_eq_of_reordered hx

end Promotion.Json
