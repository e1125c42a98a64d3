import Promotion.Proofs.Json.Numeral
import Promotion.Proofs.Json.Reordering

/-! Values within limits. A value has a text if and only if it keeps to the limits, and a value that
keeps to some limits keeps to all wider ones and in every order of its keys. -/
namespace Promotion.Json

mutual
/-- How many arrays and objects stand inside each other. -/
def depth : Json → Nat
  | .arr xs => depthOfItems xs + 1
  | .obj fields => depthOfFields fields + 1
  | _ => 0

def depthOfItems : List Json → Nat
  | [] => 0
  | x :: xs => max (depth x) (depthOfItems xs)

def depthOfFields : List (String × Json) → Nat
  | [] => 0
  | (_, x) :: xs => max (depth x) (depthOfFields xs)
end

/-- Whole numbers have no more digits than the limit allows. -/
def InLimit (limit : Option Nat) : Json → Prop
  | .int n => KeepsLimit limit n
  | _ => True

/-- A value that limits let through. -/
structure KeepsTo (limits : Limits) (x : Json) : Prop where
  depth : x.depth ≤ limits.depth
  digits : x.Everywhere (InLimit limits.digits)

variable {limit : Option Nat} {limits wider : Limits} {n : Nat} {x y : Json} {xs : List Json}
  {fields : Fields}

/-! ### Depth -/

lemma depthOfItems_le_iff : depthOfItems xs ≤ n ↔ ∀ x ∈ xs, x.depth ≤ n := by
  induction xs with
  | nil => simp [depthOfItems]
  | cons x xs ih => simp [depthOfItems, ih]

lemma depthOfFields_le_iff : depthOfFields fields ≤ n ↔ ∀ field ∈ fields, field.2.depth ≤ n := by
  induction fields with
  | nil => simp [depthOfFields]
  | cons field fields ih => simp [depthOfFields, ih]

lemma depth_arr_le_iff : (Json.arr xs).depth ≤ n ↔ 0 < n ∧ ∀ x ∈ xs, x.depth ≤ n - 1 := by
  cases n with
  | zero => simp [depth]
  | succ n => simp [depth, depthOfItems_le_iff]

lemma depth_obj_le_iff :
    (Json.obj fields).depth ≤ n ↔ 0 < n ∧ ∀ field ∈ fields, field.2.depth ≤ n - 1 := by
  cases n with
  | zero => simp [depth]
  | succ n => simp [depth, depthOfFields_le_iff]

lemma depth_le_of_reordered (h : Reordered x y) (hx : x.depth ≤ n) : y.depth ≤ n := by
  induction h generalizing n with
  | refl x => exact hx
  | trans _ _ ih ih' => exact ih' (ih hx)
  | fields h =>
    rw [depth_obj_le_iff] at hx ⊢
    exact ⟨hx.1, fun field hmem => hx.2 field (h.symm.subset hmem)⟩
  | item before after _ ih =>
    simp only [depth_arr_le_iff, List.forall_mem_append, List.forall_mem_cons] at hx ⊢
    exact ⟨hx.1, hx.2.1, ih hx.2.2.1, hx.2.2.2⟩
  | value before after key _ ih =>
    simp only [depth_obj_le_iff, List.forall_mem_append, List.forall_mem_cons] at hx ⊢
    exact ⟨hx.1, hx.2.1, ih hx.2.2.1, hx.2.2.2⟩

/-! ### Values within limits -/

lemma inLimit_none (x : Json) : InLimit none x := by
  cases x <;> simp [InLimit, KeepsLimit]

lemma ignoresOrder_inLimit : IgnoresOrder (InLimit limit) :=
  ⟨fun _ _ => trivial, fun _ => trivial⟩

lemma KeepsTo.reordered (hx : x.KeepsTo limits) (h : Reordered x y) : y.KeepsTo limits :=
  ⟨depth_le_of_reordered h hx.depth, hx.digits.reordered ignoresOrder_inLimit h⟩

/-- Limits that let through whatever others do. -/
structure Limits.Wider (limits wider : Limits) : Prop where
  depth : limits.depth ≤ wider.depth
  digits : ∀ most ∈ wider.digits, ∃ least ∈ limits.digits, least ≤ most

lemma Limits.Wider.refl (limits : Limits) : limits.Wider limits :=
  ⟨Nat.le_refl _, fun most h => ⟨most, h, Nat.le_refl _⟩⟩

/-- What is written within the usual limits can be read within them. -/
lemma Limits.wider_reading : Limits.writing.Wider .reading := ⟨by decide, by decide⟩

lemma KeepsTo.of_wider (hx : x.KeepsTo limits) (h : limits.Wider wider) : x.KeepsTo wider := by
  refine ⟨hx.depth.trans h.depth, hx.digits.mono fun y hy => ?_⟩
  cases y with
  | int n =>
    intro most hmost
    obtain ⟨least, hleast, hle⟩ := h.digits most hmost
    exact (hy least hleast).trans hle
  | _ => trivial

/-- The room inside an array or object. -/
def Limits.inner (limits : Limits) : Limits := { limits with depth := limits.depth - 1 }

lemma Limits.wider_of_inner (limits : Limits) : limits.inner.Wider limits :=
  ⟨Nat.sub_le _ _, fun most h => ⟨most, h, Nat.le_refl _⟩⟩

lemma keepsTo_obj_iff : (Json.obj fields).KeepsTo limits ↔
    0 < limits.depth ∧ ∀ field ∈ fields, field.2.KeepsTo limits.inner := by
  constructor
  · rintro ⟨hdepth, hdigits⟩
    obtain ⟨hroom, hdepth⟩ := depth_obj_le_iff.mp hdepth
    obtain ⟨-, hdigits⟩ := everywhere_obj_iff.mp hdigits
    exact ⟨hroom, fun field hmem => ⟨hdepth field hmem, hdigits field hmem⟩⟩
  · rintro ⟨hroom, hkeeps⟩
    exact ⟨depth_obj_le_iff.mpr ⟨hroom, fun field hmem => (hkeeps field hmem).depth⟩,
      everywhere_obj_iff.mpr ⟨trivial, fun field hmem => (hkeeps field hmem).digits⟩⟩

lemma exceeds_eq_false_iff {i : Int} :
    exceeds limit (Text.decimal i.natAbs).length = false ↔ KeepsLimit limit i := by
  cases limit <;> simp [exceeds, KeepsLimit]

lemma itemsFault?_eq_none_iff :
    itemsFault? limit n xs = none ↔ ∀ x ∈ xs, writeFault? limit n x = none := by
  induction xs with
  | nil => simp [itemsFault?]
  | cons x xs ih => simp [itemsFault?, ih]

lemma fieldsFault?_eq_none_iff : fieldsFault? limit n fields = none ↔
    ∀ field ∈ fields, writeFault? limit n field.2 = none := by
  induction fields with
  | nil => simp [fieldsFault?]
  | cons field fields ih => simp [fieldsFault?, ih]

/-- Nothing keeps a value from being written if and only if it keeps to the limits. -/
theorem writeFault?_eq_none_iff :
    writeFault? limit n x = none ↔ x.depth ≤ n ∧ x.Everywhere (InLimit limit) := by
  induction x using induction_on generalizing n with
  | int i =>
    simp only [writeFault?, ite_eq_right_iff, reduceCtorEq, imp_false, Bool.not_eq_true,
      exceeds_eq_false_iff]
    exact ⟨fun h => ⟨Nat.zero_le n, h⟩, fun h => h.2⟩
  | arr xs ih =>
    cases n with
    | zero => simp [writeFault?, depth]
    | succ n =>
      rw [writeFault?, itemsFault?_eq_none_iff, depth_arr_le_iff, everywhere_arr_iff]
      constructor
      · intro h
        exact ⟨⟨Nat.succ_pos n, fun y hy => ((ih y hy).mp (h y hy)).1⟩, trivial,
          fun y hy => ((ih y hy).mp (h y hy)).2⟩
      · rintro ⟨⟨-, hdepth⟩, -, hdigits⟩ y hy
        exact (ih y hy).mpr ⟨hdepth y hy, hdigits y hy⟩
  | obj fields ih =>
    cases n with
    | zero => simp [writeFault?, depth]
    | succ n =>
      rw [writeFault?, fieldsFault?_eq_none_iff, depth_obj_le_iff, everywhere_obj_iff]
      constructor
      · intro h
        exact ⟨⟨Nat.succ_pos n, fun y hy => ((ih y hy).mp (h y hy)).1⟩, trivial,
          fun y hy => ((ih y hy).mp (h y hy)).2⟩
      · rintro ⟨⟨-, hdepth⟩, -, hdigits⟩ y hy
        exact (ih y hy).mpr ⟨hdepth y hy, hdigits y hy⟩
  | _ => exact iff_of_true rfl ⟨Nat.zero_le n, trivial⟩

section
variable {layOut : Json → String} {text : String}

lemma keepsTo_iff : x.KeepsTo limits ↔ writeFault? limits.digits limits.depth x = none :=
  ⟨fun h => writeFault?_eq_none_iff.mpr ⟨h.depth, h.digits⟩, fun h =>
    ⟨(writeFault?_eq_none_iff.mp h).1, (writeFault?_eq_none_iff.mp h).2⟩⟩

instance (limits : Limits) (x : Json) : Decidable (x.KeepsTo limits) :=
  decidable_of_iff _ keepsTo_iff.symm

lemma textWithin_eq_ok_iff :
    x.textWithin limits layOut = .ok text ↔ x.KeepsTo limits ∧ layOut x = text := by
  rw [textWithin, keepsTo_iff]
  cases writeFault? limits.digits limits.depth x <;> simp

/-- A value has a canonical text if and only if it keeps to the limits. -/
theorem encode_eq_ok_iff :
    x.encode limits layOut = .ok text ↔ x.KeepsTo limits ∧ layOut x = text := by
  rw [encode]
  cases h : writeFault? none limits.depth x with
  | none => exact textWithin_eq_ok_iff
  | some fault =>
    refine iff_of_false nofun fun ⟨hkeeps, _⟩ => ?_
    have hnone : writeFault? none limits.depth x = none :=
      writeFault?_eq_none_iff.mpr ⟨hkeeps.depth, everywhere_of_forall inLimit_none x⟩
    simp [h] at hnone

end

end Promotion.Json
