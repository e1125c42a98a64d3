import Promotion.Check.Field
import Mathlib.Data.List.Forall2
import Mathlib.Tactic.Lemma

/-! When a chain of checks succeeds: each of its steps does, and each field that it asks for has a
value that passes. Where it fails, its first step that does so says why. -/
namespace Promotion

/-- A chain of steps succeeds exactly when each step does. -/
lemma bind_eq_ok_iff {ε α β : Type} {x : Except ε α} {f : α → Except ε β} {b : β} :
    (x >>= f) = .ok b ↔ ∃ a, x = .ok a ∧ f a = .ok b := by
  cases x <;> simp [bind, Except.bind]

/-- A chain of steps fails where its first step does, or what comes behind that. -/
lemma bind_eq_error_iff {ε α β : Type} {x : Except ε α} {f : α → Except ε β} {fault : ε} :
    (x >>= f) = .error fault ↔ x = .error fault ∨ ∃ a, x = .ok a ∧ f a = .error fault := by
  cases x <;> simp [bind, Except.bind]

@[simp] lemma mapError_eq_ok_iff {ε δ α : Type} {x : Except ε α} {f : ε → δ} {a : α} :
    x.mapError f = .ok a ↔ x = .ok a := by
  cases x <;> simp [Except.mapError]

@[simp] lemma throw_ne_ok {ε α : Type} {fault : ε} {a : α} :
    (throw fault : Except ε α) ≠ .ok a := by
  simp [throw, throwThe, MonadExceptOf.throw]

/-! ### Steps over a list -/

section Steps
variable {ε α β : Type} {f : α → Except ε β} {xs : List α}

lemma exists_mapM_eq_ok_iff :
    (∃ ys, xs.mapM f = .ok ys) ↔ ∀ x ∈ xs, ∃ y, f x = .ok y := by
  induction xs with
  | nil => simp [pure, Except.pure]
  | cons x xs ih =>
    rw [List.mapM_cons, List.forall_mem_cons, ← ih]
    constructor
    · rintro ⟨ys, h⟩
      obtain ⟨y, hy, h⟩ := bind_eq_ok_iff.mp h
      obtain ⟨rest, hrest, -⟩ := bind_eq_ok_iff.mp h
      exact ⟨⟨y, hy⟩, rest, hrest⟩
    · rintro ⟨⟨y, hy⟩, rest, hrest⟩
      exact ⟨y :: rest, by rw [hy, hrest]; rfl⟩

lemma forall₂_of_mapM {ys : List β} (h : xs.mapM f = .ok ys) :
    List.Forall₂ (fun x y => f x = .ok y) xs ys := by
  induction xs generalizing ys with
  | nil =>
    obtain rfl := Except.ok.inj h
    exact .nil
  | cons x xs ih =>
    rw [List.mapM_cons] at h
    obtain ⟨y, hy, h⟩ := bind_eq_ok_iff.mp h
    obtain ⟨rest, hrest, h⟩ := bind_eq_ok_iff.mp h
    obtain rfl := Except.ok.inj h
    exact .cons hy (ih hrest)

/-- Where steps over a list fail, the fault is that of the first step that does. -/
lemma first_of_mapM_error {e : ε} (h : xs.mapM f = .error e) :
    ∃ before x after, xs = before ++ x :: after ∧ (∀ y ∈ before, ∃ b, f y = .ok b) ∧
      f x = .error e := by
  induction xs with
  | nil => cases h
  | cons x xs ih =>
    rw [List.mapM_cons] at h
    rcases bind_eq_error_iff.mp h with hx | ⟨y, hy, h⟩
    · exact ⟨[], x, xs, rfl, fun _ hz => absurd hz List.not_mem_nil, hx⟩
    · rcases bind_eq_error_iff.mp h with hxs | ⟨rest, -, h⟩
      · obtain ⟨before, x', after, rfl, hbefore, hx'⟩ := ih hxs
        exact ⟨x :: before, x', after, rfl, List.forall_mem_cons.mpr ⟨⟨y, hy⟩, hbefore⟩, hx'⟩
      · cases h

end Steps

/-! ### Checks -/

namespace Checked
variable {α β : Type}

lemma map_eq_valid_iff {c : Checked α} {f : α → β} {b : β} :
    f <$> c = .valid b ↔ ∃ a, c = .valid a ∧ f a = b := by
  cases c <;> simp [Functor.map, map]

lemma seq_eq_valid_iff {cf : Checked (α → β)} {c : Checked α} {b : β} :
    cf <*> c = .valid b ↔ ∃ f a, cf = .valid f ∧ c = .valid a ∧ f a = b := by
  cases cf <;> cases c <;> simp [Seq.seq, ap, map]

@[simp] lemma under_eq_valid_iff {c : Checked α} {key : String} {a : α} :
    c.under key = .valid a ↔ c = .valid a := by
  cases c <;> simp [under]

lemma andThen_eq_valid_iff {c : Checked α} {f : α → Checked β} {b : β} :
    c.andThen f = .valid b ↔ ∃ a, c = .valid a ∧ f a = .valid b := by
  cases c <;> simp [andThen]

@[simp] lemma reject_ne_valid (kind : IssueKind) (a : α) : reject kind ≠ .valid a := by
  simp [reject]

end Checked

namespace Check
variable {α : Type} {fields : Fields} {key : String} {a fallback : α} {check : Json → Checked α}

lemma required_eq_valid_iff :
    required fields key check = .valid a ↔
      ∃ json, fields.get? key = some json ∧ check json = .valid a := by
  cases h : fields.get? key <;> simp [required, h]

lemma optional_eq_valid_iff :
    optional fields key fallback check = .valid a ↔
      (∃ json, fields.get? key = some json ∧ check json = .valid a) ∨
        fields.get? key = none ∧ fallback = a := by
  cases h : fields.get? key <;> simp [optional, h]

@[simp] lemma text_eq_valid_iff {json : Json} {s : String} :
    text json = .valid s ↔ json = .str s := by
  cases json <;> simp [text]

end Check

namespace Fields
variable {fields changes : Fields} {key other : String} {value : Json}

lemma has_eq_false_iff : fields.has key = false ↔ ∀ field ∈ fields, field.1 ≠ key := by
  simp [has]

lemma get?_append : get? (fields ++ changes) key = (fields.get? key).or (changes.get? key) := by
  cases h : fields.find? (fun field => field.1 == key) <;> simp [get?, h]

lemma get?_map_of_ne (hne : key ≠ other) :
    get? (fields.map fun field => if field.1 == key then (key, value) else field) other =
      fields.get? other := by
  induction fields with
  | nil => rfl
  | cons field fields ih =>
    obtain ⟨k, v⟩ := field
    by_cases hk : k = key
    · subst hk
      simpa [hne] using ih
    · simpa [hk] using congrArg (fun rest => if k = other then some v else rest) ih

/-- Setting a key leaves what stands under the other keys. -/
lemma get?_put_of_ne (hne : key ≠ other) :
    (fields.put key value).get? other = fields.get? other := by
  unfold put
  split
  · exact get?_map_of_ne hne
  · have hlast : get? [(key, value)] other = none := by simp [hne]
    simp [get?_append, hlast]

lemma has_eq_false_iff_get? : fields.has key = false ↔ fields.get? key = none := by
  simp [has, get?]

/-- A key that is set is found with its value. -/
lemma get?_put_self : (fields.put key value).get? key = some value := by
  unfold put
  split
  · next hhas =>
    induction fields with
    | nil => cases hhas
    | cons field fields ih =>
      obtain ⟨k, v⟩ := field
      by_cases hk : k = key
      · simp [hk]
      · have hrest : has fields key = true := by simpa [has, hk] using hhas
        simpa [hk] using ih hrest
  · next hhas =>
    have hnone := has_eq_false_iff_get?.mp (Bool.eq_false_iff.mpr hhas)
    simp [get?_append, hnone]

/-- A key that is new comes last. -/
lemma keys_put : (fields.put key value).keys =
    if fields.has key then fields.keys else fields.keys ++ [key] := by
  unfold put
  split
  · unfold keys
    rw [List.map_map]
    apply List.map_congr_left
    intro field _
    by_cases hk : field.1 = key <;> simp [hk]
  · simp [keys]

lemma mem_keys_put {other : String} :
    other ∈ (fields.put key value).keys ↔ other = key ∨ other ∈ fields.keys := by
  rw [keys_put]
  split
  · next hhas =>
    obtain ⟨field, hfield, hkey⟩ := List.any_eq_true.mp hhas
    have hmem : key ∈ fields.keys := List.mem_map.mpr ⟨field, hfield, by simpa using hkey⟩
    constructor
    · exact Or.inr
    · rintro (rfl | h)
      · exact hmem
      · exact h
  · simp [or_comm]

lemma get?_putAll_of_not_has (h : changes.has other = false) :
    (fields.putAll changes).get? other = fields.get? other := by
  induction changes generalizing fields with
  | nil => rfl
  | cons change changes ih =>
    rw [has_eq_false_iff] at h
    have hne : change.1 ≠ other := h change List.mem_cons_self
    have hrest : has changes other = false :=
      has_eq_false_iff.mpr fun field hfield => h field (List.mem_cons_of_mem _ hfield)
    exact (ih hrest).trans (get?_put_of_ne hne)

end Fields
end Promotion
