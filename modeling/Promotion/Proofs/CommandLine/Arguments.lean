import Mathlib.Data.Nat.Digits.Defs
import Promotion.CommandLine.Arguments
import Promotion.Proofs.Check.Outcome
import Promotion.Proofs.Json.Numeral

/-! What arguments give. The salience is the one for when none is given, or a whole number with no
more digits than are read. -/
namespace Promotion

namespace Number
variable {cs : List Char} {ds : List Nat} {n : Int} {after : Bool}

lemma decimalValue?_lt {c : Char} {d : Nat} (h : Text.decimalValue? c = some d) : d < 10 := by
  obtain ⟨first, hfirst, rfl⟩ := Option.map_eq_some_iff.mp h
  have hrange := List.find?_some hfirst
  simp only [Bool.and_eq_true, decide_eq_true_eq] at hrange
  omega

lemma lt_of_mem_digitRun? (h : digitRun? Text.decimalValue? after cs = some ds) :
    ∀ d ∈ ds, d < 10 := by
  fun_induction digitRun? Text.decimalValue? after cs generalizing ds with
  | case1 =>
    obtain rfl := Option.some.inj h
    exact List.forall_mem_nil _
  | case2 => cases h
  | case3 cs ih => exact ih h
  | case4 => cases h
  | case5 after c cs _ ih =>
    obtain ⟨d, hd, h⟩ := Option.bind_eq_some_iff.mp h
    obtain ⟨rest, hrest, h⟩ := Option.bind_eq_some_iff.mp h
    obtain rfl := Option.some.inj h
    exact List.forall_mem_cons.mpr ⟨decimalValue?_lt hd, ih hrest⟩

lemma foldl_digits_lt (h : ∀ d ∈ ds, d < 10) (start : Nat) :
    ds.foldl (fun n d => n * 10 + d) start < (start + 1) * 10 ^ ds.length := by
  induction ds generalizing start with
  | nil => simp
  | cons d ds ih =>
    obtain ⟨hd, hds⟩ := List.forall_mem_cons.mp h
    calc ds.foldl (fun n d => n * 10 + d) (start * 10 + d)
        < (start * 10 + d + 1) * 10 ^ ds.length := ih hds _
      _ ≤ ((start + 1) * 10) * 10 ^ ds.length := Nat.mul_le_mul_right _ (by omega)
      _ = (start + 1) * 10 ^ (ds.length + 1) := by rw [pow_succ', Nat.mul_assoc]

/-- A number has no more digits than there are in its text. -/
theorem keepsLimit_of_readArgument {s : String} (h : readArgument s = .ok n) :
    Json.KeepsLimit (some maxDigits) n := by
  unfold readArgument readScripted at h
  generalize splitSign _ = split at h
  obtain ⟨negative, body⟩ := split
  dsimp only at h
  split at h
  · cases h
  · next ds hds =>
    split_ifs at h with hlong
    obtain rfl := Except.ok.inj h
    have hsign : (withSign negative (spell ds)).natAbs = spell ds := by
      cases negative <;> simp [withSign]
    have hspell : spell ds < 10 ^ maxDigits := by
      calc spell ds < (0 + 1) * 10 ^ ds.length := foldl_digits_lt (lt_of_mem_digitRun? hds) 0
        _ = 10 ^ ds.length := by rw [Nat.zero_add, Nat.one_mul]
        _ ≤ 10 ^ maxDigits := Nat.pow_le_pow_right (by decide) (Nat.not_lt.mp hlong)
    rintro _ ⟨⟩
    rw [hsign]
    exact Nat.toDigits_length 10 _ _ (by decide) hspell

end Number

namespace Arguments
variable {salience : Json} {a b : Arguments} {d e : Draft} {switch : Switch}

/-- The salience is the one for when none is given, or was read. -/
def SalienceFrom (salience : Json) (a : Arguments) : Prop :=
  a.salience = salience ∨ ∃ n, a.salience = .int n ∧ Json.KeepsLimit (some Number.maxDigits) n

lemma SalienceFrom.of_eq (h : a.SalienceFrom salience) (hsame : b.salience = a.salience) :
    b.SalienceFrom salience := by
  unfold SalienceFrom
  rwa [hsame]

lemma readSalience_eq_ok {value : String} {json : Json} (h : readSalience value = .ok json) :
    ∃ n, json = .int n ∧ Json.KeepsLimit (some Number.maxDigits) n := by
  unfold readSalience at h
  split at h
  · next n hn =>
    obtain rfl := Except.ok.inj h
    exact ⟨n, rfl, Number.keepsLimit_of_readArgument hn⟩
  · cases h

lemma salience_setFlag (h : setFlag a switch = .ok b) : b.salience = a.salience := by
  cases switch <;> cases h <;> rfl

lemma salience_foldlM {switches : List Switch} (h : switches.foldlM setFlag a = .ok b) :
    b.salience = a.salience := by
  induction switches generalizing a with
  | nil => rw [Except.ok.inj h]
  | cons switch switches ih =>
    obtain ⟨next, hnext, h⟩ := bind_eq_ok_iff.mp h
    exact (ih h).trans (salience_setFlag hnext)

lemma SalienceFrom.setValue {value : String} (ha : a.SalienceFrom salience)
    (h : setValue a switch value = .ok b) : b.SalienceFrom salience := by
  cases switch with
  | salience =>
    obtain ⟨json, hjson, h⟩ := bind_eq_ok_iff.mp h
    obtain rfl := Except.ok.inj h
    exact .inr (readSalience_eq_ok hjson)
  | validFrom | validUntil =>
    obtain ⟨day, -, h⟩ := bind_eq_ok_iff.mp h
    exact ha.of_eq (by rw [← Except.ok.inj h])
  | _ => exact ha.of_eq (by rw [← Except.ok.inj h])

lemma SalienceFrom.takeValue {value : String} (hd : d.arguments.SalienceFrom salience)
    (h : takeValue d switch value = .ok e) : e.arguments.SalienceFrom salience := by
  unfold Arguments.takeValue at h
  split_ifs at h
  · exact hd.of_eq (by rw [← Except.ok.inj h])
  · obtain ⟨a, ha, h⟩ := bind_eq_ok_iff.mp h
    obtain rfl := Except.ok.inj h
    have hothers : SalienceFrom salience { d.arguments with
        emptied := d.arguments.emptied.filter (· != switch) } := hd.of_eq rfl
    exact hothers.setValue ha

lemma salience_takeRun (d : Draft) (words : List Word) :
    (takeRun d words).arguments.salience = d.arguments.salience := by
  unfold takeRun takeFile
  split_ifs
  · rfl
  · dsimp only
    split <;> rfl

lemma SalienceFrom.take {run words : List Word} (hd : d.arguments.SalienceFrom salience)
    (h : take d run words = .ok e) : e.arguments.SalienceFrom salience := by
  fun_induction Arguments.take d run words with
  | case1 d run =>
    obtain rfl := Except.ok.inj h
    exact hd.of_eq (salience_takeRun d run)
  | case2 d run text rest _ ih => exact ih (hd.of_eq (salience_takeRun d run)) h
  | case3 d run switch spelling _ _ value rest ih =>
    obtain ⟨next, hnext, h⟩ := bind_eq_ok_iff.mp h
    exact ih next (SalienceFrom.takeValue (hd.of_eq (salience_takeRun d run)) hnext) h
  | case4 d run switch spelling _ _ value rest ih =>
    obtain ⟨next, hnext, h⟩ := bind_eq_ok_iff.mp h
    exact ih next (SalienceFrom.takeValue (hd.of_eq (salience_takeRun d run)) hnext) h
  | case5 => cases h
  | case6 d run switch spelling value rest _ _ ih =>
    obtain ⟨switches, -, h⟩ := bind_eq_ok_iff.mp h
    obtain ⟨next, hnext, h⟩ := bind_eq_ok_iff.mp h
    exact ih next (hd.of_eq ((salience_foldlM hnext).trans (salience_takeRun d run))) h
  | case7 d run word rest _ _ ih => exact ih hd h

/-- Where the salience for when none is given is no text, it is taken as it is. -/
theorem salienceFrom_of_read {texts : List String} (hsalience : ∀ s, salience ≠ .str s)
    (h : read salience texts = .ok a) : a.SalienceFrom salience := by
  obtain ⟨words, -, h⟩ := bind_eq_ok_iff.mp h
  obtain ⟨d, htake, h⟩ := bind_eq_ok_iff.mp h
  obtain ⟨e, hsettle, h⟩ := bind_eq_ok_iff.mp h
  have hd : d.arguments.SalienceFrom salience := SalienceFrom.take (.inl rfl) htake
  have he : e.arguments = d.arguments := by
    unfold settle at hsettle
    split at hsettle
    · next value _ hvalue =>
      rcases hd with hsame | ⟨n, hsame, -⟩
      · exact absurd (hsame.symm.trans hvalue) (hsalience value)
      · cases hsame.symm.trans hvalue
    · rw [Except.ok.inj hsettle]
  split_ifs at h
  · cases h
  · exact Except.ok.inj h ▸ hd.of_eq (by rw [he])
  · cases h

end Arguments
end Promotion
