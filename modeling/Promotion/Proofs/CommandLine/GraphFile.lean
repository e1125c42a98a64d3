import Promotion.CommandLine.GraphFile
import Promotion.Proofs.Json.Limits

/-! What a graph file has to be like to be read, and why one is not. -/
namespace Promotion.GraphFile
variable {limits : Json.Limits} {files : Files} {name : String} {fault : GraphFileFault}
  {json : Json}
  {digits cs : List Char}

/-- The text of a file with its line ends in one form. -/
def unified (text : String) : String := String.ofList (unifyLineEnds text.toList)

/-- Why a file gives no JSON, by what is wrong with it. -/
inductive Fails (limits : Json.Limits) (files : Files) (name : String) : GraphFileFault → Prop
  | unnameable (hname : '\x00' ∈ name.toList) : Fails limits files name .unnameable
  | unopened {fault : FileFault} (hname : '\x00' ∉ name.toList)
      (hfile : files name = .error fault) : Fails limits files name (.unopened fault)
  | notText {bytes : ByteArray} (hname : '\x00' ∉ name.toList) (hfile : files name = .ok bytes)
      (htext : String.fromUTF8? bytes = none) : Fails limits files name .notText
  | malformed {bytes : ByteArray} {text : String} {reason : Json.Reason} {left : Nat}
      (hname : '\x00' ∉ name.toList) (hfile : files name = .ok bytes)
      (htext : String.fromUTF8? bytes = some text)
      (hread : Json.readWithin limits (unified text) = .error (.malformed reason left)) :
    Fails limits files name
      (.malformed ((Json.ReadFault.malformed reason left).message (unified text)))
  | tooManyDigits {bytes : ByteArray} {text : String} {count : Nat}
      (hname : '\x00' ∉ name.toList) (hfile : files name = .ok bytes)
      (htext : String.fromUTF8? bytes = some text)
      (hread : Json.readWithin limits (unified text) = .error (.tooManyDigits count)) :
    Fails limits files name
      (.tooManyDigits ((Json.ReadFault.tooManyDigits count).message (unified text)))
  | tooDeep {bytes : ByteArray} {text : String} (hname : '\x00' ∉ name.toList)
      (hfile : files name = .ok bytes) (htext : String.fromUTF8? bytes = some text)
      (hread : Json.readWithin limits (unified text) = .error .tooDeep) :
    Fails limits files name .tooDeep

/-! ### Reading, step by step -/

section Steps
variable {bytes : ByteArray} {text : String}

lemma read_of_unnameable (hname : '\x00' ∈ name.toList) :
    read limits files name = .error .unnameable := by
  have hcontains : name.toList.contains '\x00' = true := by simpa using hname
  unfold read
  rw [hcontains]
  rfl

lemma read_of_unopened {fault : FileFault} (hname : '\x00' ∉ name.toList)
    (hfile : files name = .error fault) : read limits files name = .error (.unopened fault) := by
  have hcontains : name.toList.contains '\x00' = false := by simpa using hname
  unfold read
  rw [hcontains, hfile]
  rfl

lemma read_of_bytes (hname : '\x00' ∉ name.toList) (hfile : files name = .ok bytes)
    (htext : String.fromUTF8? bytes = none) : read limits files name = .error .notText := by
  have hcontains : name.toList.contains '\x00' = false := by simpa using hname
  unfold read
  rw [hcontains, hfile]
  simp only [htext]
  rfl

/-- What is read of a file that holds text. -/
lemma read_eq (hname : '\x00' ∉ name.toList) (hfile : files name = .ok bytes)
    (htext : String.fromUTF8? bytes = some text) :
    read limits files name =
      match Json.readWithin limits (unified text) with
      | .ok json => .ok json
      | .error (.malformed reason left) =>
        .error (.malformed ((Json.ReadFault.malformed reason left).message (unified text)))
      | .error (.tooManyDigits count) =>
        .error (.tooManyDigits ((Json.ReadFault.tooManyDigits count).message (unified text)))
      | .error .tooDeep => .error .tooDeep := by
  have hcontains : name.toList.contains '\x00' = false := by simpa using hname
  unfold read
  rw [hcontains, hfile]
  simp only [htext, Bool.false_eq_true, if_false, unified]
  rcases Json.readWithin limits (String.ofList (unifyLineEnds text.toList)) with fault | json
  · cases fault <;> rfl
  · rfl

end Steps

/-- A file is not read just if one of the things is wrong with it. -/
theorem read_eq_error_iff :
    read limits files name = .error fault ↔ Fails limits files name fault := by
  constructor
  · intro h
    by_cases hname : '\x00' ∈ name.toList
    · obtain rfl := Except.error.inj ((read_of_unnameable hname).symm.trans h)
      exact .unnameable hname
    · rcases hfile : files name with fileFault | bytes
      · obtain rfl := Except.error.inj ((read_of_unopened hname hfile).symm.trans h)
        exact .unopened hname hfile
      · rcases htext : String.fromUTF8? bytes with _ | text
        · obtain rfl := Except.error.inj ((read_of_bytes hname hfile htext).symm.trans h)
          exact .notText hname hfile htext
        · rw [read_eq hname hfile htext] at h
          rcases hread : Json.readWithin limits (unified text) with
            (⟨reason, left⟩ | count | _) | json
          · rw [hread] at h
            obtain rfl := Except.error.inj h
            exact .malformed hname hfile htext hread
          · rw [hread] at h
            obtain rfl := Except.error.inj h
            exact .tooManyDigits hname hfile htext hread
          · rw [hread] at h
            obtain rfl := Except.error.inj h
            exact .tooDeep hname hfile htext hread
          · rw [hread] at h
            cases h
  · intro h
    cases h with
    | unnameable hname => exact read_of_unnameable hname
    | unopened hname hfile => exact read_of_unopened hname hfile
    | notText hname hfile htext => exact read_of_bytes hname hfile htext
    | malformed hname hfile htext hread => rw [read_eq hname hfile htext, hread]
    | tooManyDigits hname hfile htext hread => rw [read_eq hname hfile htext, hread]
    | tooDeep hname hfile htext hread => rw [read_eq hname hfile htext, hread]

/-! ### Too many digits, too many brackets -/

end Promotion.GraphFile
