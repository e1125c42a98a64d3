import Promotion.Proofs.Calendar.Stamp
import Promotion.Proofs.Editor.Submission
import Promotion.Proofs.Rule.Compiled

/-! The time a rule was made, as its document tells it. Only the instant counts, down to the
millisecond, and not the offset it was given with. -/
namespace Promotion

/-- The rule as if made at another time. -/
def Rule.madeAt (r : Rule) (t : DateTime) : Rule := { r with createdAt := t }

/-- The canonical text of the document of a rule, if there is one. Limits may leave a document
without a text. -/
def Rule.canonical? (r : Rule) (limits : Json.Limits) : Option (Except Json.WriteFault String) :=
  r.toJson?.map (Json.canonicalText limits)

/-- A text for a point in time: UTC to the millisecond, which is what a document says of the time
and what is read back from it. -/
structure DateTime.WrittenAs (t : DateTime) (stamp : String) : Prop where
  fits : Text.Fits "0000-00-00T00:00:00.000Z".toList stamp.toList
  document : ∀ r : Rule, r.createdAt = t → r.toJson? = some (r.document stamp)
  reads : ∃ back, Calendar.readDateTime stamp = .read back ∧ back.offset = some 0 ∧
    back.instant = t.instant / 1000 * 1000

namespace DateTime
variable {t u : DateTime}

lemma instant_orUtc (t : DateTime) : t.orUtc.instant = t.instant := rfl

lemma stamp?_congr (h : t.instant = u.instant) : t.stamp? = u.stamp? := by
  unfold stamp?
  rw [h]

lemma defaultName_congr (h : t.instant = u.instant) : defaultName t = defaultName u := by
  unfold defaultName nameMillis secondsDouble
  rw [h]

lemma writtenAs_stampChars (hutc : u.offset = some 0) (h : u.instant = t.instant) :
    t.WrittenAs (String.ofList u.stampChars) where
  fits := by
    have htext : (String.ofList u.stampChars).toList = u.stampChars := String.toList_ofList
    rw [htext]
    exact fits_stampChars u
  document r hr := by
    rw [Rule.toJson?, hr, stamp?_eq hutc h]
    rfl
  reads := ⟨u.cut, readDateTime_stampChars hutc, hutc, by rw [instant_cut hutc, h]⟩

lemma WrittenAs.orUtc {stamp : String} (h : t.WrittenAs stamp) : t.orUtc.WrittenAs stamp where
  fits := h.fits
  document r hr := by
    have hsame : r.createdAt.instant = t.instant := by rw [hr, instant_orUtc]
    have hdocument := h.document (r.madeAt t) rfl
    rw [Rule.toJson?] at hdocument ⊢
    rw [stamp?_congr hsame]
    exact hdocument
  reads := h.reads

end DateTime

namespace Graph
variable {g : Graph} {metadata : RuleMetadata} {now other : DateTime} {rule : Rule}

/-- Two times at one instant make the same rule of a graph, but for the time it carries. -/
theorem compile_of_instant (h : now.instant = other.instant) :
    g.compile metadata other =
      (g.compile metadata now).map fun rule => rule.madeAt other.orUtc := by
  have hname : defaultName other.orUtc = defaultName now.orUtc := DateTime.defaultName_congr h.symm
  unfold compile
  cases g.nodes.mapM Node.compile with
  | error fault => rfl
  | ok entries =>
    cases CompileFault.ofChecked ((Check.whole metadata.salience).under "salience") with
    | error fault => rfl
    | ok salience =>
      simp only [hname]
      rfl

/-- The canonical text of a rule does not tell with which offset the time was given. -/
theorem canonical?_of_instant (h : now.instant = other.instant) (limits : Json.Limits) :
    (g.compile metadata now).map (Rule.canonical? · limits) =
      (g.compile metadata other).map (Rule.canonical? · limits) := by
  rw [compile_of_instant h]
  cases hok : g.compile metadata now with
  | error fault => rfl
  | ok rule =>
    have hmade := createdAt_of_compile hok
    have hstamp : rule.createdAt.stamp? = other.orUtc.stamp? := by
      rw [hmade]
      exact DateTime.stamp?_congr h
    have hdocument : rule.toJson? = (rule.madeAt other.orUtc).toJson? := by
      unfold Rule.toJson?
      rw [hstamp]
      rfl
    simp only [Except.map, Rule.canonical?, hdocument]

/-- The document of a rule says when it was compiled: the instant cut to the millisecond, in UTC,
whatever offset the clock has. Later times have later texts, and one instant has one document. -/
theorem createdAt_written (hnow : now.InYears) (hother : other.InYears) :
    ∃ stamp stamp', now.WrittenAs stamp ∧ other.WrittenAs stamp' ∧
      (∀ g metadata rule, compile g metadata now = .ok rule →
        rule.toJson? = some (rule.document stamp)) ∧
      (stamp < stamp' ↔ now.instant / 1000 < other.instant / 1000) ∧
      (stamp = stamp' ↔ now.instant / 1000 = other.instant / 1000) ∧
      (now.instant = other.instant → ∀ g metadata limits,
        (compile g metadata now).map (Rule.canonical? · limits) =
          (compile g metadata other).map (Rule.canonical? · limits)) := by
  obtain ⟨u, hutc, hu, -⟩ := hnow.exists_stamp
  obtain ⟨v, hutc', hv, -⟩ := hother.exists_stamp
  have hless := DateTime.stampChars_lt_stampChars_iff hutc hutc'
  have hmore := DateTime.stampChars_lt_stampChars_iff hutc' hutc
  rw [hu, hv] at hless hmore
  have hwritten := DateTime.writtenAs_stampChars hutc hu
  refine ⟨_, _, hwritten, DateTime.writtenAs_stampChars hutc' hv, ?_, ?_, ?_, ?_⟩
  · intro g metadata rule hok
    exact hwritten.orUtc.document rule (createdAt_of_compile hok)
  · rw [String.lt_iff, String.toList_ofList, String.toList_ofList]
    exact hless
  · rw [String.ofList_inj]
    constructor
    · intro heq
      rw [heq] at hless hmore
      have := hless.not.mp (List.lt_irrefl _)
      have := hmore.not.mp (List.lt_irrefl _)
      omega
    · intro heq
      have hnot := hless.not.mpr (by omega)
      have hnot' := hmore.not.mpr (by omega)
      exact List.le_antisymm hnot' hnot
  · intro h g metadata limits
    exact canonical?_of_instant h limits

/-- A point in time whose day is another one in UTC. -/
def sampleEast : DateTime :=
  ⟨⟨2024, 3, 1, by decide⟩, ⟨0, 30, 0, 123456, by decide⟩, some 19800000000⟩

/-- The same point in UTC, with no offset given. -/
def sampleUtc : DateTime := ⟨⟨2024, 2, 29, by decide⟩, ⟨19, 0, 0, 123456, by decide⟩, none⟩

example : sampleEast.stamp? = some "2024-02-29T19:00:00.123Z" := by decide +kernel

theorem createdAt_written_sample : sampleEast.InYears ∧ sampleUtc.InYears ∧
    sampleEast.instant = sampleUtc.instant ∧
    (∃ stamp, sampleEast.WrittenAs stamp ∧ sampleUtc.WrittenAs stamp) ∧
    (compile sample sampleMetadata sampleEast).map (Rule.canonical? · .writing) =
      (compile sample sampleMetadata sampleUtc).map (Rule.canonical? · .writing) := by
  have heast : sampleEast.InYears := by decide +kernel
  have hutc : sampleUtc.InYears := by decide +kernel
  have hinstant : sampleEast.instant = sampleUtc.instant := by decide +kernel
  obtain ⟨stamp, stamp', hstamp, hstamp', -, -, hsame, hdocument⟩ := createdAt_written heast hutc
  obtain rfl := hsame.mpr (congrArg (· / 1000) hinstant)
  exact ⟨heast, hutc, hinstant, ⟨stamp, hstamp, hstamp'⟩, hdocument hinstant _ _ _⟩

end Graph
end Promotion
