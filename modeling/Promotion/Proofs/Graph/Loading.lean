import Promotion.Proofs.Editor.Attainable

/-! Loads that fail. With a whole number for a limit, what is at fault is the graph or the data. -/
namespace Promotion

/-- A fault of a graph or of data. The others are of values that are of no use at all. -/
def EditFault.IsPlain : EditFault → Prop
  | .graph _ => True
  | .invalid _ => True
  | _ => False

/-- If the edit fails, then with a plain fault. -/
def FailsPlainly {α : Type} (r : Except EditFault α) : Prop :=
  ∀ fault, r = .error fault → fault.IsPlain

namespace FailsPlainly
variable {α β : Type}

lemma of_error {fault : EditFault} (h : fault.IsPlain) :
    FailsPlainly (.error fault : Except EditFault α) := by
  intro other hother
  cases hother
  exact h

lemma bind {r : Except EditFault α} {f : α → Except EditFault β} (hr : FailsPlainly r)
    (hf : ∀ a, r = .ok a → FailsPlainly (f a)) : FailsPlainly (r >>= f) := by
  cases r with
  | ok a => exact hf a rfl
  | error fault => exact of_error (hr fault rfl)

end FailsPlainly

namespace Graph
open FailsPlainly
variable {g : Graph} {n : Node} {limit : Int}

/-! ### Single edits -/

/-- A graph of checked nodes under a whole number for a limit. -/
def LimitedBy (limit : Int) (g : Graph) : Prop := g.limit = .int limit ∧ g.KeepsRules

lemma LimitedBy.insertJson {h : Graph} {json : Json} (hg : g.LimitedBy limit)
    (hok : g.insertJson json = .ok (h, n)) : h.LimitedBy limit := by
  obtain ⟨r, -, hinsert, -⟩ := insertJson_eq_ok_iff.mp hok
  have hchecked : (GraphEdit.insert (.rule r)).IsChecked := ⟨r, rfl⟩
  have hrules := hg.2.apply hchecked hinsert
  obtain ⟨-, -, rfl⟩ := insert_eq_ok_iff.mp hinsert
  exact ⟨hg.1, hrules⟩

lemma LimitedBy.connectJson {h : Graph} {json : Json} {c : Connection} (hg : g.LimitedBy limit)
    (hok : g.connectJson json = .ok (h, c)) : h.LimitedBy limit := by
  obtain ⟨d, -, hconnect⟩ := connectJson_eq_ok_iff.mp hok
  obtain ⟨-, rfl⟩ := connect_eq_ok_iff.mp hconnect
  exact hg

lemma keepsRules_of_ofPayload {limit payload : Json} (hok : ofPayload limit payload = .ok g) :
    g.KeepsRules :=
  ofPayload_induction (fun _ hn => absurd hn List.not_mem_nil)
    (fun _ _ _ hchecked hg hok => hg.apply hchecked hok) hok

end Graph
end Promotion
