import Promotion.Proofs.Editor.InPlace
import Promotion.Proofs.Editor.Making

/-! New ids over a whole session. The search for a free number ends, and as the counter only goes up
no id is given out twice, whatever becomes of the nodes and of the graph. -/
namespace Promotion
namespace Editor
variable {g : Graph} {e : Editor} {stem other : String} {n m : Nat}

/-! ### The search -/

/-- The search for a free number, from a number on and without a bound: a free number ends it, and
behind a taken one it goes on. -/
inductive Search (g : Graph) (stem : String) : Nat → Nat → Prop
  | free {n : Nat} (hfree : g.has (.text (numberedId stem n)) = false) : Search g stem n n
  | taken {n m : Nat} (htaken : g.has (.text (numberedId stem n)) = true)
      (rest : Search g stem (n + 1) m) : Search g stem n m

lemma Search.le (h : Search g stem n m) : n ≤ m := by
  induction h with
  | free => exact Nat.le_refl _
  | taken _ _ ih => exact Nat.le_of_succ_le ih

/-- Where the bounded search stops at a free number, the search itself ends. -/
lemma search_freeNumber {tries : Nat}
    (hfree : g.has (.text (numberedId stem (freeNumber g stem tries n))) = false) :
    Search g stem n (freeNumber g stem tries n) := by
  induction tries generalizing n with
  | zero => exact .free hfree
  | succ tries ih =>
    rw [freeNumber] at hfree ⊢
    split_ifs at hfree ⊢ with htaken
    · exact .taken htaken (ih hfree)
    · exact .free hfree

lemma search_newId (e : Editor) (stem : String) : ∃ n, Search e.graph stem e.counter n ∧
    e.newId stem = (numberedId stem n, n + 1) :=
  ⟨_, search_freeNumber (has_newId e stem), rfl⟩

/-- The number of an id is what stands behind its last dash, so it does not depend on the stem. -/
lemma number_eq_of_numberedId_eq (h : numberedId stem n = numberedId other m) : n = m := by
  have hdigits : ∀ (s : String) (k : Nat),
      (numberedId s k).toList.reverse.takeWhile Char.isDigit = (Nat.toDigits 10 k).reverse := by
    intro s k
    have hall : ∀ c ∈ (Nat.toDigits 10 k).reverse, c.isDigit = true := fun c hc =>
      Nat.isDigit_of_mem_toDigits (by decide) (by decide) (List.mem_reverse.mp hc)
    simp only [numberedId, String.toList_append, Nat.toString_eq_ofList_toDigits,
      String.toList_ofList, List.reverse_append, List.append_assoc]
    rw [List.takeWhile_append_of_pos hall]
    simp
  have hlists : Nat.toDigits 10 n = Nat.toDigits 10 m := by
    rw [← List.reverse_inj, ← hdigits stem, ← hdigits other, h]
  have hnumbers := congrArg (fun digits => Nat.ofDigitChars 10 digits 0) hlists
  simpa using hnumbers

end Editor

/-! ### Calls that take a new id -/

/-- The kind and subtype that a call adds a node of, if it adds one under a new id. -/
def AnyCall.addition? : AnyCall → Option (Kind × Json)
  | .call (.addCondition subtype _ _) => some (.condition, subtype)
  | .call (.addAction subtype _) => some (.action, subtype)
  | .call (.addLogical subtype) => some (.logical, subtype)
  | _ => none

/-- The front part of the new id for a node of a kind. No id is taken for a subtype that is not
known. -/
def Kind.idStem? (kind : Kind) : Json → Option String
  | .str subtype => if kind.knowsSubtype subtype then some (Editor.idStem subtype) else none
  | _ => none

namespace AnyCall
open Editor
variable {c : AnyCall} {e : Editor} {stem : String}

def stem? (c : AnyCall) : Option String := c.addition?.bind fun (kind, subtype) =>
  kind.idStem? subtype

/-- The new id that a call takes, also if it fails afterwards. -/
def newId? (c : AnyCall) (e : Editor) : Option String := c.stem?.map fun stem => (e.newId stem).1

/-- The node that an addition makes, if any, goes to the end of the graph under a given id. -/
def AddsUnder (id : String) (e after : Editor) : Prop :=
  after.graph = e.graph ∨ ∃ r : RuleNode, r.id = id ∧
    after.graph = { e.graph with nodes := e.graph.nodes ++ [.rule r] }

end AnyCall

namespace Editor
variable {e : Editor} {kind : Kind} {subtype : Json} {more : Fields} {stem : String}

@[simp] lemma counter_ofGraphEdit {α : Type} (outcome : Except EditFault (Graph × α))
    (event : α → GraphEvent) : (e.ofGraphEdit outcome event).editor.counter = e.counter := by
  rcases outcome with fault | ⟨g, a⟩ <;> rfl

@[simp] lemma counter_unlink (source output target input : Json) :
    (e.unlink source output target input).editor.counter = e.counter := by
  unfold unlink
  split <;> rfl

@[simp] lemma counter_load (limit payload : Json) :
    (e.load limit payload).editor.counter = e.counter := by
  unfold load
  split <;> rfl

/-- What a call does that takes the ids with some stem, if it takes any: the number of the new id is
spent, and no other node is in its way. -/
structure Takes (e : Editor) (stem? : Option String) {α : Type} (made : Edit α) : Prop where
  counter : made.editor.counter = (stem?.map fun stem => (e.newId stem).2).getD e.counter
  adds : ∀ stem ∈ stem?, AnyCall.AddsUnder (e.newId stem).1 e made.editor
  noDuplicate : ∀ id, made.outcome ≠ .error (.graph (.duplicateId id))

lemma takes_addNew (kind : Kind) (subtype : String) (more : Fields) :
    e.Takes (some (idStem subtype)) (e.addNew kind subtype more) := by
  rw [addNew_eq]
  cases hmade : RuleNode.ofFields kind (e.newFields kind subtype more) with
  | invalid issues =>
    refine ⟨rfl, ?_, by simp [notAdded]⟩
    rintro _ ⟨rfl⟩
    exact .inl rfl
  | valid r =>
    have hid : r.id = (e.newId (idStem subtype)).1 := by
      obtain ⟨_, hread, _⟩ := RuleNode.ofFields_eq_valid hmade
      simpa [newFields, eq_comm] using hread
    have hfree : e.graph.has (Node.rule r).key = false := by
      rw [Node.key_rule, hid, has_newId]
    dsimp only
    unfold Graph.insert
    rw [if_neg (Bool.eq_false_iff.mp hfree)]
    refine ⟨counter_ofGraphEdit _ _, ?_, ?_⟩
    · rintro _ ⟨rfl⟩
      cases Graph.reached? e.graph.size e.graph.limit with
      | none => exact .inl rfl
      | some full =>
        cases full with
        | true => exact .inl rfl
        | false => exact .inr ⟨r, hid, rfl⟩
    · intro id
      cases Graph.reached? e.graph.size e.graph.limit with
      | none => simp [ofGraphEdit, Except.map, fail, Fault.ofEdit]
      | some full => cases full <;> simp [ofGraphEdit, Except.map, fail, Fault.ofEdit]

lemma takes_addKnown (kind : Kind) (subtype : Json) (more : Fields) :
    e.Takes (kind.idStem? subtype) (e.addKnown kind subtype more) := by
  have hfail : e.Takes none (e.fail (.unknownSubtype subtype kind) : Edit Node) :=
    ⟨rfl, by simp, by simp [fail]⟩
  cases subtype with
  | str s =>
    simp only [Kind.idStem?, addKnown]
    split_ifs
    · exact takes_addNew kind s more
    · exact hfail
  | _ => exact hfail

end Editor

namespace AnyCall
open Editor
variable {c : AnyCall} {e : Editor} {kind : Kind} {subtype : Json}

lemma takes_edit (h : c.addition? = some (kind, subtype)) :
    e.Takes (kind.idStem? subtype) (c.edit e) := by
  rcases c with c | n | value
  · cases c <;> cases h <;> exact takes_addKnown _ _ _
  · cases h
  · cases h

lemma counter_of_no_addition (h : c.addition? = none) : (c.edit e).editor.counter = e.counter := by
  rcases c with c | n | value
  · cases c with
    | addCondition => cases h
    | addAction => cases h
    | addLogical => cases h
    | unlink => exact counter_unlink _ _ _ _
    | load => exact counter_load _ _
    | _ => exact counter_ofGraphEdit _ _
  · exact counter_ofGraphEdit _ _
  · rfl

/-- The counter goes on behind the number of the new id, if the call takes one. -/
lemma counter_edit : (c.edit e).editor.counter =
    (c.stem?.map fun stem => (e.newId stem).2).getD e.counter := by
  cases h : c.addition? with
  | none => simp [stem?, h, counter_of_no_addition h]
  | some addition => simp [stem?, h, (takes_edit h).counter]

end AnyCall

/-! ### Sessions -/

/-- What happens in a session: a call, or another graph in the place of the one in hand. -/
inductive EditorStep where
  | call (c : AnyCall)
  | replace (g : Graph)

namespace EditorStep

def apply (e : Editor) : EditorStep → Editor
  | .call c => (c.edit e).editor
  | .replace g => { e with graph := g }

/-- The new id that a step takes. -/
def newId? (e : Editor) : EditorStep → Option String
  | .call c => c.newId? e
  | .replace _ => none

end EditorStep

namespace Editor
variable {e : Editor} {step : EditorStep} {id : String}

def run (e : Editor) (steps : List EditorStep) : Editor := steps.foldl EditorStep.apply e

/-- The ids that are taken on the way, one after the other. -/
def idsTaken (e : Editor) : List EditorStep → List String
  | [] => []
  | step :: steps => (step.newId? e).toList ++ (step.apply e).idsTaken steps

/-- The number of an id lies below the counter. -/
def Spent (e : Editor) (id : String) : Prop := ∃ stem n, id = numberedId stem n ∧ n < e.counter

lemma counter_le_newId (e : Editor) (stem : String) : e.counter < (e.newId stem).2 := by
  obtain ⟨n, hsearch, hnew⟩ := search_newId e stem
  rw [hnew]
  exact Nat.lt_succ_of_le hsearch.le

lemma counter_le_apply (e : Editor) (step : EditorStep) : e.counter ≤ (step.apply e).counter := by
  cases step with
  | replace g => exact Nat.le_refl _
  | call c =>
    change e.counter ≤ (c.edit e).editor.counter
    rw [AnyCall.counter_edit]
    cases c.stem? with
    | none => exact Nat.le_refl _
    | some stem => exact (counter_le_newId e stem).le

lemma Spent.apply (h : e.Spent id) : (step.apply e).Spent id := by
  obtain ⟨stem, n, rfl, hn⟩ := h
  exact ⟨stem, n, rfl, hn.trans_le (counter_le_apply e step)⟩

/-- The id that a step takes is spent by that. -/
lemma spent_of_newId? (h : step.newId? e = some id) : (step.apply e).Spent id := by
  cases step with
  | replace g => cases h
  | call c =>
    obtain ⟨stem, hstem, rfl⟩ := Option.map_eq_some_iff.mp h
    obtain ⟨n, hsearch, hnew⟩ := search_newId e stem
    refine ⟨stem, n, by rw [hnew], ?_⟩
    change n < (c.edit e).editor.counter
    simp [AnyCall.counter_edit, hstem, hnew]

lemma spent_run (steps : List EditorStep) (h : e.Spent id) : (e.run steps).Spent id := by
  induction steps generalizing e with
  | nil => exact h
  | cons step steps ih => exact ih h.apply

theorem spent_of_mem_idsTaken {steps : List EditorStep} (h : id ∈ e.idsTaken steps) :
    (e.run steps).Spent id := by
  induction steps generalizing e with
  | nil => cases h
  | cons step steps ih =>
    rcases List.mem_append.mp h with hfirst | hlater
    · exact spent_run steps (spent_of_newId? (Option.mem_toList.mp hfirst))
    · exact ih hlater

/-- Whatever happened before in a session, the next call that takes a new id finds one after
finitely many tries. The id is not in the graph and was not taken before, its number is spent, and a
node that the call adds goes under it. No addition fails over an id that is there already. -/
theorem newId_fresh (e : Editor) (before : List EditorStep) (c : AnyCall) :
    (∀ stem ∈ c.stem?, ∃ n, Search (e.run before).graph stem (e.run before).counter n ∧
      c.newId? (e.run before) = some (numberedId stem n) ∧
      (e.run before).graph.has (.text (numberedId stem n)) = false ∧
      numberedId stem n ∉ e.idsTaken before ∧
      (c.edit (e.run before)).editor.counter = n + 1 ∧
      AnyCall.AddsUnder (numberedId stem n) (e.run before) (c.edit (e.run before)).editor) ∧
    (c.addition?.isSome →
      ∀ id, (c.edit (e.run before)).outcome ≠ .error (.graph (.duplicateId id))) := by
  constructor
  · intro stem hstem
    obtain ⟨n, hsearch, hnew⟩ := search_newId (e.run before) stem
    have hfree := has_newId (e.run before) stem
    have hid : c.newId? (e.run before) = some (numberedId stem n) := by
      rw [AnyCall.newId?, hstem, Option.map_some, hnew]
    rw [hnew] at hfree
    refine ⟨n, hsearch, hid, hfree, fun hbefore => ?_, ?_, ?_⟩
    · obtain ⟨other, m, hsame, hm⟩ := spent_of_mem_idsTaken hbefore
      have hn : n = m := number_eq_of_numberedId_eq hsame
      exact absurd hsearch.le (by omega)
    · simp [AnyCall.counter_edit, Option.mem_def.mp hstem, hnew]
    · obtain ⟨⟨kind, subtype⟩, hadds, hkind⟩ := Option.bind_eq_some_iff.mp hstem
      have htakes : (e.run before).Takes _ (c.edit (e.run before)) := AnyCall.takes_edit hadds
      have hunder := htakes.adds stem hkind
      rwa [hnew] at hunder
  · intro hadds
    obtain ⟨⟨kind, subtype⟩, hadds⟩ := Option.isSome_iff_exists.mp hadds
    exact (AnyCall.takes_edit hadds).noDuplicate

/-- A node is gone again, one has an id that looks like a new one, and one is refused. -/
example : (ofGraph (.empty (.int 3))).idsTaken
    [.call (.call (.addCondition (.str "product_id") (.str "equals") .null)),
      .call (.call (.remove (.str "product-id-1"))),
      .call (.insert (.loose ⟨none, .str "product-id-2", [], .text "product-id-2", rfl⟩)),
      .call (.call (.addCondition (.str "product_id") (.str "equals") (.int 0))),
      .call (.call (.addCondition (.str "product_id") (.str "equals") (.int 7)))] =
    ["product-id-1", "product-id-3", "product-id-4"] := by
  decide +kernel

end Editor
end Promotion
