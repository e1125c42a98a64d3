import Promotion.Proofs.Graph.Reachability

/-! The search as a loop over a stack. A round takes the id on top, passes it over if it was seen
before, and otherwise puts on top what its connections lead to. The stack may hold an id many times,
but every connection is put on it once at most, and so the loop ends. -/
namespace Promotion.Connection
open Relation

/-- A run of the loop to its end, with the number of its rounds. The stack begins with its top. -/
inductive Searched (cs : List Connection) (goal : String) :
    (stack seen : List String) → (rounds : Nat) → (answer : Bool) → Prop
  | empty (seen : List String) : Searched cs goal [] seen 0 false
  | found (stack seen : List String) : Searched cs goal (goal :: stack) seen 1 true
  | again {id : String} {stack seen : List String} {rounds : Nat} {answer : Bool}
    (hne : id ≠ goal) (hseen : id ∈ seen) (rest : Searched cs goal stack seen rounds answer) :
    Searched cs goal (id :: stack) seen (rounds + 1) answer
  | fresh {id : String} {stack seen : List String} {rounds : Nat} {answer : Bool}
    (hne : id ≠ goal) (hnew : id ∉ seen)
    (rest : Searched cs goal (((leaving id cs).map target).reverse ++ stack) (id :: seen) rounds
      answer) :
    Searched cs goal (id :: stack) seen (rounds + 1) answer

variable {cs : List Connection} {stack stack' seen : List String} {id start goal : String}
  {rounds rounds' : Nat} {answer answer' : Bool}

/-- The loop never has a choice. -/
lemma Searched.unique (h : Searched cs goal stack seen rounds answer)
    (h' : Searched cs goal stack seen rounds' answer') : rounds = rounds' ∧ answer = answer' := by
  induction h generalizing rounds' with
  | empty seen =>
    cases h'
    exact ⟨rfl, rfl⟩
  | found stack seen =>
    cases h' with
    | found => exact ⟨rfl, rfl⟩
    | again hne => exact absurd rfl hne
    | fresh hne => exact absurd rfl hne
  | again hne hseen _ ih =>
    cases h' with
    | found => exact absurd rfl hne
    | again _ _ rest =>
      obtain ⟨rfl, rfl⟩ := ih rest
      exact ⟨rfl, rfl⟩
    | fresh _ hnew => exact absurd hseen hnew
  | fresh hne hnew _ ih =>
    cases h' with
    | found => exact absurd rfl hne
    | again _ hseen => exact absurd hseen hnew
    | fresh _ _ rest =>
      obtain ⟨rfl, rfl⟩ := ih rest
      exact ⟨rfl, rfl⟩

/-! ### The loop beside the search along untried connections -/

/-- The connections that start at no id seen so far. These are the ones that were not tried. -/
def unseen (seen : List String) (cs : List Connection) : List Connection :=
  cs.filter fun c => !seen.contains c.source

lemma elsewhere_unseen (id : String) (seen : List String) (cs : List Connection) :
    elsewhere id (unseen seen cs) = unseen (id :: seen) cs := by
  unfold elsewhere unseen
  rw [List.filter_filter]
  exact List.filter_congr fun c _ => by rw [List.contains_cons, Bool.not_or]

lemma leaving_unseen_of_mem (h : id ∈ seen) : leaving id (unseen seen cs) = [] := by
  simp only [leaving, unseen, List.filter_filter, List.filter_eq_nil_iff]
  rintro c _ hc
  obtain ⟨rfl, hnew⟩ : c.source = id ∧ c.source ∉ seen := by simpa using hc
  exact hnew h

lemma leaving_unseen_of_notMem (h : id ∉ seen) : leaving id (unseen seen cs) = leaving id cs := by
  simp only [leaving, unseen, List.filter_filter]
  refine List.filter_congr fun c _ => ?_
  by_cases hc : c.source = id <;> simp [hc, h]

lemma unseen_cons_of_mem (h : id ∈ seen) : unseen (id :: seen) cs = unseen seen cs := by
  refine List.filter_congr fun c _ => ?_
  by_cases hc : c.source = id <;> simp [hc, h]

/-- The order of the pending ids does not matter for the answer. -/
lemma search_perm (h : stack.Perm stack') (untried : List Connection) :
    search goal stack untried = search goal stack' untried := by
  rw [Bool.eq_iff_iff, search_iff, search_iff]
  simp only [h.mem_iff]

/-- An id that was seen before adds nothing to a search. -/
lemma search_again (hne : id ≠ goal) (hseen : id ∈ seen) (stack : List String) :
    search goal (id :: stack) (unseen seen cs) = search goal stack (unseen seen cs) := by
  rw [search, if_neg hne, leaving_unseen_of_mem hseen, elsewhere_unseen, unseen_cons_of_mem hseen]
  rfl

lemma search_fresh (hne : id ≠ goal) (hnew : id ∉ seen) (stack : List String) :
    search goal (id :: stack) (unseen seen cs) =
      search goal (((leaving id cs).map target).reverse ++ stack) (unseen (id :: seen) cs) := by
  rw [search, if_neg hne, leaving_unseen_of_notMem hnew, elsewhere_unseen]
  exact search_perm ((List.reverse_perm _).symm.append_right stack) _

/-- What is on the stack and what is not tried yet bounds the rounds that are left: a round takes an
id off, and a connection that puts one on is not tried again. -/
lemma exists_searched (cs : List Connection) (goal : String) (stack seen : List String) :
    ∃ rounds ≤ stack.length + (unseen seen cs).length,
      Searched cs goal stack seen rounds (search goal stack (unseen seen cs)) := by
  induction hsize : stack.length + (unseen seen cs).length using Nat.strongRecOn
    generalizing stack seen with
  | ind size ih =>
    subst hsize
    cases stack with
    | nil => exact ⟨0, Nat.zero_le _, by simpa [search] using .empty seen⟩
    | cons id stack =>
      rw [List.length_cons]
      by_cases hgoal : id = goal
      · subst hgoal
        exact ⟨1, by omega, by simpa [search] using .found stack seen⟩
      · by_cases hseen : id ∈ seen
        · obtain ⟨rounds, hrounds, hrest⟩ := ih _ (by simp) stack seen rfl
          rw [search_again hgoal hseen]
          exact ⟨rounds + 1, by omega, .again hgoal hseen hrest⟩
        · have hsplit := length_leaving_add_length_elsewhere id (unseen seen cs)
          rw [leaving_unseen_of_notMem hseen, elsewhere_unseen] at hsplit
          obtain ⟨rounds, hrounds, hrest⟩ := ih _ (by simp; omega)
            (((leaving id cs).map target).reverse ++ stack) (id :: seen) rfl
          simp only [List.length_append, List.length_reverse, List.length_map] at hrounds
          rw [search_fresh hgoal hseen]
          exact ⟨rounds + 1, by omega, .fresh hgoal hseen hrest⟩

/-- For every list of connections, with cycles or repetitions or not, the loop ends after no more
rounds than there are connections and one. Its answer is yes exactly when the goal is the start or
there is a way of one or more connections to it. -/
theorem reaches_decides (cs : List Connection) (start goal : String) :
    (∃ rounds ≤ cs.length + 1, Searched cs goal [start] [] rounds (reaches cs start goal)) ∧
    (∀ rounds answer, Searched cs goal [start] [] rounds answer →
      answer = reaches cs start goal) ∧
    (reaches cs start goal = true ↔ goal = start ∨ TransGen (Joins cs) start goal) := by
  have hall : unseen [] cs = cs := by simp [unseen]
  obtain ⟨rounds, hrounds, hrun⟩ := exists_searched cs goal [start] []
  rw [hall] at hrounds hrun
  refine ⟨⟨rounds, by simpa [Nat.add_comm] using hrounds, hrun⟩, fun _ _ h => (h.unique hrun).2, ?_⟩
  rw [reaches_iff_path]
  exact reflTransGen_iff_eq_or_transGen

end Promotion.Connection
