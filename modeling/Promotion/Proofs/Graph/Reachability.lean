import Promotion.Graph.Reachability
import Mathlib.Logic.Relation
import Mathlib.Tactic.Lemma

/-! Ways along connections as a relation. The search finds its goal exactly when there is a way, and
a new connection closes no cycle unless its target already led to its source. -/
namespace Promotion.Connection
open Relation

/-- One step: a connection on the list goes from one id to the other. -/
def Joins (cs : List Connection) (a b : String) : Prop :=
  ∃ c ∈ cs, c.source = a ∧ c.target = b

/-- A way of any length, no step included. -/
def Path (cs : List Connection) : String → String → Prop := ReflTransGen (Joins cs)

/-- No id can be reached from itself in one step or more. -/
def Acyclic (cs : List Connection) : Prop := ∀ id, ¬TransGen (Joins cs) id id

variable {cs ds : List Connection} {c : Connection} {a b id goal : String}

lemma Joins.mono (hsub : cs ⊆ ds) (h : Joins cs a b) : Joins ds a b := by
  obtain ⟨c, hc, hends⟩ := h
  exact ⟨c, hsub hc, hends⟩

lemma Path.mono (hsub : cs ⊆ ds) (h : Path cs a b) : Path ds a b :=
  ReflTransGen.mono (fun _ _ => Joins.mono hsub) _ _ h

lemma Acyclic.mono (hsub : cs ⊆ ds) (h : Acyclic ds) : Acyclic cs :=
  fun id hcycle => h id (TransGen.mono (fun _ _ => Joins.mono hsub) _ _ hcycle)

lemma acyclic_nil : Acyclic [] := by
  intro id hcycle
  obtain ⟨_, ⟨_, hmem, _⟩, _⟩ := TransGen.head'_iff.mp hcycle
  exact List.not_mem_nil hmem

lemma joins_of_mem (hc : c ∈ cs) : Joins cs c.source c.target := ⟨c, hc, rfl, rfl⟩

/-! ### The search -/

lemma mem_leaving : c ∈ leaving id cs ↔ c ∈ cs ∧ c.source = id := by simp [leaving]

lemma mem_elsewhere : c ∈ elsewhere id cs ↔ c ∈ cs ∧ c.source ≠ id := by simp [elsewhere]

lemma elsewhere_subset : elsewhere id cs ⊆ cs := fun _ hc => (mem_elsewhere.mp hc).1

/-- A way to another id leaves a given id for the last time at some point, or never visits it. -/
lemma Path.last_visit (id : String) (h : Path cs a goal) :
    Path (elsewhere id cs) a goal ∨
      ∃ c ∈ leaving id cs, Path (elsewhere id cs) c.target goal := by
  induction h using ReflTransGen.head_induction_on with
  | refl => exact Or.inl .refl
  | @head a b hstep _ ih =>
    rcases ih with hpath | hlast
    · obtain ⟨c, hc, rfl, rfl⟩ := hstep
      by_cases hid : c.source = id
      · exact Or.inr ⟨c, mem_leaving.mpr ⟨hc, hid⟩, hpath⟩
      · have hjoins : Joins (elsewhere id cs) c.source c.target :=
          joins_of_mem (mem_elsewhere.mpr ⟨hc, hid⟩)
        exact Or.inl (hpath.head hjoins)
    · exact Or.inr hlast

/-- From an id that no connection leaves there is no way to anything else. -/
lemma not_path_of_sink (hsink : ∀ c ∈ cs, c.source ≠ a) (hne : a ≠ b) : ¬Path cs a b := by
  intro hpath
  rcases hpath.cases_head with heq | ⟨_, ⟨c, hc, hsource, _⟩, _⟩
  · exact hne heq
  · exact hsink c hc hsource

lemma not_path_elsewhere (hne : id ≠ goal) : ¬Path (elsewhere id cs) id goal :=
  not_path_of_sink (fun _ hc => (mem_elsewhere.mp hc).2) hne

theorem search_iff (goal : String) (pending : List String) (untried : List Connection) :
    search goal pending untried = true ↔ ∃ id ∈ pending, Path untried id goal := by
  fun_induction search goal pending untried with
  | case1 => simp
  | case2 pending untried =>
    have hpath : Path untried goal goal := ReflTransGen.refl
    simp [hpath]
  | case3 id pending untried hne ih =>
    rw [ih]
    constructor
    · rintro ⟨start, hstart, hpath⟩
      have hpath' := hpath.mono elsewhere_subset
      rcases List.mem_append.mp hstart with htarget | hpending
      · obtain ⟨c, hc, rfl⟩ := List.mem_map.mp htarget
        obtain ⟨hmem, rfl⟩ := mem_leaving.mp hc
        exact ⟨_, List.mem_cons_self, hpath'.head (joins_of_mem hmem)⟩
      · exact ⟨start, List.mem_cons_of_mem _ hpending, hpath'⟩
    · rintro ⟨start, hstart, hpath⟩
      rcases hpath.last_visit id with havoids | ⟨c, hc, hlast⟩
      · rcases List.mem_cons.mp hstart with rfl | hpending
        · exact absurd havoids (not_path_elsewhere hne)
        · exact ⟨start, List.mem_append_right _ hpending, havoids⟩
      · exact ⟨c.target, List.mem_append_left _ (List.mem_map_of_mem hc), hlast⟩

theorem reaches_iff_path {start goal : String} :
    reaches cs start goal = true ↔ Path cs start goal := by
  simp [reaches, search_iff]

/-! ### New connections -/

/-- A way along a longer list either was there before or uses the new connection. -/
lemma transGen_append_singleton (h : TransGen (Joins (cs ++ [c])) a b) :
    TransGen (Joins cs) a b ∨ Path cs a c.source ∧ Path cs c.target b := by
  induction h with
  | single hstep =>
    obtain ⟨d, hd, rfl, rfl⟩ := hstep
    rcases List.mem_append.mp hd with hold | hnew
    · exact Or.inl (.single (joins_of_mem hold))
    · obtain rfl := List.mem_singleton.mp hnew
      exact Or.inr ⟨.refl, .refl⟩
  | tail _ hstep ih =>
    obtain ⟨d, hd, rfl, rfl⟩ := hstep
    rcases List.mem_append.mp hd with hold | hnew
    · rcases ih with hbefore | ⟨hto, hfrom⟩
      · exact Or.inl (hbefore.tail (joins_of_mem hold))
      · exact Or.inr ⟨hto, hfrom.tail (joins_of_mem hold)⟩
    · obtain rfl := List.mem_singleton.mp hnew
      rcases ih with hbefore | ⟨hto, _⟩
      · exact Or.inr ⟨hbefore.to_reflTransGen, .refl⟩
      · exact Or.inr ⟨hto, .refl⟩

theorem Acyclic.append_singleton (h : Acyclic cs) (hback : ¬Path cs c.target c.source) :
    Acyclic (cs ++ [c]) := by
  intro id hcycle
  rcases transGen_append_singleton hcycle with hbefore | ⟨hto, hfrom⟩
  · exact h id hbefore
  · exact hback (hfrom.trans hto)

/-- A way along two lists stays on the first, or goes along it up to a connection of the second. -/
lemma Path.through (h : Path (cs ++ ds) a b) :
    Path cs a b ∨ ∃ d ∈ ds, Path cs a d.source ∧ Path (cs ++ ds) d.target b := by
  induction h with
  | refl => exact Or.inl .refl
  | tail _ hstep ih =>
    obtain ⟨d, hd, rfl, rfl⟩ := hstep
    rcases ih with hpath | ⟨e, he, hto, hfrom⟩
    · rcases List.mem_append.mp hd with hfirst | hsecond
      · exact Or.inl (hpath.tail (joins_of_mem hfirst))
      · exact Or.inr ⟨d, hsecond, hpath, .refl⟩
    · exact Or.inr ⟨e, he, hto, hfrom.tail (joins_of_mem hd)⟩

/-- A connection of an acyclic list has no way back along the others. -/
lemma Acyclic.not_path_back (h : Acyclic ds) (hsub : cs ⊆ ds) (hc : c ∈ ds) :
    ¬Path cs c.target c.source :=
  fun hpath => h c.source (TransGen.head' (joins_of_mem hc) (hpath.mono hsub))

end Promotion.Connection
