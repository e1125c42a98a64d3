import Promotion.Fault
import Promotion.Rule.Tree
import Mathlib.Data.List.Basic
import Mathlib.Logic.Relation
import Mathlib.Tactic.Lemma

/-! Trees of any rule, whether or not a graph was compiled to it: links may loop, lead nowhere, or
meet in one input, and entries may share ids. The inputs on the way from what feeds an action to a
node make an address. A tree comes out exactly if there is a defect at no address; otherwise the
defect that is reported is the one at the first address, and a way that goes on before one that
turns from input `a` to input `b`. -/
namespace Promotion.Rule
open Relation

/-- The last element of a list that has a property. -/
def IsLast {α : Type} (P : α → Prop) (xs : List α) (x : α) : Prop :=
  ∃ before after, xs = before ++ x :: after ∧ P x ∧ ∀ y ∈ after, ¬P y

def IsCondition (r : Rule) (id : String) : Prop := ∃ e ∈ r.conditions, e.id = id

def IsLogical (r : Rule) (id : String) : Prop := ∃ e ∈ r.logicals, e.id = id

/-- The last link into an input comes from a node. -/
def Feeds (r : Rule) (s target input : String) : Prop :=
  ∃ l, IsLast (fun l => l.target = target ∧ l.input = input) r.links l ∧ l.source = s

/-- No link leads into an input. -/
def Unfed (r : Rule) (target input : String) : Prop :=
  ∀ l ∈ r.links, ¬(l.target = target ∧ l.input = input)

/-- The inputs that are resolved, in this order. -/
def treeInputs : List String := Kind.logical.sockets.inputs

/-- From a node to what feeds one of its inputs. Conditions are the ends of all ways, and an id
that a condition shares is that of a condition. -/
def Behind (r : Rule) (id s : String) : Prop :=
  ¬r.IsCondition id ∧ ∃ input ∈ treeInputs, r.Feeds s id input

/-- An id that is met on the way back from a node. -/
def Meets (r : Rule) (start id : String) : Prop := ReflTransGen r.Behind start id

/-- What a tree for an action takes, given what feeds the action. -/
structure Resolvable (r : Rule) (action start : String) : Prop where
  avoids : ∀ id, r.Meets start id → id ≠ action
  known : ∀ id, r.Meets start id → r.IsCondition id ∨ r.IsLogical id
  fed : ∀ id, r.Meets start id → r.IsLogical id → ¬r.IsCondition id →
    ∀ input ∈ treeInputs, ∃ s, r.Feeds s id input
  noLoop : ∀ id, r.Meets start id → r.IsLogical id → ¬TransGen r.Behind id id

/-- What is wrong at an address, for a node that was reached along a path. -/
inductive Defect (r : Rule) : (path : List String) → (id : String) → (address : List String) →
    TreeFault → Prop
  | loop {path : List String} {id : String} (hmem : id ∈ path) : Defect r path id [] (.loop id path)
  | stray {path : List String} {id : String} (hnew : id ∉ path) (hcondition : ¬r.IsCondition id)
      (hlogical : ¬r.IsLogical id) : Defect r path id [] (.notACondition id path)
  | unfed {path : List String} {id input : String} {e : LogicalEntry}
      (hcondition : ¬r.IsCondition id) (hlogical : IsLast (fun e => e.id = id) r.logicals e)
      (hinput : input ∈ treeInputs) (hunfed : r.Unfed id input) :
      Defect r path id [input] (.unconnected e.type id input)
  | behind {path address : List String} {id s input : String} {fault : TreeFault}
      (hcondition : ¬r.IsCondition id) (hlogical : r.IsLogical id) (hinput : input ∈ treeInputs)
      (hfeeds : r.Feeds s id input) (hbehind : Defect r (path ++ [id]) s address fault) :
      Defect r path id (input :: address) fault

/-- There is no defect, at whatever address. -/
def Flawless (r : Rule) (path : List String) (id : String) : Prop :=
  ∀ address fault, ¬r.Defect path id address fault

/-- The defect at the first address that has one, in the order of words: an address comes before
those that go on from it, and input `a` before input `b`. -/
def FirstDefect (r : Rule) (path : List String) (id : String) (fault : TreeFault) : Prop :=
  ∃ address, r.Defect path id address fault ∧
    ∀ earlier, earlier < address → ∀ other, ¬r.Defect path id earlier other

variable {r : Rule} {path address : List String} {action start id s t input target : String}
  {fault : TreeFault} {e : LogicalEntry} {outcome : Except TreeFault ConditionTree}

/-! ### Looking up -/

lemma lastWith?_eq_some_iff_isLast {α : Type} {p : α → Bool} {xs : List α} {x : α} :
    lastWith? p xs = some x ↔ IsLast (fun y => p y = true) xs x := by
  unfold lastWith? IsLast
  rw [List.find?_eq_some_iff_append]
  constructor
  · rintro ⟨hx, before, after, hxs, hbefore⟩
    refine ⟨after.reverse, before.reverse, ?_, hx, ?_⟩
    · simpa using congrArg List.reverse hxs
    · intro y hy
      simpa using hbefore y (List.mem_reverse.mp hy)
  · rintro ⟨before, after, rfl, hx, hafter⟩
    refine ⟨hx, after.reverse, before.reverse, by simp, ?_⟩
    intro y hy
    simpa using hafter y (List.mem_reverse.mp hy)

lemma lastWith?_eq_none_iff {α : Type} {p : α → Bool} {xs : List α} :
    lastWith? p xs = none ↔ ∀ x ∈ xs, p x = false := by
  simp [lastWith?]

lemma condition?_eq_none_iff : r.condition? id = none ↔ ¬r.IsCondition id := by
  simp [condition?, IsCondition, lastWith?_eq_none_iff]

lemma isCondition_of_condition? {e : ConditionEntry} (h : r.condition? id = some e) :
    r.IsCondition id := by
  obtain ⟨before, after, hlist, hid, _⟩ := lastWith?_eq_some_iff_isLast.mp h
  exact ⟨e, by simp [hlist], by simpa using hid⟩

lemma logical?_eq_none_iff : r.logical? id = none ↔ ¬r.IsLogical id := by
  simp [logical?, IsLogical, lastWith?_eq_none_iff]

lemma logical?_eq_some_iff_isLast :
    r.logical? id = some e ↔ IsLast (fun e => e.id = id) r.logicals e := by
  simp [logical?, lastWith?_eq_some_iff_isLast]

lemma source?_eq_some_iff_feeds : r.source? target input = some s ↔ r.Feeds s target input := by
  simp [source?, Feeds, lastWith?_eq_some_iff_isLast]

lemma source?_eq_none_iff_unfed : r.source? target input = none ↔ r.Unfed target input := by
  simp [source?, Unfed, lastWith?_eq_none_iff]

lemma Feeds.unique (hs : r.Feeds s target input) (ht : r.Feeds t target input) : s = t := by
  rw [← source?_eq_some_iff_feeds] at hs ht
  exact Option.some.inj (hs.symm.trans ht)

lemma Feeds.not_unfed (hs : r.Feeds s target input) : ¬r.Unfed target input := by
  rw [← source?_eq_some_iff_feeds] at hs
  rw [← source?_eq_none_iff_unfed, hs]
  exact Option.some_ne_none s

lemma isLogical_of_isLast (h : IsLast (fun e => e.id = id) r.logicals e) : r.IsLogical id := by
  obtain ⟨hmem, hid⟩ := logical?_mem (logical?_eq_some_iff_isLast.mpr h)
  exact ⟨e, hmem, hid⟩

lemma exists_isLast_of_isLogical (h : r.IsLogical id) :
    ∃ e, IsLast (fun e => e.id = id) r.logicals e := by
  cases he : r.logical? id with
  | none => exact absurd h (logical?_eq_none_iff.mp he)
  | some e => exact ⟨e, logical?_eq_some_iff_isLast.mp he⟩

lemma exists_feeds_or_unfed (r : Rule) (target input : String) :
    (∃ s, r.Feeds s target input) ∨ r.Unfed target input := by
  cases hs : r.source? target input with
  | none => exact Or.inr (source?_eq_none_iff_unfed.mp hs)
  | some s => exact Or.inl ⟨s, source?_eq_some_iff_feeds.mp hs⟩

/-! ### Defects behind a logical node -/

/-- A condition that is not on the path has nothing to report. -/
lemma flawless_of_isCondition (hnew : id ∉ path) (hcondition : r.IsCondition id) :
    r.Flawless path id := by
  intro address fault hdefect
  cases hdefect with
  | loop hmem => exact hnew hmem
  | stray _ hnot => exact hnot hcondition
  | unfed hnot => exact hnot hcondition
  | behind hnot => exact hnot hcondition

/-- The defects of a logical node that is new on the path are those of its inputs. -/
lemma Defect.exists_input (hdefect : r.Defect path id address fault) (hnew : id ∉ path)
    (hlogical : r.IsLogical id) :
    ∃ input ∈ treeInputs, ∃ rest, address = input :: rest ∧
      ∀ s, r.Feeds s id input → r.Defect (path ++ [id]) s rest fault := by
  cases hdefect with
  | loop hmem => exact absurd hmem hnew
  | stray _ _ hnot => exact absurd hlogical hnot
  | unfed _ _ hinput hunfed =>
    exact ⟨_, hinput, [], rfl, fun s hs => absurd hunfed hs.not_unfed⟩
  | behind _ _ hinput hfeeds hbehind =>
    exact ⟨_, hinput, _, rfl, fun s hs => hs.unique hfeeds ▸ hbehind⟩

lemma mem_treeInputs : input ∈ treeInputs ↔ input = "a" ∨ input = "b" := by
  simp [treeInputs, Kind.sockets]

/-- Behind an input without a defect there is none to be found. -/
lemma Defect.input_ne (hdefect : r.Defect path id (input :: address) fault) (hnew : id ∉ path)
    (hlogical : r.IsLogical id) (hs : r.Feeds s id target) (hnone : r.Flawless (path ++ [id]) s) :
    input ≠ target := by
  rintro rfl
  obtain ⟨_, _, rest, haddress, hbehind⟩ := hdefect.exists_input hnew hlogical
  obtain ⟨rfl, rfl⟩ := List.cons.inj haddress
  exact hnone _ _ (hbehind s hs)

/-- The first defect behind an input is the first one of the node, if all inputs that come before
have none. -/
lemma FirstDefect.of_input (hnew : id ∉ path) (hcondition : ¬r.IsCondition id)
    (hlogical : r.IsLogical id) (hinput : input ∈ treeInputs) (hs : r.Feeds s id input)
    (hbefore : ∀ other ∈ treeInputs, other < input →
      ∃ t, r.Feeds t id other ∧ r.Flawless (path ++ [id]) t)
    (hfirst : r.FirstDefect (path ++ [id]) s fault) : r.FirstDefect path id fault := by
  obtain ⟨address, hdefect, hleast⟩ := hfirst
  refine ⟨input :: address, .behind hcondition hlogical hinput hs hdefect, ?_⟩
  intro earlier hlt other hother
  obtain ⟨input', hinput', rest, rfl, hbehind⟩ := hother.exists_input hnew hlogical
  rcases List.cons_lt_cons_iff.mp hlt with hless | ⟨rfl, hless⟩
  · obtain ⟨t, ht, hnone⟩ := hbefore input' hinput' hless
    exact hother.input_ne hnew hlogical ht hnone rfl
  · exact hleast rest hless other (hbehind s hs)

/-- The same for an input that nothing feeds. -/
lemma FirstDefect.of_unfed (hnew : id ∉ path) (hcondition : ¬r.IsCondition id)
    (he : IsLast (fun e => e.id = id) r.logicals e) (hinput : input ∈ treeInputs)
    (hunfed : r.Unfed id input)
    (hbefore : ∀ other ∈ treeInputs, other < input →
      ∃ t, r.Feeds t id other ∧ r.Flawless (path ++ [id]) t) :
    r.FirstDefect path id (.unconnected e.type id input) := by
  have hlogical := isLogical_of_isLast he
  refine ⟨[input], .unfed hcondition he hinput hunfed, ?_⟩
  intro earlier hlt other hother
  obtain ⟨input', hinput', rest, rfl, _⟩ := hother.exists_input hnew hlogical
  rcases List.cons_lt_cons_iff.mp hlt with hless | ⟨rfl, hless⟩
  · obtain ⟨t, ht, hnone⟩ := hbefore input' hinput' hless
    exact hother.input_ne hnew hlogical ht hnone rfl
  · exact absurd hless (List.not_lt_nil rest)

lemma not_lt_a (hinput : input ∈ treeInputs) : ¬input < "a" := by
  rcases mem_treeInputs.mp hinput with rfl | rfl <;> decide

lemma eq_a_of_lt_b (hinput : input ∈ treeInputs) (hlt : input < "b") : input = "a" := by
  rcases mem_treeInputs.mp hinput with rfl | rfl
  · rfl
  · exact absurd hlt (by decide)

/-! ### What resolving finds -/

/-- A tree says that there is no defect, a fault is the first one. -/
def Reports (r : Rule) (path : List String) (id : String) :
    Except TreeFault ConditionTree → Prop
  | .ok _ => r.Flawless path id
  | .error fault => r.FirstDefect path id fault

theorem reports_resolve : r.Reports path id (r.resolve path id) := by
  fun_induction resolve r path id with
  | case1 path id hmem =>
    exact ⟨[], .loop hmem, fun earlier hlt => absurd hlt (List.not_lt_nil earlier)⟩
  | case2 path id hnew e hcondition =>
    exact flawless_of_isCondition hnew (isCondition_of_condition? hcondition)
  | case3 path id hnew hcondition hlogical =>
    have hstray := Defect.stray hnew (condition?_eq_none_iff.mp hcondition)
      (logical?_eq_none_iff.mp hlogical)
    exact ⟨[], hstray, fun earlier hlt => absurd hlt (List.not_lt_nil earlier)⟩
  | case4 path id hnew hcondition e hlogical ha =>
    apply FirstDefect.of_unfed hnew (condition?_eq_none_iff.mp hcondition)
      (logical?_eq_some_iff_isLast.mp hlogical) (mem_treeInputs.mpr (Or.inl rfl))
      (source?_eq_none_iff_unfed.mp ha)
    intro other hother hlt
    exact absurd hlt (not_lt_a hother)
  | case5 path id hnew hcondition e hlogical a ha fault hfirst iha =>
    rw [hfirst] at iha
    apply FirstDefect.of_input hnew (condition?_eq_none_iff.mp hcondition)
      (isLogical_of_isLast (logical?_eq_some_iff_isLast.mp hlogical))
      (mem_treeInputs.mpr (Or.inl rfl)) (source?_eq_some_iff_feeds.mp ha) _ iha
    intro other hother hlt
    exact absurd hlt (not_lt_a hother)
  | case6 path id hnew hcondition e hlogical a ha first hfirst hb iha =>
    rw [hfirst] at iha
    apply FirstDefect.of_unfed hnew (condition?_eq_none_iff.mp hcondition)
      (logical?_eq_some_iff_isLast.mp hlogical) (mem_treeInputs.mpr (Or.inr rfl))
      (source?_eq_none_iff_unfed.mp hb)
    intro other hother hlt
    obtain rfl := eq_a_of_lt_b hother hlt
    exact ⟨a, source?_eq_some_iff_feeds.mp ha, iha⟩
  | case7 path id hnew hcondition e hlogical a ha first hfirst b hb fault hsecond iha ihb =>
    rw [hfirst] at iha
    rw [hsecond] at ihb
    apply FirstDefect.of_input hnew (condition?_eq_none_iff.mp hcondition)
      (isLogical_of_isLast (logical?_eq_some_iff_isLast.mp hlogical))
      (mem_treeInputs.mpr (Or.inr rfl)) (source?_eq_some_iff_feeds.mp hb) _ ihb
    intro other hother hlt
    obtain rfl := eq_a_of_lt_b hother hlt
    exact ⟨a, source?_eq_some_iff_feeds.mp ha, iha⟩
  | case8 path id hnew hcondition e hlogical a ha first hfirst b hb second hsecond iha ihb =>
    rw [hfirst] at iha
    rw [hsecond] at ihb
    intro address fault hdefect
    obtain ⟨input, hinput, rest, rfl, hbehind⟩ := hdefect.exists_input hnew
      (isLogical_of_isLast (logical?_eq_some_iff_isLast.mp hlogical))
    rcases mem_treeInputs.mp hinput with rfl | rfl
    · exact iha rest fault (hbehind a (source?_eq_some_iff_feeds.mp ha))
    · exact ihb rest fault (hbehind b (source?_eq_some_iff_feeds.mp hb))

/-- At one address there is one defect at most. -/
lemma Defect.unique {other : TreeFault} (h : r.Defect path id address fault)
    (h' : r.Defect path id address other) : fault = other := by
  induction h with
  | loop hmem =>
    cases h' with
    | loop _ => rfl
    | stray hnew _ _ => exact absurd hmem hnew
  | stray hnew _ _ =>
    cases h' with
    | loop hmem => exact absurd hmem hnew
    | stray _ _ _ => rfl
  | unfed _ he _ hunfed =>
    cases h' with
    | unfed _ he' _ _ =>
      rw [← logical?_eq_some_iff_isLast] at he he'
      rw [Option.some.inj (he.symm.trans he')]
    | behind _ _ _ hfeeds _ => exact absurd hunfed hfeeds.not_unfed
  | behind _ _ _ hfeeds _ ih =>
    cases h' with
    | unfed _ _ _ hunfed => exact absurd hunfed hfeeds.not_unfed
    | behind _ _ _ hfeeds' hbehind' => exact ih (hfeeds'.unique hfeeds ▸ hbehind')

lemma FirstDefect.unique {other : TreeFault} (h : r.FirstDefect path id fault)
    (h' : r.FirstDefect path id other) : fault = other := by
  obtain ⟨address, hdefect, hleast⟩ := h
  obtain ⟨address', hdefect', hleast'⟩ := h'
  have hle : ¬address' < address := fun hlt => hleast address' hlt other hdefect'
  have hle' : ¬address < address' := fun hlt => hleast' address hlt fault hdefect
  obtain rfl := List.le_antisymm hle hle'
  exact hdefect.unique hdefect'

lemma Reports.ok_iff (h : r.Reports path id outcome) :
    (∃ tree, outcome = .ok tree) ↔ r.Flawless path id := by
  cases outcome with
  | ok tree => exact iff_of_true ⟨tree, rfl⟩ h
  | error fault =>
    obtain ⟨address, hdefect, _⟩ := h
    refine iff_of_false ?_ (fun hnone => hnone address fault hdefect)
    rintro ⟨tree, htree⟩
    cases htree

lemma Reports.error_iff (h : r.Reports path id outcome) :
    outcome = .error fault ↔ r.FirstDefect path id fault := by
  cases outcome with
  | ok tree =>
    refine iff_of_false (fun herror => nomatch herror) ?_
    rintro ⟨address, hdefect, _⟩
    exact h address fault hdefect
  | error other =>
    constructor
    · intro heq
      cases heq
      exact h
    · intro hfirst
      rw [FirstDefect.unique h hfirst]

/-! ### Ways without a defect -/

lemma Flawless.not_mem (h : r.Flawless path id) : id ∉ path :=
  fun hmem => h _ _ (.loop hmem)

lemma Flawless.known (h : r.Flawless path id) : r.IsCondition id ∨ r.IsLogical id := by
  by_cases hcondition : r.IsCondition id
  · exact Or.inl hcondition
  · by_cases hlogical : r.IsLogical id
    · exact Or.inr hlogical
    · exact absurd (.stray h.not_mem hcondition hlogical) (h _ _)

lemma Flawless.behind (h : r.Flawless path id) (hstep : r.Behind id s) :
    r.Flawless (path ++ [id]) s := by
  obtain ⟨hcondition, input, hinput, hfeeds⟩ := hstep
  have hlogical := h.known.resolve_left hcondition
  intro address fault hdefect
  exact h _ _ (.behind hcondition hlogical hinput hfeeds hdefect)

/-- What is met from a flawless node is flawless too, along a path that keeps what was on it. -/
lemma Flawless.of_meets (h : r.Flawless path id) (hmeets : r.Meets id s) :
    ∃ path', path ⊆ path' ∧ r.Flawless path' s := by
  induction hmeets with
  | refl => exact ⟨path, List.Subset.refl path, h⟩
  | @tail t s _ hstep ih =>
    obtain ⟨path', hsub, hflawless⟩ := ih
    have hlonger : path ⊆ path' ++ [t] := fun p hp => List.mem_append_left _ (hsub hp)
    exact ⟨path' ++ [t], hlonger, hflawless.behind hstep⟩

lemma Flawless.resolvable (h : r.Flawless path start) (haction : action ∈ path) :
    r.Resolvable action start where
  avoids id hmeets := by
    obtain ⟨path', hsub, hflawless⟩ := h.of_meets hmeets
    rintro rfl
    exact hflawless.not_mem (hsub haction)
  known id hmeets := by
    obtain ⟨path', _, hflawless⟩ := h.of_meets hmeets
    exact hflawless.known
  fed id hmeets hlogical hcondition input hinput := by
    obtain ⟨path', _, hflawless⟩ := h.of_meets hmeets
    obtain ⟨e, he⟩ := exists_isLast_of_isLogical hlogical
    rcases exists_feeds_or_unfed r id input with hfeeds | hunfed
    · exact hfeeds
    · exact absurd (.unfed hcondition he hinput hunfed) (hflawless _ _)
  noLoop id hmeets _ hloop := by
    obtain ⟨path', _, hflawless⟩ := h.of_meets hmeets
    obtain ⟨s, hstep, hback⟩ := TransGen.head'_iff.mp hloop
    -- Going around once puts the node on its own path.
    obtain ⟨path'', hsub, hagain⟩ := (hflawless.behind hstep).of_meets hback
    have hmem : id ∈ path'' := hsub (by simp)
    exact hagain.not_mem hmem

/-- Every id on the path is the action, or leads on to the node in hand. -/
def Trail (r : Rule) (action : String) (path : List String) (id : String) : Prop :=
  ∀ p ∈ path, p = action ∨ TransGen r.Behind p id

lemma Trail.behind (h : r.Trail action path id) (hstep : r.Behind id s) :
    r.Trail action (path ++ [id]) s := by
  intro p hp
  rcases List.mem_append.mp hp with hold | hnew
  · exact (h p hold).imp_right fun hway => hway.tail hstep
  · obtain rfl := List.mem_singleton.mp hnew
    exact Or.inr (.single hstep)

lemma Resolvable.no_defect (h : r.Resolvable action start)
    (hdefect : r.Defect path id address fault) (hmeets : r.Meets start id)
    (htrail : r.Trail action path id) : False := by
  induction hdefect with
  | @loop path id hmem =>
    rcases htrail id hmem with rfl | hloop
    · exact h.avoids id hmeets rfl
    · obtain ⟨_, ⟨hcondition, _⟩, _⟩ := TransGen.head'_iff.mp hloop
      exact h.noLoop id hmeets ((h.known id hmeets).resolve_left hcondition) hloop
  | @stray path id _ hcondition hlogical =>
    exact (h.known id hmeets).elim hcondition hlogical
  | @unfed path id input e hcondition he hinput hunfed =>
    obtain ⟨s, hfeeds⟩ := h.fed id hmeets (isLogical_of_isLast he) hcondition input hinput
    exact hfeeds.not_unfed hunfed
  | @behind path address id s input fault hcondition hlogical hinput hfeeds _ ih =>
    have hstep : r.Behind id s := ⟨hcondition, input, hinput, hfeeds⟩
    exact ih (hmeets.tail hstep) (htrail.behind hstep)

theorem flawless_iff_resolvable : r.Flawless [action] start ↔ r.Resolvable action start := by
  constructor
  · intro h
    exact h.resolvable List.mem_cons_self
  · intro h address fault hdefect
    refine h.no_defect hdefect .refl ?_
    intro p hp
    exact Or.inl (List.mem_singleton.mp hp)

/-! ### Trees of actions -/

lemma tree_of_fed_action (haction : ∃ e ∈ r.actions, e.id = action)
    (hfeeds : r.Feeds start action "condition") : r.tree action = r.resolve [action] start := by
  obtain ⟨e, hmem, hid⟩ := haction
  have hany : (r.actions.any fun e => e.id == action) = true :=
    List.any_eq_true.mpr ⟨e, hmem, by simp [hid]⟩
  unfold tree
  rw [if_pos hany, source?_eq_some_iff_feeds.mpr hfeeds]

lemma Defect.family (h : r.Defect path id address fault) :
    (Fault.tree fault).family? = some .incompleteGraph ∧
        (∃ type id input, fault = .unconnected type id input) ∨
      (Fault.tree fault).family? = some .compilation ∧
        ((∃ id path, fault = .loop id path) ∨ ∃ id path, fault = .notACondition id path) := by
  induction h with
  | loop _ => exact Or.inr ⟨rfl, Or.inl ⟨_, _, rfl⟩⟩
  | stray _ _ _ => exact Or.inr ⟨rfl, Or.inr ⟨_, _, rfl⟩⟩
  | unfed _ _ _ _ => exact Or.inl ⟨rfl, _, _, _, rfl⟩
  | behind _ _ _ _ _ ih => exact ih

/-- Whatever a rule looks like, an action that something feeds gets a tree exactly if the ways back
from there avoid the action, come to conditions and logical nodes only, find both inputs of every
logical node fed, and run in no circle. Otherwise the fault is the first defect, and it is one of
unfinished rules exactly if an input is left open. -/
theorem tree_resolves_iff (r : Rule) (action start : String)
    (haction : ∃ e ∈ r.actions, e.id = action) (hfeeds : r.Feeds start action "condition") :
    ((∃ tree, r.tree action = .ok tree) ↔ r.Resolvable action start) ∧
      ∀ fault, (r.tree action = .error fault ↔ r.FirstDefect [action] start fault) ∧
        (r.tree action = .error fault →
          (Fault.tree fault).family? = some .incompleteGraph ∧
              (∃ type id input, fault = .unconnected type id input) ∨
            (Fault.tree fault).family? = some .compilation ∧
              ((∃ id path, fault = .loop id path) ∨
                ∃ id path, fault = .notACondition id path)) := by
  have hreports : r.Reports [action] start (r.tree action) := by
    rw [tree_of_fed_action haction hfeeds]
    exact reports_resolve
  refine ⟨hreports.ok_iff.trans flawless_iff_resolvable, fun fault => ⟨hreports.error_iff, ?_⟩⟩
  intro herror
  obtain ⟨address, hdefect, _⟩ := hreports.error_iff.mp herror
  exact hdefect.family

/-- A rule put together by hand. Of the two links into input `b` of the first gate the last one
counts, and it closes a circle; the last gate has one condition at both of its inputs. -/
def tangled : Rule where
  name := "Tangled"
  salience := 1
  stackable := true
  active := true
  validFrom := none
  validUntil := none
  conditions := [⟨.quantity, "less_than", .int 3, "few"⟩]
  actions := [⟨.percentageDiscount, .whole 10, "off"⟩, ⟨.freeUnits, .whole 1, "gift"⟩]
  logicals := [⟨.and, "both"⟩, ⟨.or, "either"⟩, ⟨.or, "any"⟩]
  links := [⟨"few", "both", "condition", "a"⟩, ⟨"few", "both", "condition", "b"⟩,
    ⟨"either", "both", "result", "b"⟩, ⟨"few", "either", "condition", "a"⟩,
    ⟨"both", "either", "result", "b"⟩, ⟨"both", "off", "result", "condition"⟩,
    ⟨"few", "any", "condition", "a"⟩, ⟨"few", "any", "condition", "b"⟩,
    ⟨"any", "gift", "result", "condition"⟩]
  createdAt := ⟨⟨2024, 12, 1, by decide⟩, .midnight, none⟩

lemma tree_tangled_off : tangled.tree "off" = .error (.loop "both" ["off", "both", "either"]) := by
  cbv

lemma exists_tree_tangled_gift : ∃ tree, tangled.tree "gift" = .ok tree :=
  ⟨.gate .or [.leaf .quantity "less_than" (.int 3), .leaf .quantity "less_than" (.int 3)], by cbv⟩

theorem tree_resolves_iff_tangled :
    tangled.Feeds "both" "off" "condition" ∧ ¬tangled.Resolvable "off" "both" ∧
      tangled.FirstDefect ["off"] "both" (.loop "both" ["off", "both", "either"]) ∧
      tangled.Feeds "any" "gift" "condition" ∧ tangled.Resolvable "gift" "any" := by
  have hoff : tangled.Feeds "both" "off" "condition" := source?_eq_some_iff_feeds.mp rfl
  have hgift : tangled.Feeds "any" "gift" "condition" := source?_eq_some_iff_feeds.mp rfl
  have hstuck := tree_resolves_iff tangled "off" "both" ⟨_, List.mem_cons_self, rfl⟩ hoff
  have hdone := tree_resolves_iff tangled "gift" "any"
    ⟨_, List.mem_of_mem_tail (.head _), rfl⟩ hgift
  have hnone : ¬∃ tree, tangled.tree "off" = .ok tree := by simp [tree_tangled_off]
  exact ⟨hoff, fun h => hnone (hstuck.1.mpr h), (hstuck.2 _).1.mp tree_tangled_off, hgift,
    hdone.1.mp exists_tree_tangled_gift⟩

end Promotion.Rule
