import Promotion.Proofs.Rule.Growth
import Mathlib.Data.List.Forall2

/-! Graphs that resemble each other. Where one graph has all that leads to a node under other ids,
and at most some bodies apart, the trees of both grow in step and differ only where those bodies
come in. -/
namespace Promotion

namespace TreeFault

/-- A fault with all ids changed. -/
def rename (f : String → String) : TreeFault → TreeFault
  | .unknownAction id ruleName => .unknownAction (f id) ruleName
  | .noConditions action => .noConditions (f action)
  | .loop id path => .loop (f id) (path.map f)
  | .notACondition id path => .notACondition (f id) (path.map f)
  | .unconnected type id socket => .unconnected type (f id) socket

lemma rename_id (fault : TreeFault) : fault.rename id = fault := by
  cases fault <;> simp [rename]

lemma mapError_rename_id (outcome : Except TreeFault ConditionTree) :
    outcome.mapError (rename id) = outcome := by
  cases outcome with
  | ok tree => rfl
  | error fault => exact congrArg Except.error fault.rename_id

/-- Faults of unfinished rules at counterparts; at a node that is excepted the labels may differ. -/
inductive Matches (f : String → String) (but : String → Prop) : TreeFault → TreeFault → Prop
  | unconnected {type type' : LogicalSubtype} {id socket : String}
      (hsame : ¬but id → type' = type) :
      Matches f but (.unconnected type id socket) (.unconnected type' (f id) socket)
  | noConditions (action : String) :
      Matches f but (.noConditions action) (.noConditions (f action))

end TreeFault

namespace Graph

/-- Two trees that come from the same nodes of a graph, place by place. They are of one shape, and
at each place they are the same unless the node that it comes from is excepted. -/
inductive AlikeBut (g : Graph) (but : String → Prop) :
    String → ConditionTree → ConditionTree → Prop
  | condition {id : String} {type type' : ConditionType} {operator operator' : String}
      {value value' : Json} (hkind : g.KindAt id .condition)
      (hsame : ¬but id → type' = type ∧ operator' = operator ∧ value' = value) :
      AlikeBut g but id (.leaf type operator value) (.leaf type' operator' value')
  | gate {id a b : String} {type type' : LogicalSubtype}
      {first second first' second' : ConditionTree} (hkind : g.KindAt id .logical)
      (ha : g.Feeds a id "a") (hb : g.Feeds b id "b") (hsame : ¬but id → type' = type)
      (hfirst : AlikeBut g but a first first') (hsecond : AlikeBut g but b second second') :
      AlikeBut g but id (.gate type [first, second]) (.gate type' [first', second'])
  | fed {act s : String} {tree tree' : ConditionTree} (hkind : g.KindAt act .action)
      (hs : g.Feeds s act "condition") (halike : AlikeBut g but s tree tree') :
      AlikeBut g but act tree tree'
  | all {act : String} {entries : List ConditionEntry} (hkind : g.KindAt act .action)
      (hunfed : g.Unfed act "condition")
      (hsame : List.Forall₂ (fun e e' : ConditionEntry => ¬but e.id → e'.leaf = e.leaf)
        g.conditionEntries entries) :
      AlikeBut g but act (.gate .and (g.conditionEntries.map ConditionEntry.leaf))
        (.gate .and (entries.map ConditionEntry.leaf))

/-- What comes of a node, and what comes of its counterpart. -/
inductive Matches (g : Graph) (f : String → String) (but : String → Prop) (id : String) :
    Except TreeFault ConditionTree → Except TreeFault ConditionTree → Prop
  | tree {tree tree' : ConditionTree} (halike : g.AlikeBut but id tree tree') :
      Matches g f but id (.ok tree) (.ok tree')
  | fault {fault fault' : TreeFault} (hmatches : fault.Matches f but fault') :
      Matches g f but id (.error fault) (.error fault')

/-- Another graph has what leads to certain nodes of a graph, under changed ids; the bodies of those
that are excepted keep their kind only. -/
structure Resembles (g : Graph) (f : String → String) (within but : String → Prop) (h : Graph) :
    Prop where
  closed : ∀ {s id input}, within id → g.Feeds s id input → within s
  feeds : ∀ {s id input}, within id → g.Feeds s id input → h.Feeds (f s) (f id) input
  unfed : ∀ {id input}, within id → g.Unfed id input → h.Unfed (f id) input
  bodies : ∀ {id body}, within id → g.BodyAt id body →
    ∃ body', h.BodyAt (f id) body' ∧ body'.kind = body.kind ∧ (¬but id → body' = body)

variable {g h : Graph} {f : String → String} {within but : String → Prop} {id act : String}
  {outcome outcome' : Except TreeFault ConditionTree} {tree tree' : ConditionTree}

/-! ### Growing in step -/

lemma Resembles.condition {subtype : ConditionSubtype} {operator : Operator} {value : Json}
    (hres : g.Resembles f within but h) (hid : within id)
    (hbody : g.BodyAt id (.condition subtype operator value)) :
    ∃ subtype' operator' value', h.BodyAt (f id) (.condition subtype' operator' value') ∧
      (¬but id → subtype' = subtype ∧ operator' = operator ∧ value' = value) := by
  obtain ⟨body', hbody', hkind, hsame⟩ := hres.bodies hid hbody
  cases body' with
  | condition subtype' operator' value' =>
    exact ⟨_, _, _, hbody', fun hbut => by simpa using hsame hbut⟩
  | action subtype' value' => cases hkind
  | logical subtype' => cases hkind

lemma Resembles.logical {type : LogicalSubtype} (hres : g.Resembles f within but h)
    (hid : within id) (hbody : g.BodyAt id (.logical type)) :
    ∃ type', h.BodyAt (f id) (.logical type') ∧ (¬but id → type' = type) := by
  obtain ⟨body', hbody', hkind, hsame⟩ := hres.bodies hid hbody
  cases body' with
  | condition subtype' operator' value' => cases hkind
  | action subtype' value' => cases hkind
  | logical type' => exact ⟨type', hbody', fun hbut => by simpa using hsame hbut⟩

/-- What grows at a node has a match at its counterpart. -/
theorem Resembles.grows (hres : g.Resembles f within but h) (hid : within id)
    (hgrows : g.Grows id outcome) :
    ∃ outcome', h.Grows (f id) outcome' ∧ g.Matches f but id outcome outcome' := by
  -- A tree is matched by a tree and a fault by a fault, so both sides go by the same constructor.
  induction hgrows with
  | condition hbody =>
    obtain ⟨_, _, _, hbody', hsame⟩ := hres.condition hid hbody
    refine ⟨_, .condition hbody', .tree (.condition hbody.kindAt fun hbut => ?_)⟩
    obtain ⟨rfl, rfl, rfl⟩ := hsame hbut
    exact ⟨rfl, rfl, rfl⟩
  | firstUnfed hbody ha =>
    obtain ⟨_, hbody', hsame⟩ := hres.logical hid hbody
    exact ⟨_, .firstUnfed hbody' (hres.unfed hid ha), .fault (.unconnected hsame)⟩
  | firstFault hbody ha _ iha =>
    obtain ⟨_, hbody', _⟩ := hres.logical hid hbody
    obtain ⟨_, hfirst', hmatches⟩ := iha (hres.closed hid ha)
    cases hmatches with
    | fault hfault => exact ⟨_, .firstFault hbody' (hres.feeds hid ha) hfirst', .fault hfault⟩
  | secondUnfed hbody ha _ hb iha =>
    obtain ⟨_, hbody', hsame⟩ := hres.logical hid hbody
    obtain ⟨_, hfirst', hmatches⟩ := iha (hres.closed hid ha)
    cases hmatches with
    | tree _ =>
      exact ⟨_, .secondUnfed hbody' (hres.feeds hid ha) hfirst' (hres.unfed hid hb),
        .fault (.unconnected hsame)⟩
  | secondFault hbody ha _ hb _ iha ihb =>
    obtain ⟨_, hbody', _⟩ := hres.logical hid hbody
    obtain ⟨_, hfirst', hmatches⟩ := iha (hres.closed hid ha)
    obtain ⟨_, hsecond', hmatches'⟩ := ihb (hres.closed hid hb)
    cases hmatches with
    | tree _ =>
      cases hmatches' with
      | fault hfault =>
        exact ⟨_, .secondFault hbody' (hres.feeds hid ha) hfirst' (hres.feeds hid hb) hsecond',
          .fault hfault⟩
  | gate hbody ha _ hb _ iha ihb =>
    obtain ⟨_, hbody', hsame⟩ := hres.logical hid hbody
    obtain ⟨_, hfirst', hmatches⟩ := iha (hres.closed hid ha)
    obtain ⟨_, hsecond', hmatches'⟩ := ihb (hres.closed hid hb)
    cases hmatches with
    | tree hfirst =>
      cases hmatches' with
      | tree hsecond =>
        exact ⟨_, .gate hbody' (hres.feeds hid ha) hfirst' (hres.feeds hid hb) hsecond',
          .tree (.gate hbody.kindAt ha hb hsame hfirst hsecond)⟩

/-- What an action bears has a match at its counterpart. Only if nothing feeds the action do all the
conditions of both graphs come in. -/
theorem Resembles.bears (hres : g.Resembles f within but h) (hact : g.KindAt act .action)
    (hin : within act)
    (hconditions : g.Unfed act "condition" →
      List.Forall₂ (fun e e' : ConditionEntry => ¬but e.id → e'.leaf = e.leaf)
        g.conditionEntries h.conditionEntries)
    (hbears : g.Bears act outcome) :
    ∃ outcome', h.Bears (f act) outcome' ∧ g.Matches f but act outcome outcome' := by
  cases hbears with
  | fed hs hgrows =>
    obtain ⟨_, hgrows', hmatches⟩ := hres.grows (hres.closed hin hs) hgrows
    refine ⟨_, .fed (hres.feeds hin hs) hgrows', ?_⟩
    cases hmatches with
    | tree halike => exact .tree (.fed hact hs halike)
    | fault hfault => exact .fault hfault
  | all hunfed hsome =>
    have hentries := hconditions hunfed
    have hsome' : h.conditionEntries ≠ [] := by
      intro hnil
      rw [hnil, List.forall₂_nil_right_iff] at hentries
      exact hsome hentries
    exact ⟨_, .all (hres.unfed hin hunfed) hsome', .tree (.all hact hunfed hentries)⟩
  | none hunfed hnil =>
    have hentries := hconditions hunfed
    rw [hnil, List.forall₂_nil_left_iff] at hentries
    exact ⟨_, .none (hres.unfed hin hunfed) hentries, .fault (.noConditions act)⟩

/-! ### Equal trees -/

/-- Trees are the same if none of the nodes that can come into them is excepted. -/
theorem AlikeBut.eq (hg : g.WellFormed) (halike : g.AlikeBut but id tree tree')
    (hbut : ∀ n, g.KindAt n .condition ∨ g.KindAt n .logical → ¬but n) : tree' = tree := by
  induction halike with
  | condition hkind hsame =>
    obtain ⟨rfl, rfl, rfl⟩ := hsame (hbut _ (Or.inl hkind))
    rfl
  | gate hkind _ _ hsame _ _ ihfirst ihsecond =>
    rw [hsame (hbut _ (Or.inr hkind)), ihfirst, ihsecond]
  | fed _ _ _ ih => exact ih
  | @all act entries _ _ hsame =>
    obtain ⟨hlength, hzip⟩ := List.forall₂_iff_zip.mp hsame
    have hleaves : List.Forall₂ (fun e e' : ConditionEntry => e'.leaf = e.leaf)
        g.conditionEntries entries := by
      refine List.forall₂_iff_zip.mpr ⟨hlength, fun he => ?_⟩
      have hkind := kindAt_of_mem_conditionEntries hg (List.of_mem_zip he).1
      exact hzip he (hbut _ (Or.inl hkind))
    refine congrArg (ConditionTree.gate .and) ?_
    rw [← List.forall₂_eq_eq_eq, List.forall₂_map_left_iff, List.forall₂_map_right_iff]
    exact hleaves.flip

theorem Matches.eq_mapError (hg : g.WellFormed) (hmatches : g.Matches f but id outcome outcome')
    (hbut : ∀ n, ¬but n) : outcome' = outcome.mapError (TreeFault.rename f) := by
  cases hmatches with
  | tree halike => rw [halike.eq hg fun n _ => hbut n]; rfl
  | fault hfault =>
    cases hfault with
    | unconnected hsame => rw [hsame (hbut _)]; rfl
    | noConditions action => rfl

end Graph
end Promotion
