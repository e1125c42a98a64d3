import Promotion.Proofs.Rule.Renaming

/-! What edits of a graph do to the trees of its actions. An edit at a node that does not lead to a
fed action leaves what comes of the action as it was. An update never changes the shape of a tree,
and it changes nothing but what comes from the updated node. -/
namespace Promotion
open Connection

/-- The node that an edit is about: the one that is changed or removed, or whose input is connected
or disconnected. A node that is added is not there yet. -/
def GraphEdit.place? : GraphEdit → Option String
  | .insert _ => none
  | .update ref _ => ref.str?
  | .remove ref => ref.str?
  | .connect _ _ target _ => target.str?
  | .disconnect _ _ target _ => target.str?

namespace Graph

/-- An edit is about no node that leads to a given one, nor about that one itself. -/
def Apart (g : Graph) (act : String) (e : GraphEdit) : Prop :=
  ∀ x, e.place? = some x → ¬Path g.connections x act

/-- Another graph has the same nodes on all ways to a given one, and the same connections into
them. -/
structure SameAbove (g : Graph) (act : String) (h : Graph) : Prop where
  nodes : ∀ {id n}, Path g.connections id act → g.node? (.text id) = some n →
    h.node? (.text id) = some n
  connections : ∀ {c}, Path g.connections c.target act → (c ∈ h.connections ↔ c ∈ g.connections)

variable {g h : Graph} {act s x : String} {e : GraphEdit} {n m : Node} {ref : Json}
  {changes : Fields} {c : Connection}

/-! ### Edits apart from an action -/

lemma SameAbove.kindAt {kind : Kind} (hsame : g.SameAbove act h)
    (hpath : Path g.connections s act) (hkind : g.KindAt s kind) : h.KindAt s kind := by
  obtain ⟨n, hn, hkind⟩ := hkind
  exact ⟨n, hsame.nodes hpath hn, hkind⟩

lemma SameAbove.resembles (hsame : g.SameAbove act h) :
    g.Resembles id (fun s => Path g.connections s act) (fun _ => False) h where
  closed hpath hs := hpath.head hs.joins
  feeds hpath hs := by
    obtain ⟨c, hc, rfl, rfl, rfl⟩ := hs
    exact ⟨c, (hsame.connections hpath).mpr hc, rfl, rfl, rfl⟩
  unfed hpath hunfed := by
    rintro s ⟨c, hc, rfl, rfl, rfl⟩
    exact hunfed c.source ⟨c, (hsame.connections hpath).mp hc, rfl, rfl, rfl⟩
  bodies hpath hbody := by
    obtain ⟨r, hr, rfl⟩ := hbody
    exact ⟨r.body, ⟨r, hsame.nodes hpath hr, rfl⟩, rfl, fun _ => rfl⟩

/-- A node that a value gets is not on the way if the value names none that is. -/
lemma ne_key_of_get (hget : g.get ref = .ok n)
    (hapart : ∀ x, ref.str? = some x → ¬Path g.connections x act)
    (hpath : Path g.connections s act) : .text s ≠ n.key := by
  obtain ⟨key, hkey, hn⟩ := get_eq_ok_iff.mp hget
  intro heq
  obtain rfl := (node?_eq_some hn).2
  rw [← heq, NodeKey.ofJson?_eq_text_iff] at hkey
  subst hkey
  exact hapart s rfl hpath

lemma sameAbove_insert (hok : g.insert n = .ok h) : g.SameAbove act h := by
  obtain ⟨_, _, rfl⟩ := insert_eq_ok_iff.mp hok
  exact ⟨fun _ hn => node?_append hn, fun _ => Iff.rfl⟩

lemma sameAbove_update (hok : g.update ref changes = .ok (h, m))
    (hapart : ∀ x, ref.str? = some x → ¬Path g.connections x act) : g.SameAbove act h := by
  obtain ⟨n, hget, _, hkey, _, rfl⟩ := exists_of_update hok
  refine ⟨fun {id old} hpath hold => ?_, fun _ => Iff.rfl⟩
  have hne : old.key ≠ m.key := by
    rw [(node?_eq_some hold).2, hkey]
    exact ne_key_of_get hget hapart hpath
  simp [node?_replace, hold, hne]

lemma sameAbove_remove (hok : g.remove ref = .ok (h, n))
    (hapart : ∀ x, ref.str? = some x → ¬Path g.connections x act) : g.SameAbove act h := by
  obtain ⟨hget, rfl⟩ := remove_eq_ok_iff.mp hok
  refine ⟨fun hpath hold => ?_, fun {c} hpath => ?_⟩
  · exact (node?_filter (ne_key_of_get hget hapart hpath)).trans hold
  · refine List.mem_filter.trans ⟨And.left, fun hc => ⟨hc, not_touches_iff.mpr ⟨?_, ?_⟩⟩⟩
    -- Where the connection starts is on a way too, so it is no end of a node that goes.
    · exact ne_key_of_get hget hapart (hpath.head (joins_of_mem hc))
    · exact ne_key_of_get hget hapart hpath

lemma sameAbove_connect {source output target input : Json}
    (hok : g.connect source output target input = .ok (h, c))
    (hapart : ∀ x, target.str? = some x → ¬Path g.connections x act) : g.SameAbove act h := by
  obtain ⟨hfor, rfl⟩ := connect_eq_ok_iff.mp hok
  obtain ⟨⟨_, _, rfl, _⟩, _⟩ := connectionFor_eq_ok_iff.mp hfor
  refine ⟨fun _ hold => hold, fun {d} hpath => ?_⟩
  have hne : d ≠ c := by
    rintro rfl
    exact hapart d.target rfl hpath
  simp [hne]

lemma sameAbove_disconnect {source output target input : Json}
    (hok : g.disconnectValues source output target input = .ok (h, c))
    (hapart : ∀ x, target.str? = some x → ¬Path g.connections x act) : g.SameAbove act h := by
  obtain ⟨⟨_, _, rfl, _⟩, _, rfl⟩ := disconnectValues_eq_ok_iff.mp hok
  refine ⟨fun _ hold => hold, fun {d} hpath => ?_⟩
  have hne : d ≠ c := by
    rintro rfl
    exact hapart d.target rfl hpath
  exact List.mem_erase_of_ne hne

/-- What leads to a node is not touched by an edit apart from it; the connections that go with a
removed node go from it or into it. -/
theorem Apart.sameAbove (hapart : g.Apart act e) (hok : e.apply g = .ok h) :
    g.SameAbove act h := by
  cases e with
  | insert n => exact sameAbove_insert hok
  | update ref changes =>
    obtain ⟨_, hok⟩ := map_fst_eq_ok_iff.mp hok
    exact sameAbove_update hok hapart
  | remove ref =>
    obtain ⟨_, hok⟩ := map_fst_eq_ok_iff.mp hok
    exact sameAbove_remove hok hapart
  | connect source output target input =>
    obtain ⟨_, hok⟩ := map_fst_eq_ok_iff.mp hok
    exact sameAbove_connect hok hapart
  | disconnect source output target input =>
    obtain ⟨_, hok⟩ := map_fst_eq_ok_iff.mp hok
    exact sameAbove_disconnect hok hapart

/-- An edit apart from a fed action leaves what comes of the action as it was: the tree, or the
fault of an open input with its node and socket. -/
theorem yields_of_apart (hg : g.Attainable) (hact : g.KindAt act .action)
    (hfed : ∃ s, g.Feeds s act "condition") (hchecked : e.IsChecked) (hapart : g.Apart act e)
    (hok : e.apply g = .ok h) :
    ∃ outcome, g.Yields act outcome ∧ h.Yields act outcome ∧
      ∀ fault, outcome = .error fault →
        ∃ type n socket, fault = .unconnected type n socket := by
  have hsame := hapart.sameAbove hok
  have hunfed : ¬g.Unfed act "condition" := fun hunfed => hfed.elim hunfed
  obtain ⟨outcome, hbears⟩ := exists_bears hg hact
  obtain ⟨outcome', hbears', hmatches⟩ :=
    hsame.resembles.bears hact .refl (fun h => absurd h hunfed) hbears
  obtain rfl : outcome' = outcome := by
    rw [hmatches.eq_mapError hg.wellFormed fun _ => id, TreeFault.mapError_rename_id]
  refine ⟨outcome', hbears.yields hg hact,
    hbears'.yields (hg.apply hchecked hok) (hsame.kindAt .refl hact), ?_⟩
  rintro fault rfl
  cases hbears with
  | fed _ hgrows => exact hgrows.unconnected
  | none hnone _ => exact absurd hnone hunfed

/-- The sample with a second action, which nothing feeds. -/
def giftNode : RuleNode := ⟨"gift", .action .freeUnits (.int 1), by decide, by decide⟩

def gifted : Graph := { sample with nodes := sample.nodes ++ [.rule giftNode] }

def giftedRule : Rule :=
  { sampleRule with actions := sampleRule.actions ++ [⟨.freeUnits, .whole 1, "gift"⟩] }

lemma gifted_attainable : gifted.Attainable :=
  sample_attainable.apply (e := .insert (.rule giftNode)) ⟨_, rfl⟩ rfl

lemma tree_giftedRule : giftedRule.tree "off" = .ok sampleTree := by
  cbv

/-- The condition of the second action is one of those that the first has already. -/
theorem yields_of_apart_gifted :
    ∃ h, (GraphEdit.connect (.str "few") (.str "condition") (.str "gift")
        (.str "condition")).apply gifted = .ok h ∧ h.Yields "off" (.ok sampleTree) := by
  have hact : gifted.KindAt "off" .action := ⟨_, rfl, rfl⟩
  have hfed : ∃ s, gifted.Feeds s "off" "condition" :=
    ⟨"either", ⟨"either", "result", "off", "condition"⟩, by decide, rfl, rfl, rfl⟩
  have hsink : ∀ {s}, "gift" ≠ s → ¬Path gifted.connections "gift" s :=
    not_path_of_sink (by decide)
  have haccepts : gifted.Accepts ⟨"few", "condition", "gift", "condition"⟩ :=
    ⟨⟨_, ⟨_, rfl, rfl⟩, by decide⟩, ⟨_, ⟨_, rfl, rfl⟩, by decide⟩, by decide, hsink (by decide)⟩
  have hok := map_fst_eq_ok_iff.mpr ⟨_, haccepts.connect_eq⟩
  refine ⟨_, hok, ?_⟩
  obtain ⟨outcome, hbefore, hafter, _⟩ := yields_of_apart gifted_attainable hact hfed
    (e := .connect (.str "few") (.str "condition") (.str "gift") (.str "condition")) trivial
    (fun x hx => Option.some.inj hx ▸ hsink (by decide)) hok
  have hcompile : gifted.compile sampleMetadata sampleNow = .ok giftedRule := rfl
  rwa [← hbefore.tree_eq gifted_attainable hcompile, tree_giftedRule] at hafter

/-! ### Updates -/

/-- An update changes one node, in its place and with its id, kind and connections. -/
lemma Attainable.mirrors_update (hg : g.Attainable)
    (hok : g.update (.str x) changes = .ok (h, m)) : g.Mirrors id (fun s => s = x) h := by
  obtain ⟨n, hget, hrevised, hkey, _, rfl⟩ := exists_of_update hok
  obtain ⟨_, hx, hn⟩ := get_eq_ok_iff.mp hget
  obtain rfl := Option.some.inj hx
  obtain ⟨hmem, hat⟩ := node?_eq_some hn
  obtain ⟨r, rfl⟩ := hg.keepsRules n hmem
  obtain ⟨r', rfl, hkind⟩ := Node.revised_rule hrevised
  rw [hat] at hkey
  refine ⟨List.forall₂_map_right_iff.mpr (List.forall₂_same.mpr fun old hold => ?_), ?_⟩
  · by_cases hsame : old.key = .text x
    · obtain rfl : old = .rule r := by
        have hfound := node?_key hg.wellFormed.keys_nodup hold
        rw [hsame, hn] at hfound
        exact (Option.some.inj hfound).symm
      obtain rfl := NodeKey.text.inj hat
      rw [hkey, hat, beq_self_eq_true, if_pos rfl]
      exact ⟨r, r', rfl, rfl, NodeKey.text.inj hkey, hkind, fun hother => absurd rfl hother⟩
    · -- Keys are distinct, so every other node stays.
      rw [hkey, if_neg (by simpa using hsame)]
      obtain ⟨r₀, rfl⟩ := hg.keepsRules old hold
      exact ⟨r₀, r₀, rfl, rfl, rfl, rfl, fun _ => rfl⟩
  · rw [show Connection.rename id = id from rfl, List.map_id]
    exact List.Perm.refl _

/-- After an update a tree comes of an action exactly if one did before. Both are of one shape, and
they differ at most in the leaves and labels that come from the updated node; if that is an action,
they do not differ at all. -/
theorem update_keeps_shape (hg : g.Attainable) (hok : g.update (.str x) changes = .ok (h, m))
    (hact : g.KindAt act .action) :
    ∃ before after, g.Yields act before ∧ h.Yields act after ∧
      ((∃ tree, before = .ok tree) ↔ ∃ tree, after = .ok tree) ∧
      ∀ tree tree', before = .ok tree → after = .ok tree' →
        g.AlikeBut (fun s => s = x) act tree tree' ∧ (g.KindAt x .action → tree' = tree) := by
  have hh : h.Attainable :=
    hg.apply (e := .update (.str x) changes) trivial (map_fst_eq_ok_iff.mpr ⟨m, hok⟩)
  obtain ⟨before, after, _, hbefore, hafter, hmatches⟩ := (hg.mirrors_update hok).yields hg hh hact
  refine ⟨before, after, hbefore, hafter, ?_, ?_⟩
  · cases hmatches with
    | tree _ => exact iff_of_true ⟨_, rfl⟩ ⟨_, rfl⟩
    | fault _ => exact iff_of_false (fun ⟨_, h⟩ => nomatch h) (fun ⟨_, h⟩ => nomatch h)
  · rintro tree tree' rfl rfl
    cases hmatches with
    | tree halike =>
      refine ⟨halike, fun haction => halike.eq hg.wellFormed ?_⟩
      rintro n hkind rfl
      rcases hkind with hkind | hkind <;> cases hkind.unique haction

/-- The sample after an update of its first condition. -/
def raised : Graph := sample.after (.update (.str "few") [("value", .int 7)])

lemma update_sample : ∃ m, sample.update (.str "few") [("value", .int 7)] = .ok (raised, m) :=
  ⟨_, rfl⟩

def raisedRule : Rule :=
  { sampleRule with
    conditions := [⟨.quantity, "less_than", .int 7, "few"⟩,
      ⟨.customerTier, "equals", .str "gold", "gold"⟩] }

def raisedTree : ConditionTree :=
  .gate .or [.leaf .quantity "less_than" (.int 7), .leaf .customerTier "equals" (.str "gold")]

lemma tree_raisedRule : raisedRule.tree "off" = .ok raisedTree := by
  cbv

theorem update_keeps_shape_sample :
    sample.Yields "off" (.ok sampleTree) ∧ raised.Yields "off" (.ok raisedTree) ∧
      sample.AlikeBut (fun s => s = "few") "off" sampleTree raisedTree := by
  have hact : sample.KindAt "off" .action := ⟨_, rfl, rfl⟩
  obtain ⟨m, hok⟩ := update_sample
  have hraised : raised.Attainable :=
    sample_attainable.apply (e := .update (.str "few") [("value", .int 7)]) trivial
      (map_fst_eq_ok_iff.mpr ⟨m, hok⟩)
  have hcompile : raised.compile sampleMetadata sampleNow = .ok raisedRule := rfl
  obtain ⟨before, after, hbefore, hafter, _, halike⟩ :=
    update_keeps_shape sample_attainable hok hact
  obtain rfl : .ok sampleTree = before :=
    tree_sampleRule.symm.trans (hbefore.tree_eq sample_attainable compile_sample)
  obtain rfl : .ok raisedTree = after :=
    tree_raisedRule.symm.trans (hafter.tree_eq hraised hcompile)
  exact ⟨hbefore, hafter, (halike _ _ rfl rfl).1⟩

end Graph
end Promotion
