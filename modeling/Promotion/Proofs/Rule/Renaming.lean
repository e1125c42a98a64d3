import Promotion.Proofs.Rule.Resemblance

/-! Graphs with the same nodes under other ids. Trees depend neither on the ids of nodes nor on the
order in which the connections were made. -/
namespace Promotion

def NodeKey.rename (f : String → String) : NodeKey → NodeKey
  | .text s => .text (f s)
  | key => key

def Connection.rename (f : String → String) (c : Connection) : Connection :=
  { c with source := f c.source, target := f c.target }

/-- Nodes that keep the rules, one under the changed id of the other. They are of one kind, and
they say the same if the first is not excepted. -/
def Node.Counterpart (f : String → String) (but : String → Prop) (n m : Node) : Prop :=
  ∃ r r', n = .rule r ∧ m = .rule r' ∧ r'.id = f r.id ∧ r'.kind = r.kind ∧
    (¬but r.id → r'.body = r.body)

namespace Graph

/-- Another graph has the nodes of a graph at the same places, under changed ids, and the same
connections between them, in any order. -/
structure Mirrors (g : Graph) (f : String → String) (but : String → Prop) (h : Graph) : Prop where
  nodes : List.Forall₂ (Node.Counterpart f but) g.nodes h.nodes
  connections : (g.connections.map (Connection.rename f)).Perm h.connections

variable {g h : Graph} {f : String → String} {but : String → Prop} {id act : String}

/-- Ids stay distinct when they are changed, since the other graph has no two nodes under one. -/
lemma Mirrors.id_injective {s t : String} (hh : h.WellFormed) (hmirrors : g.Mirrors f but h)
    (hs : .text s ∈ g.keys) (ht : .text t ∈ g.keys) (heq : f s = f t) : s = t := by
  have hkeys : g.keys.map (NodeKey.rename f) = h.keys := by
    rw [keys, keys, List.map_map, ← List.forall₂_eq_eq_eq, List.forall₂_map_left_iff,
      List.forall₂_map_right_iff]
    refine hmirrors.nodes.imp ?_
    rintro n m ⟨r, r', rfl, rfl, hid, _⟩
    simp [hid, NodeKey.rename]
  have hnodup := hh.keys_nodup
  rw [← hkeys] at hnodup
  have hsame := List.inj_on_of_nodup_map hnodup hs ht (congrArg NodeKey.text heq)
  exact NodeKey.text.inj hsame

lemma Mirrors.feeds {s input : String} (hmirrors : g.Mirrors f but h) (hs : g.Feeds s id input) :
    h.Feeds (f s) (f id) input := by
  obtain ⟨c, hc, rfl, rfl, rfl⟩ := hs
  exact ⟨c.rename f, hmirrors.connections.subset (List.mem_map_of_mem hc), rfl, rfl, rfl⟩

lemma Mirrors.unfed {input : String} (hg : g.WellFormed) (hh : h.WellFormed)
    (hmirrors : g.Mirrors f but h) (hid : .text id ∈ g.keys) (hunfed : g.Unfed id input) :
    h.Unfed (f id) input := by
  rintro s ⟨d, hd, _, htarget, hinput⟩
  obtain ⟨c, hc, rfl⟩ := List.mem_map.mp (hmirrors.connections.symm.subset hd)
  have hsame := hmirrors.id_injective hh (hg.input c hc).mem_keys hid htarget
  exact hunfed c.source ⟨c, hc, rfl, hsame, hinput⟩

lemma Mirrors.bodyAt {body : Body} (hh : h.WellFormed) (hmirrors : g.Mirrors f but h)
    (hbody : g.BodyAt id body) :
    ∃ body', h.BodyAt (f id) body' ∧ body'.kind = body.kind ∧ (¬but id → body' = body) := by
  obtain ⟨r, hr, rfl⟩ := hbody
  obtain ⟨hmem, hkey⟩ := node?_eq_some hr
  obtain rfl := NodeKey.text.inj hkey
  obtain ⟨i, hi, hget⟩ := List.getElem_of_mem hmem
  have hi' : i < h.nodes.length := hmirrors.nodes.length_eq ▸ hi
  obtain ⟨r₀, r', hn, hm, hid, hkind, hsame⟩ := hmirrors.nodes.get hi hi'
  obtain rfl := Node.rule.inj (hget.symm.trans hn)
  have hfound := node?_key hh.keys_nodup (List.get_mem h.nodes ⟨i, hi'⟩)
  rw [hm, Node.key_rule, hid] at hfound
  exact ⟨r'.body, ⟨r', hfound, rfl⟩, hkind, hsame⟩

/-- Conditions stand at the same places of both lists of entries. -/
lemma Mirrors.conditionEntries (hmirrors : g.Mirrors f but h) :
    List.Forall₂ (fun e e' : ConditionEntry => ¬but e.id → e'.leaf = e.leaf)
      g.conditionEntries h.conditionEntries := by
  refine List.rel_filterMap ?_ hmirrors.nodes
  rintro n m ⟨⟨id, body, _, _⟩, ⟨id', body', _, _⟩, rfl, rfl, _, hkind, hsame⟩
  -- Bodies of two kinds are no counterparts, and only conditions become such entries.
  cases body <;> cases body' <;> cases hkind
  · refine .some fun hbut => ?_
    obtain ⟨rfl, rfl, rfl⟩ := Body.condition.inj (hsame hbut)
    rfl
  · exact .none
  · exact .none

lemma Mirrors.resembles (hg : g.WellFormed) (hh : h.WellFormed) (hmirrors : g.Mirrors f but h) :
    g.Resembles f (fun id => .text id ∈ g.keys) but h where
  closed _ hs := by
    obtain ⟨c, hc, rfl, _⟩ := hs
    exact (hg.output c hc).mem_keys
  feeds _ hs := hmirrors.feeds hs
  unfed hid hunfed := hmirrors.unfed hg hh hid hunfed
  bodies _ hbody := hmirrors.bodyAt hh hbody

/-- What comes of an action in one graph has a match in the other. -/
theorem Mirrors.yields (hg : g.Attainable) (hh : h.Attainable) (hmirrors : g.Mirrors f but h)
    (hact : g.KindAt act .action) :
    ∃ outcome outcome', g.Bears act outcome ∧ g.Yields act outcome ∧ h.Yields (f act) outcome' ∧
      g.Matches f but act outcome outcome' := by
  have hres := hmirrors.resembles hg.wellFormed hh.wellFormed
  obtain ⟨outcome, hbears⟩ := exists_bears hg hact
  obtain ⟨outcome', hbears', hmatches⟩ :=
    hres.bears hact hact.mem_keys (fun _ => hmirrors.conditionEntries) hbears
  obtain ⟨body, hbody, hkind⟩ := hg.keepsRules.exists_bodyAt hact
  obtain ⟨body', hbody', hkind', _⟩ := hmirrors.bodyAt hh.wellFormed hbody
  have hact' : h.KindAt (f act) .action := hkind ▸ hkind' ▸ hbody'.kindAt
  exact ⟨outcome, outcome', hbears, hbears.yields hg hact, hbears'.yields hh hact', hmatches⟩

/-- Trees depend neither on the ids of nodes nor on the order of connections. In a graph from a
session that has the nodes of another one under other ids, and the same connections in any order,
the same tree comes of an action, or the same fault of unfinished rules at the counterpart. -/
theorem yields_of_renaming (hg : g.Attainable) (hh : h.Attainable)
    (hmirrors : g.Mirrors f (fun _ => False) h) (hact : g.KindAt act .action) :
    ∃ outcome, g.Yields act outcome ∧
      h.Yields (f act) (outcome.mapError (TreeFault.rename f)) ∧
      ∀ fault, outcome = .error fault → (Fault.tree fault).family? = some .incompleteGraph := by
  obtain ⟨outcome, outcome', hbears, hyields, hyields', hmatches⟩ := hmirrors.yields hg hh hact
  rw [hmatches.eq_mapError hg.wellFormed fun _ => id] at hyields'
  exact ⟨outcome, hyields, hyields', fun fault hfault => (hfault ▸ hbears).incomplete⟩

/-- Other ids for the two nodes of the sample that are no conditions. -/
def otherId (id : String) : String :=
  if id = "either" then "any" else if id = "off" then "reduced" else id

lemma isNodeId_otherId {s : String} (hs : isNodeId s = true) : isNodeId (otherId s) = true := by
  unfold otherId
  split_ifs
  · decide
  · decide
  · exact hs

def renamedNodes : List RuleNode :=
  sampleNodes.map fun r => { r with id := otherId r.id, idFits := isNodeId_otherId r.idFits }

/-- The sample under other ids, its second input connected first. -/
def renamed : Graph where
  nodes := renamedNodes.map .rule
  connections := [⟨"gold", "condition", "any", "b"⟩, ⟨"few", "condition", "any", "a"⟩,
    ⟨"any", "result", "reduced", "condition"⟩]
  limit := .int 5

lemma renamed_attainable : renamed.Attainable := by
  have hnodes : ({ renamed with connections := [] } : Graph).Attainable :=
    Attainable.calls (e := .ofGraph (.empty (.int 5))) (.empty _) (renamedNodes.map .insert)
  have hgold := hnodes.link (c := ⟨"gold", "condition", "any", "b"⟩)
    ⟨⟨_, ⟨_, rfl, rfl⟩, by decide⟩, ⟨_, ⟨_, rfl, rfl⟩, by decide⟩, by simp,
      Connection.not_path_of_sink (by simp) (by decide)⟩
  have hfew := hgold.link (c := ⟨"few", "condition", "any", "a"⟩)
    ⟨⟨_, ⟨_, rfl, rfl⟩, by decide⟩, ⟨_, ⟨_, rfl, rfl⟩, by decide⟩, by simp,
      Connection.not_path_of_sink (by simp) (by decide)⟩
  exact hfew.link (c := ⟨"any", "result", "reduced", "condition"⟩)
    ⟨⟨_, ⟨_, rfl, rfl⟩, by decide⟩, ⟨_, ⟨_, rfl, rfl⟩, by decide⟩, by simp,
      Connection.not_path_of_sink (by simp) (by decide)⟩

lemma sample_mirrors_renamed : sample.Mirrors otherId (fun _ => False) renamed where
  nodes := by
    refine List.forall₂_map_left_iff.mpr (List.forall₂_map_right_iff.mpr ?_)
    refine List.forall₂_map_right_iff.mpr (List.forall₂_same.mpr fun r _ => ?_)
    exact ⟨r, _, rfl, rfl, rfl, rfl, fun _ => rfl⟩
  connections := .swap _ _ _

theorem yields_of_renaming_sample : renamed.Yields "reduced" (.ok sampleTree) := by
  have hact : sample.KindAt "off" .action := ⟨_, rfl, rfl⟩
  obtain ⟨outcome, hyields, hyields', _⟩ :=
    yields_of_renaming sample_attainable renamed_attainable sample_mirrors_renamed hact
  obtain rfl : .ok sampleTree = outcome :=
    tree_sampleRule.symm.trans (hyields.tree_eq sample_attainable compile_sample)
  exact hyields'

end Graph
end Promotion
