import Promotion.Proofs.Graph.WellFormed
import Promotion.Proofs.Node.Payload
import Mathlib.Data.List.Perm.Subperm

/-! The order of additions does not matter. What a list of nodes or of connections needs to be taken
one after the other can be said of the whole list without its order, and it holds of a part of the
list if it holds of the whole. -/
namespace Promotion
open Connection List

section Pairing
variable {α β : Type} {R : α → β → Prop} {xs xs' : List α} {ys : List β}

lemma exists_forall₂_of_sublist (h : Forall₂ R xs ys) (hsub : xs'.Sublist xs) :
    ∃ ys', Forall₂ R xs' ys' ∧ ys'.Sublist ys := by
  induction hsub generalizing ys with
  | slnil => exact ⟨[], .nil, nil_sublist _⟩
  | cons x _ ih =>
    cases h with
    | cons _ hrest =>
      obtain ⟨ys', hys', hkept⟩ := ih hrest
      exact ⟨ys', hys', hkept.cons _⟩
  | cons_cons x _ ih =>
    cases h with
    | cons hfirst hrest =>
      obtain ⟨ys', hys', hkept⟩ := ih hrest
      exact ⟨_, .cons hfirst hys', hkept.cons_cons _⟩

/-- Where the entries of a list go with those of another, so do the entries of a part of it, in any
order. -/
lemma exists_forall₂_of_subperm (h : Forall₂ R xs ys) (hsub : xs'.Subperm xs) :
    ∃ ys', Forall₂ R xs' ys' ∧ ys'.Subperm ys := by
  obtain ⟨part, hperm, hpart⟩ := hsub
  obtain ⟨kept, hkept, hsub⟩ := exists_forall₂_of_sublist h hpart
  obtain ⟨ys', hys', hperm'⟩ := perm_comp_forall₂ hperm.symm hkept
  exact ⟨ys', hys', kept, hperm'.symm, hsub⟩

end Pairing

/-- The four values that ask for a connection. -/
def Connection.values (c : Connection) : Json × Json × Json × Json :=
  (.str c.source, .str c.output, .str c.target, .str c.input)

namespace Graph
variable {g h : Graph} {c : Connection} {cs ds : List Connection} {rs ss : List RuleNode}
  {limit payload : Json}

/-- Makes connections one after the other, up to the first that is refused. -/
def connectAll (g : Graph) (asked : List (Json × Json × Json × Json)) : Except EditFault Graph :=
  asked.foldlM (fun g (source, output, target, input) =>
    (g.connect source output target input).map Prod.fst) g

/-! ### Connections -/

/-- What a graph asks of a list of new connections: sockets at both ends, inputs that are free and
distinct, and no way back along the old and the new ones. -/
structure AcceptsAll (g : Graph) (cs : List Connection) : Prop where
  output : ∀ c ∈ cs, g.HasOutput c.source c.output
  input : ∀ c ∈ cs, g.HasInput c.target c.input
  free : ∀ c ∈ cs, ∀ d ∈ g.connections, ¬(d.target = c.target ∧ d.input = c.input)
  inputs_nodup : (cs.map fun c => (c.target, c.input)).Nodup
  noWayBack : ∀ c ∈ cs, ¬Path (g.connections ++ cs) c.target c.source

lemma AcceptsAll.of_subperm (hcs : g.AcceptsAll cs) (hsub : ds.Subperm cs) : g.AcceptsAll ds := by
  have hmem := hsub.subset
  have hall : g.connections ++ ds ⊆ g.connections ++ cs :=
    append_subset.mpr ⟨subset_append_left _ _, List.Subset.trans hmem (subset_append_right _ _)⟩
  refine ⟨fun c hc => hcs.output c (hmem hc), fun c hc => hcs.input c (hmem hc),
    fun c hc => hcs.free c (hmem hc), ?_, fun c hc hpath => hcs.noWayBack c (hmem hc) ?_⟩
  · obtain ⟨part, hperm, hpart⟩ := hsub
    exact (hperm.map _).nodup_iff.mp (hcs.inputs_nodup.sublist (hpart.map _))
  · exact hpath.mono hall

lemma acceptsAll_nil : g.AcceptsAll [] := by
  constructor <;> simp

/-- If the first connection had a way back along all the others, one of them would be on it, and
that one had a way back by the first. -/
lemma acceptsAll_cons_iff :
    g.AcceptsAll (c :: cs) ↔
      g.Accepts c ∧ ({ g with connections := g.connections ++ [c] } : Graph).AcceptsAll cs := by
  have hsplit : g.connections ++ [c] ++ cs = g.connections ++ c :: cs := by simp
  constructor
  · intro h
    have hold : g.connections ⊆ g.connections ++ c :: cs := subset_append_left _ _
    have hnodup := nodup_cons.mp h.inputs_nodup
    refine ⟨⟨h.output c mem_cons_self, h.input c mem_cons_self, h.free c mem_cons_self,
      fun hpath => h.noWayBack c mem_cons_self (hpath.mono hold)⟩,
      ⟨fun d hd => h.output d (mem_cons_of_mem _ hd), fun d hd => h.input d (mem_cons_of_mem _ hd),
        fun d hd e he hsame => ?_, hnodup.2, fun d hd => ?_⟩⟩
    · rcases mem_append.mp he with hbefore | hnew
      · exact h.free d (mem_cons_of_mem _ hd) e hbefore hsame
      · obtain rfl := mem_singleton.mp hnew
        exact hnodup.1 (mem_map.mpr ⟨d, hd, Prod.ext hsame.1.symm hsame.2.symm⟩)
    · rw [hsplit]
      exact h.noWayBack d (mem_cons_of_mem _ hd)
  · rintro ⟨hc, hcs⟩
    refine ⟨forall_mem_cons.mpr ⟨hc.output, hcs.output⟩, forall_mem_cons.mpr ⟨hc.input, hcs.input⟩,
      forall_mem_cons.mpr ⟨hc.free, fun d hd e he => hcs.free d hd e (mem_append_left _ he)⟩,
      nodup_cons.mpr ⟨fun hmem => ?_, hcs.inputs_nodup⟩, ?_⟩
    · obtain ⟨d, hd, hsame⟩ := mem_map.mp hmem
      obtain ⟨htarget, hinput⟩ := Prod.mk.inj hsame
      exact hcs.free d hd c (by simp) ⟨htarget.symm, hinput.symm⟩
    · rw [← hsplit]
      have hnew : Joins (g.connections ++ [c] ++ cs) c.source c.target := joins_of_mem (by simp)
      refine forall_mem_cons.mpr ⟨fun hpath => ?_, hcs.noWayBack⟩
      rcases Path.through hpath with hwithout | ⟨d, hd, hto, hfrom⟩
      · rcases Path.through hwithout with hbefore | ⟨e, he, hbefore, _⟩
        · exact hc.noWayBack hbefore
        · exact hc.noWayBack (mem_singleton.mp he ▸ hbefore)
      · exact hcs.noWayBack d hd ((hfrom.tail hnew).trans (hto.mono (subset_append_left _ _)))

/-- What asks for connections one after the other succeeds if all that it asks for is accepted. -/
lemma foldlM_eq_ok_iff_acceptsAll {α : Type} {step : Graph → α → Except EditFault Graph}
    {Asks : α → Connection → Prop}
    (hstep : ∀ g x h, step g x = .ok h ↔
      ∃ c, Asks x c ∧ g.Accepts c ∧ h = { g with connections := g.connections ++ [c] })
    {xs : List α} :
    xs.foldlM step g = .ok h ↔
      ∃ cs, Forall₂ Asks xs cs ∧ g.AcceptsAll cs ∧
        h = { g with connections := g.connections ++ cs } := by
  induction xs generalizing g with
  | nil => simp [pure, Except.pure, acceptsAll_nil, eq_comm]
  | cons x xs ih =>
    rw [foldlM_cons, bind_eq_ok_iff]
    constructor
    · rintro ⟨next, hnext, hrest⟩
      obtain ⟨c, hask, hc, rfl⟩ := (hstep g x next).mp hnext
      obtain ⟨cs, hasks, hcs, rfl⟩ := ih.mp hrest
      exact ⟨c :: cs, .cons hask hasks, acceptsAll_cons_iff.mpr ⟨hc, hcs⟩, by simp⟩
    · rintro ⟨_, hasks, hall, rfl⟩
      cases hasks with
      | @cons _ c _ cs hask hasks =>
        obtain ⟨hc, hcs⟩ := acceptsAll_cons_iff.mp hall
        exact ⟨_, (hstep g x _).mpr ⟨c, hask, hc, rfl⟩, ih.mpr ⟨cs, hasks, hcs, by simp⟩⟩

theorem connectAll_eq_ok_iff {asked : List (Json × Json × Json × Json)} :
    g.connectAll asked = .ok h ↔
      ∃ cs, Forall₂ (fun values c => values = Connection.values c) asked cs ∧ g.AcceptsAll cs ∧
        h = { g with connections := g.connections ++ cs } := by
  refine foldlM_eq_ok_iff_acceptsAll fun g (source, output, target, input) h => ?_
  simp only [map_fst_eq_ok_iff, connect_eq_ok_iff, connectionFor_eq_ok_iff, values, Prod.mk.injEq,
    and_assoc]

/-- The load of connections from data, seen as a fold. -/
lemma replay_eq_foldlM {α : Type} {step : Graph → Json → Except EditFault (Graph × α)}
    {event : α → GraphEvent} {xs : List Json} :
    (replay step event g xs).2 = xs.foldlM (fun g x => (step g x).map Prod.fst) g := by
  induction xs generalizing g with
  | nil => rfl
  | cons x xs ih =>
    cases hx : step g x with
    | error fault => simp [replay, hx, foldlM_cons, Except.map, bind, Except.bind]
    | ok next => simp [replay, hx, foldlM_cons, Except.map, bind, Except.bind, ih]

lemma replay_connectJson_eq_ok_iff {xs : List Json} :
    (replay connectJson .connected g xs).2 = .ok h ↔
      ∃ cs, Forall₂ (fun json c => ofJson json = .valid c) xs cs ∧ g.AcceptsAll cs ∧
        h = { g with connections := g.connections ++ cs } := by
  rw [replay_eq_foldlM]
  refine foldlM_eq_ok_iff_acceptsAll fun g json h => ?_
  simp only [map_fst_eq_ok_iff, connectJson_eq_ok_iff, connect_eq_ok_iff, connectionFor_eq_ok_iff]
  constructor
  · rintro ⟨c, d, hread, ⟨hparts, hc⟩, rfl⟩
    obtain rfl : d = c := by
      cases c
      cases d
      simpa using hparts
    exact ⟨d, hread, hc, rfl⟩
  · rintro ⟨c, hread, hc, rfl⟩
    exact ⟨c, c, hread, ⟨⟨rfl, rfl, rfl, rfl⟩, hc⟩, rfl⟩

/-! ### Nodes -/

/-- What a graph asks of a list of new nodes: ids that are new and distinct, and a limit that is not
reached before the last of them. -/
structure HasRoomFor (g : Graph) (rs : List RuleNode) : Prop where
  keys_new : ∀ r ∈ rs, .text r.id ∉ g.keys
  ids_nodup : (rs.map RuleNode.id).Nodup
  reached : ∀ i < rs.length, reached? (g.size + i) g.limit = some false

lemma HasRoomFor.of_perm (hrs : g.HasRoomFor rs) (hperm : ss.Perm rs) : g.HasRoomFor ss :=
  ⟨fun r hr => hrs.keys_new r (hperm.mem_iff.mp hr), (hperm.map _).nodup_iff.mpr hrs.ids_nodup,
    fun i hi => hrs.reached i (hperm.length_eq ▸ hi)⟩

lemma HasRoomFor.keys_nodup (hrs : g.HasRoomFor rs) :
    ({ g with nodes := rs.map .rule } : Graph).keys.Nodup := by
  have hinjective : Function.Injective NodeKey.text := fun _ _ h => NodeKey.text.inj h
  simpa [keys, Function.comp_def] using hrs.ids_nodup.map hinjective

lemma hasRoomFor_nil : g.HasRoomFor [] := by
  constructor <;> simp

lemma hasRoomFor_cons_iff {r : RuleNode} :
    g.HasRoomFor (r :: rs) ↔
      (.text r.id ∉ g.keys ∧ reached? g.size g.limit = some false) ∧
        ({ g with nodes := g.nodes ++ [.rule r] } : Graph).HasRoomFor rs := by
  have hsize : ({ g with nodes := g.nodes ++ [.rule r] } : Graph).size = g.size + 1 := by
    simp [size]
  have hreached : (∀ i < (r :: rs).length, reached? (g.size + i) g.limit = some false) ↔
      reached? g.size g.limit = some false ∧
        ∀ i < rs.length, reached? (g.size + 1 + i) g.limit = some false := by
    rw [length_cons, Nat.forall_lt_succ_left]
    simp [Nat.add_assoc, Nat.add_comm 1]
  constructor
  · rintro ⟨hnew, hnodup, hroom⟩
    obtain ⟨hfirst, hrest⟩ := hreached.mp hroom
    obtain ⟨hnotin, hnodup⟩ := nodup_cons.mp hnodup
    refine ⟨⟨hnew r mem_cons_self, hfirst⟩, fun s hs => ?_, hnodup, hsize ▸ hrest⟩
    rw [keys_append]
    intro hmem
    rcases mem_append.mp hmem with hold | hsame
    · exact hnew s (mem_cons_of_mem _ hs) hold
    · have hid : s.id = r.id := by simpa using hsame
      exact hnotin (hid ▸ mem_map_of_mem hs)
  · rintro ⟨⟨hnew, hfirst⟩, hkeys, hnodup, hrest⟩
    rw [hsize] at hrest
    refine ⟨forall_mem_cons.mpr ⟨hnew, fun s hs hold => hkeys s hs ?_⟩,
      nodup_cons.mpr ⟨fun hmem => ?_, hnodup⟩, hreached.mpr ⟨hfirst, hrest⟩⟩
    · exact keys_append ▸ mem_append_left _ hold
    · obtain ⟨s, hs, hid⟩ := mem_map.mp hmem
      exact hkeys s hs (keys_append ▸ mem_append_right _ (by simp [hid]))

lemma replay_insertJson_eq_ok_iff {xs : List Json} :
    (replay insertJson .added g xs).2 = .ok h ↔
      ∃ rs, Forall₂ (fun json r => RuleNode.parse json = .valid r) xs rs ∧ g.HasRoomFor rs ∧
        h = { g with nodes := g.nodes ++ rs.map .rule } := by
  rw [replay_eq_foldlM]
  induction xs generalizing g with
  | nil => simp [pure, Except.pure, hasRoomFor_nil, eq_comm]
  | cons x xs ih =>
    simp only [foldlM_cons, bind_eq_ok_iff, map_fst_eq_ok_iff, insertJson_eq_ok_iff,
      insert_eq_ok_iff]
    constructor
    · rintro ⟨_, ⟨_, r, hread, ⟨hnew, hfirst, rfl⟩, _⟩, hrest⟩
      obtain ⟨rs, hreads, hrs, rfl⟩ := ih.mp hrest
      exact ⟨r :: rs, .cons hread hreads, hasRoomFor_cons_iff.mpr ⟨⟨hnew, hfirst⟩, hrs⟩, by simp⟩
    · rintro ⟨_, hreads, hall, rfl⟩
      cases hreads with
      | @cons _ r _ rs hread hreads =>
        obtain ⟨⟨hnew, hfirst⟩, hrs⟩ := hasRoomFor_cons_iff.mp hall
        exact ⟨_, ⟨_, r, hread, ⟨hnew, hfirst, rfl⟩, rfl⟩, ih.mpr ⟨rs, hreads, hrs, by simp⟩⟩

/-- Where keys are distinct, a node is found under its key at whatever place it stands. -/
lemma node?_eq_of_perm {key : NodeKey} (hperm : h.nodes.Perm g.nodes) (hnodup : g.keys.Nodup) :
    h.node? key = g.node? key := by
  have hnodup' : h.keys.Nodup := (hperm.map Node.key).nodup_iff.mpr hnodup
  refine Option.ext fun n => ⟨fun hn => ?_, fun hn => ?_⟩
  · obtain ⟨hmem, rfl⟩ := node?_eq_some hn
    exact node?_key hnodup (hperm.mem_iff.mp hmem)
  · obtain ⟨hmem, rfl⟩ := node?_eq_some hn
    exact node?_key hnodup' (hperm.mem_iff.mpr hmem)

lemma AcceptsAll.of_nodes_perm (hcs : g.AcceptsAll cs) (hperm : h.nodes.Perm g.nodes)
    (hnodup : g.keys.Nodup) (hsame : h.connections = g.connections) : h.AcceptsAll cs := by
  have hkinds : ∀ id kind, g.KindAt id kind → h.KindAt id kind := by
    rintro id kind ⟨n, hn, hkind⟩
    exact ⟨n, (node?_eq_of_perm hperm hnodup).trans hn, hkind⟩
  exact ⟨fun c hc => (hcs.output c hc).mono (hkinds _),
    fun c hc => (hcs.input c hc).mono (hkinds _), hsame ▸ hcs.free, hcs.inputs_nodup,
    hsame ▸ hcs.noWayBack⟩

/-! ### Documents -/

/-- The nodes and connections of a graph are those that two lists of data describe, one by one. -/
structure Lists (g : Graph) (nodes connections : List Json) : Prop where
  nodes : Forall₂ (fun json n => ∃ r, RuleNode.parse json = .valid r ∧ n = .rule r) nodes g.nodes
  connections : Forall₂ (fun json c => ofJson json = .valid c) connections g.connections

/-- A document loads if there is room for its nodes, and the graph of these takes its
connections. -/
theorem ofPayload_eq_ok_iff {nodes connections : List Json}
    (hnodes : listIn? payload "nodes" = some nodes)
    (hconnections : listIn? payload "connections" = some connections) :
    ofPayload limit payload = .ok g ↔
      ∃ rs cs, Forall₂ (fun json r => RuleNode.parse json = .valid r) nodes rs ∧
        Forall₂ (fun json c => ofJson json = .valid c) connections cs ∧
        (empty limit).HasRoomFor rs ∧
        ({ empty limit with nodes := rs.map .rule } : Graph).AcceptsAll cs ∧
        g = ⟨rs.map .rule, cs, limit⟩ := by
  rw [ofPayload_eq_bind hnodes hconnections, bind_eq_ok_iff]
  simp only [replay_insertJson_eq_ok_iff, replay_connectJson_eq_ok_iff]
  constructor
  · rintro ⟨_, ⟨rs, hreads, hrs, rfl⟩, cs, hlinks, hcs, rfl⟩
    exact ⟨rs, cs, hreads, hlinks, hrs, hcs, rfl⟩
  · rintro ⟨rs, cs, hreads, hlinks, hrs, hcs, rfl⟩
    exact ⟨_, ⟨rs, hreads, hrs, rfl⟩, cs, hlinks, hcs, rfl⟩

/-- Whatever a graph accepts in one order it accepts in every order: connections that can be made
one after the other, and any part of them, and the nodes and connections of a document that loads.
Only the order in which the graph lists them differs. -/
theorem accepted_in_any_order :
    (∀ (g h : Graph) (asked asked' : List (Json × Json × Json × Json)),
      g.connectAll asked = .ok h → asked'.Subperm asked →
        ∃ h', g.connectAll asked' = .ok h' ∧ h'.nodes = h.nodes ∧ h'.limit = h.limit ∧
          h'.connections.Subperm h.connections ∧
          (asked'.Perm asked → h'.connections.Perm h.connections)) ∧
    ∀ (limit payload payload' : Json) (nodes nodes' connections connections' : List Json)
      (g : Graph), ofPayload limit payload = .ok g →
        listIn? payload "nodes" = some nodes → listIn? payload "connections" = some connections →
        listIn? payload' "nodes" = some nodes' →
        listIn? payload' "connections" = some connections' →
        nodes'.Perm nodes → connections'.Perm connections →
          ∃ h, ofPayload limit payload' = .ok h ∧ h.Lists nodes' connections' ∧
            h.nodes.Perm g.nodes ∧ h.connections.Perm g.connections ∧ h.limit = g.limit := by
  constructor
  · intro g h asked asked' hok hsub
    obtain ⟨cs, hasks, hcs, rfl⟩ := connectAll_eq_ok_iff.mp hok
    obtain ⟨ds, hasks', hkept⟩ := exists_forall₂_of_subperm hasks hsub
    have hok' := connectAll_eq_ok_iff.mpr ⟨ds, hasks', hcs.of_subperm hkept, rfl⟩
    refine ⟨_, hok', rfl, rfl, (subperm_append_left _).mpr hkept, fun hperm => ?_⟩
    have hlength : cs.length = ds.length := by
      rw [← hasks.length_eq, ← hasks'.length_eq, hperm.length_eq]
    exact (perm_append_left_iff _).mpr (hkept.perm_of_length_le (Nat.le_of_eq hlength))
  · intro limit payload payload' nodes nodes' connections connections' g hok hnodes hconnections
      hnodes' hconnections' hperm hperm'
    obtain ⟨rs, cs, hreads, hlinks, hrs, hcs, rfl⟩ :=
      (ofPayload_eq_ok_iff hnodes hconnections).mp hok
    obtain ⟨ss, hreads', hss⟩ := perm_comp_forall₂ hperm hreads
    obtain ⟨ds, hlinks', hds⟩ := perm_comp_forall₂ hperm' hlinks
    have hds' : ({ empty limit with nodes := ss.map .rule } : Graph).AcceptsAll ds :=
      (hcs.of_subperm hds.subperm).of_nodes_perm (hss.map _) hrs.keys_nodup rfl
    refine ⟨⟨ss.map .rule, ds, limit⟩, ?_, ⟨?_, hlinks'⟩, hss.map _, hds, rfl⟩
    · exact (ofPayload_eq_ok_iff hnodes' hconnections').mpr
        ⟨ss, ds, hreads', hlinks', hrs.of_perm hss, hds', rfl⟩
    · rw [forall₂_map_right_iff]
      exact hreads'.imp fun json r hread => ⟨r, hread, rfl⟩

/-! ### The sample -/

lemma connectAll_sample :
    ({ sample with connections := [] } : Graph).connectAll (sample.connections.map values) =
      .ok sample := by
  decide +kernel

lemma ofPayload_sample : ofPayload (.int 5) sample.payload = .ok sample := by
  obtain ⟨cs, _, hcs, hsame⟩ := connectAll_eq_ok_iff.mp connectAll_sample
  obtain rfl : sample.connections = cs := congrArg Graph.connections hsame
  have hnodes : Forall₂ (fun json r => RuleNode.parse json = .valid r)
      (sample.nodes.map Node.payload) sampleNodes := by
    refine forall₂_map_left_iff.mpr (forall₂_map_left_iff.mpr ?_)
    exact forall₂_same.mpr fun r _ => r.parse_payload
  have hlinks : Forall₂ (fun json c => ofJson json = .valid c)
      (sample.connections.map Connection.payload) sample.connections :=
    forall₂_map_left_iff.mpr (forall₂_same.mpr fun c _ => ofJson_payload c)
  have hroom : (empty (.int 5)).HasRoomFor sampleNodes :=
    ⟨by simp [empty, keys], by decide, by decide⟩
  exact (ofPayload_eq_ok_iff rfl rfl).mpr ⟨sampleNodes, _, hnodes, hlinks, hroom, hcs, rfl⟩

/-- The document of the sample with both of its lists turned around. -/
def sampleReversed : Json :=
  .obj [("nodes", .arr (sample.nodes.map Node.payload).reverse),
    ("connections", .arr (sample.connections.map Connection.payload).reverse)]

theorem accepted_in_any_order_sample :
    (∃ h, ({ sample with connections := [] } : Graph).connectAll
        (sample.connections.map values).reverse = .ok h ∧
          h.connections.Perm sample.connections) ∧
      ∃ h, ofPayload (.int 5) sampleReversed = .ok h ∧ h.nodes.Perm sample.nodes ∧
        h.connections.Perm sample.connections := by
  have hperm := (sample.connections.map values).reverse_perm
  obtain ⟨h, hok, _, _, _, hsame⟩ :=
    accepted_in_any_order.1 _ _ _ _ connectAll_sample hperm.subperm
  obtain ⟨h', hok', _, hnodes, hconnections, _⟩ :=
    accepted_in_any_order.2 (.int 5) sample.payload sampleReversed _ _ _ _ sample ofPayload_sample
      rfl rfl rfl rfl (reverse_perm _) (reverse_perm _)
  exact ⟨⟨h, hok, hsame hperm⟩, h', hok', hnodes, hconnections⟩

end Graph
end Promotion
