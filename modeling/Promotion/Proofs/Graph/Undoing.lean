import Promotion.Proofs.Graph.Connecting

/-! Undoing edits. A connection that was made can be taken out again, and so can a node that was put
in, with all that was done at it in between. Both leave the graph as it was before. -/
namespace Promotion
open Connection

/-- Edits at the node with a key: changes of its fields, and connections that start or end there. -/
def GraphEdit.At (key : NodeKey) : GraphEdit → Prop
  | .insert _ => False
  | .update ref _ => NodeKey.ofJson? ref = some key
  | .remove _ => False
  | .connect source _ target _ =>
    NodeKey.ofJson? source = some key ∨ NodeKey.ofJson? target = some key
  | .disconnect source _ target _ =>
    NodeKey.ofJson? source = some key ∨ NodeKey.ofJson? target = some key

namespace Graph
variable {g h k : Graph} {n m : Node} {c : Connection} {ref : Json} {changes : Fields}
  {source output target input : Json}

/-- A graph and one with a further node, which is behind the others and has the key of a given node.
The connections that do not touch this node are the same. -/
structure Extends (g : Graph) (n : Node) (h : Graph) : Prop where
  new : n.key ∉ g.keys
  limit : h.limit = g.limit
  nodes : ∃ m, m.key = n.key ∧ h.nodes = g.nodes ++ [m]
  connections : h.connections.filter (fun c => !touches n c) = g.connections

/-! ### Connections of the new node -/

lemma touches_congr (h : m.key = n.key) : touches m = touches n := by
  funext c
  rw [touches, touches, h]

/-- A connection made from values touches the node that one of its ends names. -/
lemma touches_of_named (hsource : source = .str c.source) (htarget : target = .str c.target)
    (h : NodeKey.ofJson? source = some n.key ∨ NodeKey.ofJson? target = some n.key) :
    touches n c = true := by
  subst hsource htarget
  rcases h with h | h
  · simp [touches, ← Option.some.inj h]
  · simp [touches, ← Option.some.inj h]

/-- No connection of a well-formed graph touches a node that is not there. -/
lemma WellFormed.not_touches (hg : g.WellFormed) (hnew : n.key ∉ g.keys) (hc : c ∈ g.connections) :
    (!touches n c) = true := by
  rw [not_touches_iff]
  constructor
  · intro hsource
    exact hnew (hsource ▸ (hg.output c hc).mem_keys)
  · intro htarget
    exact hnew (htarget ▸ (hg.input c hc).mem_keys)

/-! ### From putting a node in to taking it out -/

lemma Extends.of_insert (hg : g.WellFormed) (hok : g.insert n = .ok h) : g.Extends n h := by
  obtain ⟨hnew, -, rfl⟩ := insert_eq_ok_iff.mp hok
  exact ⟨hnew, rfl, ⟨n, rfl, rfl⟩, List.filter_eq_self.mpr fun c hc => hg.not_touches hnew hc⟩

lemma ne_key_of_new {old : Node} (hnew : n.key ∉ g.keys) (hold : old ∈ g.nodes) :
    old.key ≠ n.key :=
  fun hkey => hnew (hkey ▸ List.mem_map_of_mem hold)

/-- A node that replaces the last one leaves the nodes with other keys alone. -/
lemma replace_of_nodes (hnodes : h.nodes = g.nodes ++ [m]) (hm : m.key = n.key)
    (hnew : n.key ∉ g.keys) : (h.replace n).nodes = g.nodes ++ [n] := by
  have hother : ∀ old ∈ g.nodes, (if old.key == n.key then n else old) = old := by
    intro old hold
    simp [ne_key_of_new hnew hold]
  rw [replace, hnodes, List.map_append, List.map_congr_left hother, List.map_id']
  simp [hm]

lemma Extends.update (hext : g.Extends n h) (hat : NodeKey.ofJson? ref = some n.key)
    (hok : h.update ref changes = .ok (k, m)) : g.Extends n k := by
  obtain ⟨old, hold, -, hkeep, -, rfl⟩ := exists_of_update hok
  obtain ⟨key, hkey, hfound⟩ := get_eq_ok_iff.mp hold
  obtain rfl := Option.some.inj (hat.symm.trans hkey)
  have hm : m.key = n.key := hkeep.trans (node?_eq_some hfound).2
  obtain ⟨last, hlast, hnodes⟩ := hext.nodes
  refine ⟨hext.new, hext.limit, ⟨m, hm, ?_⟩, hext.connections⟩
  exact replace_of_nodes hnodes (hlast.trans hm.symm) (hm ▸ hext.new)

lemma Extends.connect (hext : g.Extends n h)
    (hat : NodeKey.ofJson? source = some n.key ∨ NodeKey.ofJson? target = some n.key)
    (hok : h.connect source output target input = .ok (k, c)) : g.Extends n k := by
  obtain ⟨hfor, rfl⟩ := connect_eq_ok_iff.mp hok
  obtain ⟨⟨hsource, -, htarget, -⟩, -⟩ := connectionFor_eq_ok_iff.mp hfor
  refine ⟨hext.new, hext.limit, hext.nodes, ?_⟩
  simp [hext.connections, touches_of_named hsource htarget hat]

lemma Extends.disconnect (hext : g.Extends n h)
    (hat : NodeKey.ofJson? source = some n.key ∨ NodeKey.ofJson? target = some n.key)
    (hok : h.disconnectValues source output target input = .ok (k, c)) : g.Extends n k := by
  obtain ⟨⟨hsource, -, htarget, -⟩, -, rfl⟩ := disconnectValues_eq_ok_iff.mp hok
  have htouches : touches n c = true := touches_of_named hsource htarget hat
  refine ⟨hext.new, hext.limit, hext.nodes, ?_⟩
  rw [← List.erase_filter, List.erase_of_not_mem, hext.connections]
  simp [htouches]

/-- An edit at the new node leaves the rest of the graph alone. -/
theorem Extends.apply {e : GraphEdit} (hext : g.Extends n h) (hat : e.At n.key)
    (hok : e.apply h = .ok k) : g.Extends n k := by
  cases e with
  | insert _ => exact hat.elim
  | update ref changes =>
    obtain ⟨_, hok⟩ := map_fst_eq_ok_iff.mp hok
    exact hext.update hat hok
  | remove _ => exact hat.elim
  | connect source output target input =>
    obtain ⟨_, hok⟩ := map_fst_eq_ok_iff.mp hok
    exact hext.connect hat hok
  | disconnect source output target input =>
    obtain ⟨_, hok⟩ := map_fst_eq_ok_iff.mp hok
    exact hext.disconnect hat hok

theorem Extends.run {edits : List GraphEdit} (hext : g.Extends n h)
    (hedits : ∀ e ∈ edits, e.At n.key) : g.Extends n (h.run edits) :=
  run_induction_of (fun _ _ _ hat hext hok => hext.apply hat hok) hext hedits

/-- What is left when the new node is taken out is the graph from before. -/
theorem Extends.remove (hext : g.Extends n h) :
    ∃ m, m.key = n.key ∧ h.remove n.id = .ok (g, m) := by
  obtain ⟨m, hm, hnodes⟩ := hext.nodes
  have hother : ∀ old ∈ g.nodes, (old.key != m.key) = true := by
    intro old hold
    simp [hm, ne_key_of_new hext.new hold]
  have hfound : h.node? n.key = some m := by
    have hnone : g.node? n.key = none := node?_eq_none_iff.mpr hext.new
    rw [node?] at hnone ⊢
    simp [hnodes, List.find?_append, hnone, hm]
  have hget : h.get n.id = .ok m := get_eq_ok_iff.mpr ⟨n.key, n.ofJson?_id, hfound⟩
  refine ⟨m, hm, remove_eq_ok_iff.mpr ⟨hget, ?_⟩⟩
  have hleft : h.nodes.filter (fun old => old.key != m.key) = g.nodes := by
    rw [hnodes, List.filter_append, List.filter_eq_self.mpr hother]
    simp
  rw [hleft, touches_congr hm, hext.connections, hext.limit]

/-! ### From making a connection to taking it out -/

/-- The connection that was made is the last one, and no other equals it, so that it is the one that
is taken out. -/
theorem disconnectValues_of_connect (hok : g.connect source output target input = .ok (h, c)) :
    h.disconnectValues source output target input = .ok (g, c) := by
  obtain ⟨hfor, rfl⟩ := connect_eq_ok_iff.mp hok
  obtain ⟨hparts, hc⟩ := connectionFor_eq_ok_iff.mp hfor
  have hnew : c ∉ g.connections := fun hmem => hc.free c hmem ⟨rfl, rfl⟩
  refine disconnectValues_eq_ok_iff.mpr ⟨hparts, by simp, ?_⟩
  simp [List.erase_append_right _ hnew]

/-- Taking out undoes putting in. A connection that was just made can be taken out by the same
values, and a node that was put in by its id, together with all its connections, whatever edits were
made at it since. The graph is then what it was, to the order of its nodes and connections. -/
theorem remove_undoes_insert (hg : g.Reachable) :
    (∀ source output target input h c, g.connect source output target input = .ok (h, c) →
      h.disconnectValues source output target input = .ok (g, c)) ∧
    ∀ n h edits, g.insert n = .ok h → (∀ e ∈ edits, GraphEdit.At n.key e) →
      ∃ m, m.key = n.key ∧ (h.run edits).remove n.id = .ok (g, m) := by
  constructor
  · intro source output target input h c hok
    exact disconnectValues_of_connect hok
  · intro n h edits hok hedits
    exact ((Extends.of_insert hg.wellFormed hok).run hedits).remove

/-- The sample without its action, and with one of its connections only. -/
def unfinished : Graph :=
  (empty (.int 5)).run ((sampleNodes.take 3).map (fun r => .insert (.rule r)) ++
    [.connect (.str "few") (.str "condition") (.str "either") (.str "a")])

def discount : Node := .rule sampleNodes[3]

/-- A connection into the discount, a change of its value, and the same connection taken out and
made again. -/
def discountEdits : List GraphEdit :=
  [.connect (.str "either") (.str "result") (.str "off") (.str "condition"),
    .update (.str "off") [("value", .int 20)],
    .disconnect (.str "either") (.str "result") (.str "off") (.str "condition"),
    .connect (.str "either") (.str "result") (.str "off") (.str "condition")]

theorem remove_undoes_insert_discount :
    unfinished.Reachable ∧
    (∃ h c, unfinished.connect (.str "gold") (.str "condition") (.str "either") (.str "b") =
        .ok (h, c) ∧
      h.disconnectValues (.str "gold") (.str "condition") (.str "either") (.str "b") =
        .ok (unfinished, c)) ∧
    ∃ h m, unfinished.insert discount = .ok h ∧ (∀ e ∈ discountEdits, e.At discount.key) ∧
      (h.run discountEdits).connections ≠ unfinished.connections ∧ m.key = discount.key ∧
      (h.run discountEdits).remove discount.id = .ok (unfinished, m) := by
  have hreachable : unfinished.Reachable := ⟨_, _, _, .inl rfl, rfl⟩
  have hat : ∀ e ∈ discountEdits, e.At discount.key := by
    simp [discountEdits, GraphEdit.At, discount, sampleNodes]
  have hconnect : unfinished.connect (.str "gold") (.str "condition") (.str "either") (.str "b") =
      .ok ({ unfinished with connections := unfinished.connections ++
        [⟨"gold", "condition", "either", "b"⟩] }, ⟨"gold", "condition", "either", "b"⟩) := by
    decide +kernel
  have hinsert : unfinished.insert discount =
      .ok { unfinished with nodes := unfinished.nodes ++ [discount] } := by
    decide +kernel
  obtain ⟨hdisconnect, hremove⟩ := remove_undoes_insert hreachable
  obtain ⟨m, hm, hback⟩ := hremove discount _ discountEdits hinsert hat
  exact ⟨hreachable, ⟨_, _, hconnect, hdisconnect _ _ _ _ _ _ hconnect⟩,
    _, m, hinsert, hat, by decide +kernel, hm, hback⟩

end Graph
end Promotion
