import Promotion.Proofs.Editor.Attainable
import Promotion.Proofs.Node.Payload

/-! Saving and reopening. The document of a graph from a session loads to that very graph, unless
the limit leaves no room for its nodes; then the first node too many is named. -/
namespace Promotion.Graph
open Connection

variable {g h : Graph} {limit : Json} {m : Int} {c : Connection} {r : RuleNode}
  {rs : List RuleNode}

/-! ### Nodes -/

lemma replay_cons {α : Type} {step : Graph → Json → Except EditFault (Graph × α)}
    {event : α → GraphEvent} {x : Json} {xs : List Json} {a : α} (hx : step g x = .ok (h, a)) :
    (replay step event g (x :: xs)).2 = (replay step event h xs).2 := by
  simp [replay, hx]

lemma insertJson_payload (hkey : .text r.id ∉ g.keys) (hlimit : g.limit = .int m)
    (hroom : (g.size : Int) < m) :
    g.insertJson (Node.rule r).payload =
      .ok ({ g with nodes := g.nodes ++ [.rule r] }, .rule r) := by
  have hreached : reached? g.size g.limit = some false := by simpa [hlimit, reached?] using hroom
  exact insertJson_eq_ok_iff.mpr
    ⟨r, r.parse_payload, insert_eq_ok_iff.mpr ⟨hkey, hreached, rfl⟩, rfl⟩

lemma insertJson_payload_full (hkey : .text r.id ∉ g.keys) (hlimit : g.limit = .int m)
    (hfull : m ≤ g.size) :
    g.insertJson (Node.rule r).payload = .error (.graph (.full (.str r.id) (.int m))) := by
  have hnew : g.has (.text r.id) = false := Bool.eq_false_iff.mpr fun hhas =>
    hkey (has_iff.mp hhas)
  have hreached : reached? g.size (.int m) = some true := by simpa [reached?] using hfull
  have hinsert : g.insert (.rule r) = .error (.graph (.full (.str r.id) (.int m))) := by
    simp [insert, hnew, hlimit, hreached, Node.id]
  rw [insertJson_of_parse r.parse_payload, hinsert]
  rfl

/-- Nodes with new ids that there is room for are all put in, in their order. -/
lemma replay_nodes (hlimit : g.limit = .int m)
    (hnodup : (g.keys ++ rs.map fun r => NodeKey.text r.id).Nodup)
    (hroom : rs = [] ∨ (g.size + rs.length : Int) ≤ m) :
    (replay insertJson .added g (rs.map fun r => (Node.rule r).payload)).2 =
      .ok { g with nodes := g.nodes ++ rs.map .rule } := by
  induction rs generalizing g with
  | nil => simp [replay]
  | cons r rs ih =>
    have hlength : (g.size + (rs.length + 1) : Int) ≤ m := by simpa using hroom
    have hkey : .text r.id ∉ g.keys := fun hmem =>
      (List.nodup_append.mp hnodup).2.2 _ hmem _ List.mem_cons_self rfl
    have hstep := insertJson_payload (r := r) hkey hlimit (by omega)
    rw [List.map_cons, replay_cons hstep, ih]
    · simp
    · exact hlimit
    · rw [keys_append]
      simpa using hnodup
    · right
      simp only [size, List.length_append, List.length_singleton] at hlength ⊢
      omega

/-- Where the limit falls short, the node at its place is the first that is refused. -/
lemma replay_nodes_full (hlimit : g.limit = .int m)
    (hnodup : (g.keys ++ rs.map fun r => NodeKey.text r.id).Nodup)
    (hfull : m < g.size + rs.length) (hne : rs ≠ []) :
    ∃ r, rs[(m - g.size).toNat]? = some r ∧
      (replay insertJson .added g (rs.map fun r => (Node.rule r).payload)).2 =
        .error (.graph (.full (.str r.id) (.int m))) := by
  induction rs generalizing g with
  | nil => exact absurd rfl hne
  | cons r rs ih =>
    have hkey : .text r.id ∉ g.keys := fun hmem =>
      (List.nodup_append.mp hnodup).2.2 _ hmem _ List.mem_cons_self rfl
    by_cases hroom : (g.size : Int) < m
    · have hstep := insertJson_payload (r := r) hkey hlimit hroom
      have hrest : rs ≠ [] := by
        rintro rfl
        simp at hfull
        omega
      rw [List.map_cons, replay_cons hstep]
      obtain ⟨s, hs, hreplay⟩ := ih (g := { g with nodes := g.nodes ++ [.rule r] }) hlimit
        (by rw [keys_append]; simpa using hnodup) (by simp [size] at hfull ⊢; omega) hrest
      refine ⟨s, ?_, hreplay⟩
      have hindex : (m - g.size).toNat = (m - (g.size + 1 : Int)).toNat + 1 := by omega
      rw [hindex, List.getElem?_cons_succ]
      simpa [size] using hs
    · have hindex : (m - g.size).toNat = 0 := by omega
      refine ⟨r, by simp [hindex], ?_⟩
      simp [replay, insertJson_payload_full hkey hlimit (by omega)]

/-! ### Connections -/

/-- The connections before a given one leave room for it. -/
lemma WellFormed.accepts {before after : List Connection} (hg : g.WellFormed)
    (hsplit : g.connections = before ++ c :: after) :
    ({ g with connections := before } : Graph).Accepts c := by
  have hc : c ∈ g.connections := by simp [hsplit]
  have hsub : before ⊆ g.connections := by simp [hsplit]
  refine ⟨hg.output c hc, hg.input c hc, fun d hd hsame => ?_, hg.acyclic.not_path_back hsub hc⟩
  have hnodup := hg.inputs_nodup
  rw [hsplit, List.map_append, List.map_cons] at hnodup
  exact (List.nodup_append.mp hnodup).2.2 _ (List.mem_map_of_mem hd) _ List.mem_cons_self
    (Prod.ext hsame.1 hsame.2)

/-- The connections of a well-formed graph can be made again, in their order. -/
lemma replay_connections (hg : g.WellFormed) {before after : List Connection}
    (hsplit : g.connections = before ++ after) :
    (replay connectJson .connected { g with connections := before }
      (after.map Connection.payload)).2 = .ok g := by
  induction after generalizing before with
  | nil =>
    obtain rfl : g.connections = before := by simpa using hsplit
    rfl
  | cons c after ih =>
    have hconnect := (hg.accepts hsplit).connect_eq
    have hstep := connectJson_eq_ok_iff.mpr ⟨c, ofJson_payload c, hconnect⟩
    rw [List.map_cons, replay_cons hstep]
    exact ih (by simpa using hsplit)

/-! ### Documents -/

/-- Every graph that a session comes to is kept whole by saving and reopening: under a limit that
suits its size, or any limit if it is empty, its document loads to the same nodes and connections in
the same order. Otherwise the load is refused for the first node that the limit leaves out. -/
theorem ofPayload_payload (hg : g.Attainable) (m : Int) :
    (g.nodes = [] ∨ (g.size : Int) ≤ m →
      ofPayload (.int m) g.payload = .ok { g with limit := .int m }) ∧
    (¬(g.nodes = [] ∨ (g.size : Int) ≤ m) →
      ∃ n, g.nodes[m.toNat]? = some n ∧
        ofPayload (.int m) g.payload = .error (.graph (.full n.id (.int m)))) := by
  obtain ⟨rs, hrs⟩ := hg.keepsRules.exists_map
  have hwell : ({ g with limit := .int m } : Graph).WellFormed :=
    ⟨hg.wellFormed.keys_nodup, hg.wellFormed.output, hg.wellFormed.input,
      hg.wellFormed.inputs_nodup, hg.wellFormed.acyclic⟩
  have hpayloads : g.nodes.map Node.payload = rs.map fun r => (Node.rule r).payload := by
    simp [hrs]
  have hnodup : ((empty (.int m)).keys ++ rs.map fun r => NodeKey.text r.id).Nodup := by
    have hkeys := hg.wellFormed.keys_nodup
    simpa [keys, hrs, empty, Function.comp_def, Node.key] using hkeys
  have hload : ofPayload (.int m) g.payload = _ := ofPayload_eq_bind rfl rfl
  rw [hload, hpayloads]
  constructor
  · intro hroom
    have hfits : rs = [] ∨ ((empty (.int m)).size + rs.length : Int) ≤ m := by
      simpa [hrs, size, empty] using hroom
    have hnodes := replay_nodes rfl hnodup hfits
    have hstart :
        ({ empty (.int m) with nodes := (empty (.int m)).nodes ++ rs.map .rule } : Graph) =
          { ({ g with limit := .int m } : Graph) with connections := [] } := by
      simp [empty, hrs]
    rw [hnodes, hstart]
    exact replay_connections hwell rfl
  · intro hroom
    obtain ⟨hne, hfull⟩ := not_or.mp hroom
    have hshort : m < (empty (.int m)).size + rs.length := by
      simpa [hrs, size, empty] using hfull
    have hsome : rs ≠ [] := by simpa [hrs] using hne
    obtain ⟨r, hr, hnodes⟩ := replay_nodes_full rfl hnodup hshort hsome
    refine ⟨.rule r, ?_, ?_⟩
    · rw [hrs, List.getElem?_map]
      simpa [size, empty] using hr
    · rw [hnodes]
      rfl

theorem ofPayload_payload_sample :
    ofPayload (.int 4) sample.payload = .ok { sample with limit := .int 4 } ∧
      ∃ n, sample.nodes[3]? = some n ∧
        ofPayload (.int 3) sample.payload = .error (.graph (.full n.id (.int 3))) :=
  ⟨(ofPayload_payload sample_attainable 4).1 (by decide),
    (ofPayload_payload sample_attainable 3).2 (by decide)⟩

end Promotion.Graph
