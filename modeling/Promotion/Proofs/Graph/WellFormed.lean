import Promotion.Graph.Document
import Promotion.Proofs.Graph.Edits
import Mathlib.Data.List.Nodup

/-! Well-formed graphs. Every edit keeps a graph well formed and within its limit, whatever nodes
and arguments it is given, and so do loading and any run of edits. -/
namespace Promotion
open Connection

/-- A call that edits a graph, with any arguments. -/
inductive GraphEdit where
  | insert (node : Node)
  | update (ref : Json) (changes : Fields)
  | remove (ref : Json)
  | connect (source output target input : Json)
  | disconnect (source output target input : Json)

/-- The graph that an edit leads to, unless it fails. -/
def GraphEdit.apply (g : Graph) : GraphEdit → Except EditFault Graph
  | .insert n => g.insert n
  | .update ref changes => (g.update ref changes).map Prod.fst
  | .remove ref => (g.remove ref).map Prod.fst
  | .connect source output target input => (g.connect source output target input).map Prod.fst
  | .disconnect source output target input =>
    (g.disconnectValues source output target input).map Prod.fst

/-- An edit that puts in no node but one that keeps the rules. -/
def GraphEdit.IsChecked : GraphEdit → Prop
  | .insert n => ∃ r, n = .rule r
  | _ => True

namespace Graph

/-- The graph after an edit; one that fails changes nothing. -/
def after (g : Graph) (e : GraphEdit) : Graph :=
  match e.apply g with
  | .ok h => h
  | .error _ => g

def run (g : Graph) (edits : List GraphEdit) : Graph := edits.foldl after g

/-- What holds of the nodes and connections of every graph that edits lead to. -/
structure WellFormed (g : Graph) : Prop where
  keys_nodup : g.keys.Nodup
  output : ∀ c ∈ g.connections, g.HasOutput c.source c.output
  input : ∀ c ∈ g.connections, g.HasInput c.target c.input
  inputs_nodup : (g.connections.map fun c => (c.target, c.input)).Nodup
  acyclic : Acyclic g.connections

/-- A graph with a limit that is a number and that its size stays within. -/
def Within (g : Graph) (m : Nat) : Prop := g.limit = .int m ∧ g.size ≤ m

/-- A connection goes from one id into an input of another. -/
def Feeds (g : Graph) (source target input : String) : Prop :=
  ∃ c ∈ g.connections, c.source = source ∧ c.target = target ∧ c.input = input

/-- No connection goes into an input. -/
def Unfed (g : Graph) (target input : String) : Prop := ∀ source, ¬g.Feeds source target input

variable {g h : Graph} {n m : Node} {key : NodeKey} {ref : Json} {c : Connection} {id : String}
  {kind : Kind} {limit payload : Json}

lemma wellFormed_empty (limit : Json) : (empty limit).WellFormed where
  keys_nodup := List.nodup_nil
  output := by simp [empty]
  input := by simp [empty]
  inputs_nodup := by simp [empty]
  acyclic := acyclic_nil

lemma HasOutput.mono {output : String} (hkinds : ∀ kind, g.KindAt id kind → h.KindAt id kind)
    (hout : g.HasOutput id output) : h.HasOutput id output := by
  obtain ⟨kind, hkind, hmem⟩ := hout
  exact ⟨kind, hkinds kind hkind, hmem⟩

lemma HasInput.mono {input : String} (hkinds : ∀ kind, g.KindAt id kind → h.KindAt id kind)
    (hin : g.HasInput id input) : h.HasInput id input := by
  obtain ⟨kind, hkind, hmem⟩ := hin
  exact ⟨kind, hkinds kind hkind, hmem⟩

/-- In a graph without double keys every node is found under its own key. -/
lemma node?_key (hnodup : g.keys.Nodup) (hn : n ∈ g.nodes) : g.node? n.key = some n := by
  obtain ⟨m, hm⟩ : ∃ m, g.node? n.key = some m := by
    refine Option.ne_none_iff_exists'.mp fun hnone => ?_
    exact node?_eq_none_iff.mp hnone (List.mem_map_of_mem hn)
  obtain ⟨hmem, hkey⟩ := node?_eq_some hm
  rw [hm, List.inj_on_of_nodup_map hnodup hmem hn hkey]

lemma get_id (hnodup : g.keys.Nodup) (hn : n ∈ g.nodes) : g.get n.id = .ok n :=
  get_eq_ok_iff.mpr ⟨n.key, n.ofJson?_id, node?_key hnodup hn⟩

/-! ### Feeding -/

lemma Feeds.joins {s input : String} (h : g.Feeds s id input) : Joins g.connections s id := by
  obtain ⟨c, hc, hsource, htarget, _⟩ := h
  exact ⟨c, hc, hsource, htarget⟩

lemma unfed_iff {input : String} :
    g.Unfed id input ↔ ∀ c ∈ g.connections, ¬(c.target = id ∧ c.input = input) := by
  constructor
  · rintro h c hc ⟨htarget, hinput⟩
    exact h c.source ⟨c, hc, rfl, htarget, hinput⟩
  · rintro h source ⟨c, hc, _, htarget, hinput⟩
    exact h c hc ⟨htarget, hinput⟩

lemma WellFormed.feeds_unique {s t input : String} (hg : g.WellFormed) (hs : g.Feeds s id input)
    (ht : g.Feeds t id input) : s = t := by
  obtain ⟨c, hc, rfl, hctarget, hcinput⟩ := hs
  obtain ⟨d, hd, rfl, hdtarget, hdinput⟩ := ht
  have hsame : (c.target, c.input) = (d.target, d.input) := by
    rw [hctarget, hcinput, hdtarget, hdinput]
  rw [List.inj_on_of_nodup_map hg.inputs_nodup hc hd hsame]

/-- A step into a node of a well-formed graph feeds one of the inputs of its kind. -/
lemma WellFormed.exists_feeds {s : String} (hg : g.WellFormed) (hkind : g.KindAt id kind)
    (hstep : Joins g.connections s id) : ∃ input ∈ kind.sockets.inputs, g.Feeds s id input := by
  obtain ⟨c, hc, rfl, rfl⟩ := hstep
  obtain ⟨kind', hkind', hinput⟩ := hg.input c hc
  obtain rfl := hkind.unique hkind'
  exact ⟨c.input, hinput, c, hc, rfl, rfl, rfl⟩

/-- What feeds an input is there, and it is no action. -/
lemma WellFormed.source_kind {s input : String} (hg : g.WellFormed)
    (h : g.Feeds s id input) :
    g.KindAt s .condition ∨ g.KindAt s .logical := by
  obtain ⟨c, hc, rfl, _⟩ := h
  obtain ⟨kind, hkind, houtput⟩ := hg.output c hc
  cases kind with
  | condition => exact Or.inl hkind
  | action => exact absurd houtput List.not_mem_nil
  | logical => exact Or.inr hkind

/-! ### Inserting -/

lemma keys_append : ({ g with nodes := g.nodes ++ [n] } : Graph).keys = g.keys ++ [n.key] := by
  simp [keys]

lemma node?_append (hkey : g.node? key = some m) :
    ({ g with nodes := g.nodes ++ [n] } : Graph).node? key = some m := by
  unfold node? at hkey ⊢
  simp [List.find?_append, hkey]

lemma WellFormed.insert (hg : g.WellFormed) (hok : g.insert n = .ok h) : h.WellFormed := by
  obtain ⟨hnew, _, rfl⟩ := insert_eq_ok_iff.mp hok
  have hkinds : ∀ id kind, g.KindAt id kind →
      ({ g with nodes := g.nodes ++ [n] } : Graph).KindAt id kind := by
    rintro id kind ⟨m, hm, hkind⟩
    exact ⟨m, node?_append hm, hkind⟩
  refine ⟨?_, fun c hc => (hg.output c hc).mono (hkinds _),
    fun c hc => (hg.input c hc).mono (hkinds _), hg.inputs_nodup, hg.acyclic⟩
  rw [keys_append]
  refine List.nodup_append.mpr ⟨hg.keys_nodup, List.nodup_singleton _, ?_⟩
  intro key hkey _ hlast heq
  obtain rfl := List.mem_singleton.mp hlast
  exact hnew (heq ▸ hkey)

/-- The size is compared with the limit before a node goes in. -/
lemma Within.insert {limit : Nat} (hg : g.Within limit) (hok : g.insert n = .ok h) :
    h.Within limit := by
  obtain ⟨_, hroom, rfl⟩ := insert_eq_ok_iff.mp hok
  obtain ⟨hlimit, _⟩ := hg
  rw [hlimit] at hroom
  have hlt : g.size < limit := by simpa [reached?] using hroom
  refine ⟨hlimit, ?_⟩
  simpa [size] using Nat.succ_le_of_lt hlt

/-! ### Updating -/

lemma node?_replace :
    (g.replace n).node? key =
      (g.node? key).map fun m => if m.key == n.key then n else m := by
  simp only [node?, replace, List.find?_map]
  congr 2
  funext m
  by_cases hm : m.key = n.key <;> simp [hm]

lemma WellFormed.replace (hg : g.WellFormed) (hn : g.node? n.key = some n) (hkey : m.key = n.key)
    (hkind : ∀ kind, n.kind? = some kind → m.kind? = some kind) : (g.replace m).WellFormed := by
  have hkinds : ∀ id kind, g.KindAt id kind → (g.replace m).KindAt id kind := by
    rintro id kind ⟨old, hold, hk⟩
    by_cases hsame : old.key = m.key
    · have hid := (node?_eq_some hold).2
      obtain rfl : old = n := by
        rw [← hid, hsame, hkey, hn] at hold
        exact (Option.some.inj hold).symm
      exact ⟨m, by simp [node?_replace, hold, hsame], hkind kind hk⟩
    · exact ⟨old, by simp [node?_replace, hold, hsame], hk⟩
  refine ⟨?_, fun c hc => (hg.output c hc).mono (hkinds _),
    fun c hc => (hg.input c hc).mono (hkinds _), hg.inputs_nodup, hg.acyclic⟩
  rw [keys_replace]
  exact hg.keys_nodup

/-- What an update puts in the place of a node has its key, and its kind if that is known. -/
lemma exists_of_update {changes : Fields} (hok : g.update ref changes = .ok (h, m)) :
    ∃ n, g.get ref = .ok n ∧ n.revised changes = .valid m ∧ m.key = n.key ∧
      (∀ kind, n.kind? = some kind → m.kind? = some kind) ∧ h = g.replace m := by
  obtain ⟨hfree, n, hget, hrevised, rfl⟩ := update_eq_ok_iff.mp hok
  have hid : changes.has "id" = false := hfree "id" (by decide)
  have hkind : changes.has "kind" = false := hfree "kind" (by decide)
  obtain ⟨hkey, hkinds⟩ := Node.revised_keeps hrevised hid hkind
  exact ⟨n, hget, hrevised, hkey, hkinds, rfl⟩

lemma WellFormed.update {changes : Fields} (hg : g.WellFormed)
    (hok : g.update ref changes = .ok (h, m)) : h.WellFormed := by
  obtain ⟨n, hn, _, hkey, hkinds, rfl⟩ := exists_of_update hok
  exact hg.replace (node?_key_of_get hn) hkey hkinds

lemma Within.update {limit : Nat} {changes : Fields} (hg : g.Within limit)
    (hok : g.update ref changes = .ok (h, m)) : h.Within limit := by
  obtain ⟨_, _, _, _, rfl⟩ := update_eq_ok_iff.mp hok
  refine ⟨hg.1, ?_⟩
  simpa [Graph.replace, size] using hg.2

/-! ### Removing -/

lemma node?_filter (hne : key ≠ n.key) :
    ({ g with nodes := g.nodes.filter fun m => m.key != n.key } : Graph).node? key =
      g.node? key := by
  simp only [node?, List.find?_filter]
  congr 1
  funext m
  by_cases hm : m.key = key
  · simp [hm, hne]
  · simp [hm]

lemma not_touches_iff :
    (!touches n c) = true ↔ .text c.source ≠ n.key ∧ .text c.target ≠ n.key := by
  simp [touches, @eq_comm _ n.key]

/-- The connections that are left end at nodes that are left. -/
lemma WellFormed.remove (hg : g.WellFormed) (hok : g.remove ref = .ok (h, n)) : h.WellFormed := by
  obtain ⟨_, rfl⟩ := remove_eq_ok_iff.mp hok
  have hkinds : ∀ id kind, .text id ≠ n.key → g.KindAt id kind →
      ({ g with nodes := g.nodes.filter fun m => m.key != n.key } : Graph).KindAt id kind := by
    rintro id kind hne ⟨m, hm, hkind⟩
    exact ⟨m, (node?_filter hne).trans hm, hkind⟩
  refine ⟨?_, fun c hc => ?_, fun c hc => ?_, ?_, ?_⟩
  · exact hg.keys_nodup.sublist (List.filter_sublist.map _)
  · obtain ⟨hmem, hleft⟩ := List.mem_filter.mp hc
    exact (hg.output c hmem).mono fun kind => hkinds _ kind (not_touches_iff.mp hleft).1
  · obtain ⟨hmem, hleft⟩ := List.mem_filter.mp hc
    exact (hg.input c hmem).mono fun kind => hkinds _ kind (not_touches_iff.mp hleft).2
  · exact hg.inputs_nodup.sublist (List.filter_sublist.map _)
  · exact hg.acyclic.mono List.filter_sublist.subset

lemma Within.remove {limit : Nat} (hg : g.Within limit) (hok : g.remove ref = .ok (h, n)) :
    h.Within limit := by
  obtain ⟨_, rfl⟩ := remove_eq_ok_iff.mp hok
  exact ⟨hg.1, Nat.le_trans (List.length_filter_le _ _) hg.2⟩

/-! ### Connecting and disconnecting -/

lemma WellFormed.append (hg : g.WellFormed) (hc : g.Accepts c) :
    ({ g with connections := g.connections ++ [c] } : Graph).WellFormed := by
  have hacyclic := hg.acyclic.append_singleton hc.noWayBack
  refine ⟨hg.keys_nodup, fun d hd => ?_, fun d hd => ?_, ?_, hacyclic⟩
  · rcases List.mem_append.mp hd with hold | hnew
    · exact hg.output d hold
    · obtain rfl := List.mem_singleton.mp hnew
      exact hc.output
  · rcases List.mem_append.mp hd with hold | hnew
    · exact hg.input d hold
    · obtain rfl := List.mem_singleton.mp hnew
      exact hc.input
  · rw [List.map_append]
    refine List.nodup_append.mpr ⟨hg.inputs_nodup, List.nodup_singleton _, ?_⟩
    rintro _ hold _ hnew heq
    obtain ⟨d, hd, rfl⟩ := List.mem_map.mp hold
    obtain rfl := List.mem_singleton.mp hnew
    exact hc.free d hd (Prod.mk.inj heq)

lemma WellFormed.connect {source output target input : Json} (hg : g.WellFormed)
    (hok : g.connect source output target input = .ok (h, c)) : h.WellFormed := by
  obtain ⟨hfor, rfl⟩ := connect_eq_ok_iff.mp hok
  exact hg.append (connectionFor_eq_ok_iff.mp hfor).2

lemma WellFormed.disconnect {source output target input : Json} (hg : g.WellFormed)
    (hok : g.disconnectValues source output target input = .ok (h, c)) : h.WellFormed := by
  obtain ⟨_, _, rfl⟩ := disconnectValues_eq_ok_iff.mp hok
  have hsub : (g.connections.erase c).Sublist g.connections := List.erase_sublist
  exact ⟨hg.keys_nodup, fun d hd => hg.output d (hsub.subset hd),
    fun d hd => hg.input d (hsub.subset hd), hg.inputs_nodup.sublist (hsub.map _),
    hg.acyclic.mono hsub.subset⟩

/-! ### Runs -/

lemma map_fst_eq_ok_iff {α : Type} {x : Except EditFault (Graph × α)} :
    x.map Prod.fst = .ok h ↔ ∃ a, x = .ok (h, a) := by
  cases x <;> simp [Except.map, Prod.ext_iff]

theorem WellFormed.apply {e : GraphEdit} (hg : g.WellFormed) (hok : e.apply g = .ok h) :
    h.WellFormed := by
  cases e with
  | insert n => exact hg.insert hok
  | update ref changes =>
    obtain ⟨_, hok⟩ := map_fst_eq_ok_iff.mp hok
    exact hg.update hok
  | remove ref =>
    obtain ⟨_, hok⟩ := map_fst_eq_ok_iff.mp hok
    exact hg.remove hok
  | connect source output target input =>
    obtain ⟨_, hok⟩ := map_fst_eq_ok_iff.mp hok
    exact hg.connect hok
  | disconnect source output target input =>
    obtain ⟨_, hok⟩ := map_fst_eq_ok_iff.mp hok
    exact hg.disconnect hok

theorem Within.apply {limit : Nat} {e : GraphEdit} (hg : g.Within limit)
    (hok : e.apply g = .ok h) : h.Within limit := by
  cases e with
  | insert n => exact hg.insert hok
  | update ref changes =>
    obtain ⟨_, hok⟩ := map_fst_eq_ok_iff.mp hok
    exact hg.update hok
  | remove ref =>
    obtain ⟨_, hok⟩ := map_fst_eq_ok_iff.mp hok
    exact hg.remove hok
  | connect source output target input =>
    obtain ⟨_, hok⟩ := map_fst_eq_ok_iff.mp hok
    obtain ⟨_, rfl⟩ := connect_eq_ok_iff.mp hok
    exact hg
  | disconnect source output target input =>
    obtain ⟨_, hok⟩ := map_fst_eq_ok_iff.mp hok
    obtain ⟨_, _, rfl⟩ := disconnectValues_eq_ok_iff.mp hok
    exact hg

/-- What every successful edit of some sort keeps holds after a run of such edits. -/
theorem run_induction_of {P : Graph → Prop} {Q : GraphEdit → Prop} {edits : List GraphEdit}
    (hstep : ∀ (g h : Graph) (e : GraphEdit), Q e → P g → e.apply g = .ok h → P h)
    (hg : P g) (hedits : ∀ e ∈ edits, Q e) : P (g.run edits) := by
  induction edits generalizing g with
  | nil => exact hg
  | cons e edits ih =>
    obtain ⟨he, hedits⟩ := List.forall_mem_cons.mp hedits
    refine ih ?_ hedits
    unfold after
    cases hok : e.apply g with
    | ok h => exact hstep g h e he hg hok
    | error _ => exact hg

/-- What every successful edit keeps holds after any run. -/
theorem run_induction {P : Graph → Prop}
    (hstep : ∀ (g h : Graph) (e : GraphEdit), P g → e.apply g = .ok h → P h)
    (hg : P g) (edits : List GraphEdit) : P (g.run edits) :=
  run_induction_of (fun g h e _ => hstep g h e) hg fun _ _ => trivial

/-! ### Loading -/

lemma insertJson_of_parse {json : Json} {r : RuleNode} (hparse : RuleNode.parse json = .valid r) :
    g.insertJson json = (g.insert (.rule r)).map fun h => (h, .rule r) := by
  simp only [insertJson, hparse, EditFault.ofChecked, bind, Except.bind]
  cases g.insert (.rule r) <;> rfl

lemma insertJson_eq_ok_iff {json : Json} :
    g.insertJson json = .ok (h, n) ↔
      ∃ r, RuleNode.parse json = .valid r ∧ g.insert (.rule r) = .ok h ∧ .rule r = n := by
  simp [insertJson, bind_eq_ok_iff, pure, Except.pure]

lemma connectJson_eq_ok_iff {json : Json} :
    g.connectJson json = .ok (h, c) ↔
      ∃ d, ofJson json = .valid d ∧
        g.connect (.str d.source) (.str d.output) (.str d.target) (.str d.input) = .ok (h, c) := by
  simp [connectJson, bind_eq_ok_iff]

lemma replay_induction {α : Type} {P : Graph → Prop}
    {step : Graph → Json → Except EditFault (Graph × α)} {event : α → GraphEvent}
    (hstep : ∀ g h x a, P g → step g x = .ok (h, a) → P h) {xs : List Json} (hg : P g)
    (hok : (replay step event g xs).2 = .ok h) : P h := by
  induction xs generalizing g with
  | nil => exact Except.ok.inj hok ▸ hg
  | cons x xs ih =>
    cases hx : step g x with
    | error fault => simp [replay, hx] at hok
    | ok next =>
      obtain ⟨g', a⟩ := next
      simp only [replay, hx] at hok
      exact ih (hstep g g' x a hg hx) hok

/-- The nodes of a document go in first, and then its connections. -/
lemma ofPayload_eq_bind {nodes connections : List Json}
    (hnodes : listIn? payload "nodes" = some nodes)
    (hconnections : listIn? payload "connections" = some connections) :
    ofPayload limit payload =
      (replay insertJson .added (empty limit) nodes).2 >>= fun h =>
        (replay connectJson .connected h connections).2 := by
  unfold ofPayload load
  rw [hnodes, hconnections]
  rcases hfirst : replay insertJson .added (empty limit) nodes with ⟨events, fault | h⟩
  · simp [hfirst, bind, Except.bind]
  · rcases hsecond : replay connectJson .connected h connections with ⟨more, fault | h'⟩ <;>
      simp [hfirst, hsecond, bind, Except.bind]

lemma lists_of_ofPayload (hok : ofPayload limit payload = .ok g) :
    ∃ nodes connections, listIn? payload "nodes" = some nodes ∧
      listIn? payload "connections" = some connections := by
  unfold ofPayload load at hok
  split at hok
  · next nodes connections hnodes hconnections => exact ⟨nodes, connections, hnodes, hconnections⟩
  · simp at hok

/-- A loaded graph comes about by edits that put checked nodes and connections in. -/
theorem ofPayload_induction {P : Graph → Prop} (hempty : P (empty limit))
    (hstep : ∀ (g h : Graph) (e : GraphEdit), e.IsChecked → P g → e.apply g = .ok h → P h)
    (hok : ofPayload limit payload = .ok g) : P g := by
  have hnode : ∀ (g h : Graph) (x : Json) (n : Node), P g → g.insertJson x = .ok (h, n) → P h := by
    intro g h x n hg hx
    obtain ⟨r, _, hr, _⟩ := insertJson_eq_ok_iff.mp hx
    exact hstep g h (.insert (.rule r)) ⟨r, rfl⟩ hg hr
  have hconnection : ∀ (g h : Graph) (x : Json) (c : Connection), P g →
      g.connectJson x = .ok (h, c) → P h := by
    intro g h x c hg hx
    obtain ⟨d, _, hd⟩ := connectJson_eq_ok_iff.mp hx
    exact hstep g h (.connect (.str d.source) (.str d.output) (.str d.target) (.str d.input))
      trivial hg (map_fst_eq_ok_iff.mpr ⟨c, hd⟩)
  obtain ⟨nodes, connections, hnodes, hconnections⟩ := lists_of_ofPayload hok
  rw [ofPayload_eq_bind hnodes hconnections, bind_eq_ok_iff] at hok
  obtain ⟨h, hfirst, hsecond⟩ := hok
  exact replay_induction hconnection (replay_induction hnode hempty hfirst) hsecond

/-- Whatever edits are made of an empty or a loaded graph, and whether they succeed or fail, ids
stay distinct and lead to their nodes, the size stays within the limit, connections join sockets
that are there, no input has two of them, and no way leads back to where it came from. -/
theorem run_wellFormed (limit : Nat) {start : Graph}
    (hstart : start = empty (.int limit) ∨ ∃ payload, ofPayload (.int limit) payload = .ok start)
    (edits : List GraphEdit) :
    (start.run edits).WellFormed ∧ (start.run edits).size ≤ limit ∧
      ∀ n ∈ (start.run edits).nodes, (start.run edits).get n.id = .ok n := by
  have hstep : ∀ (g h : Graph) (e : GraphEdit), g.WellFormed ∧ g.Within limit →
      e.apply g = .ok h → h.WellFormed ∧ h.Within limit :=
    fun g h e hg hok => ⟨hg.1.apply hok, hg.2.apply hok⟩
  have hempty : (empty (.int limit)).WellFormed ∧ (empty (.int limit)).Within limit :=
    ⟨wellFormed_empty _, rfl, Nat.zero_le _⟩
  have hfirst : start.WellFormed ∧ start.Within limit := by
    rcases hstart with rfl | ⟨payload, hok⟩
    · exact hempty
    · exact ofPayload_induction hempty (fun g h e _ => hstep g h e) hok
  obtain ⟨hwell, hwithin⟩ := run_induction hstep hfirst edits
  exact ⟨hwell, hwithin.2, fun n hn => get_id hwell.keys_nodup hn⟩

/-- A discount on small orders and for one tier of customers. -/
def sampleNodes : List RuleNode :=
  [⟨"few", .condition .quantity .lessThan (.int 3), by decide, by decide⟩,
    ⟨"gold", .condition .customerTier .equals (.str "gold"), by decide, by decide⟩,
    ⟨"either", .logical .or, by decide, by decide⟩,
    ⟨"off", .action .percentageDiscount (.int 10), by decide, by decide⟩]

def sample : Graph where
  nodes := sampleNodes.map .rule
  connections := [⟨"few", "condition", "either", "a"⟩, ⟨"gold", "condition", "either", "b"⟩,
    ⟨"either", "result", "off", "condition"⟩]
  limit := .int 5

/-- The sample and a node of no known kind, then two edits that fail, and one that takes connections
along. -/
def sampleEdits : List GraphEdit :=
  (sampleNodes.map fun r => .insert (.rule r)) ++
    (sample.connections.map fun c =>
      .connect (.str c.source) (.str c.output) (.str c.target) (.str c.input)) ++
    [.insert (.loose ⟨none, .str "bundle", [("kind", .str "bundle")], .text "bundle", rfl⟩),
      .insert (.loose ⟨none, .int 6, [], .whole 6, rfl⟩),
      .connect (.str "either") (.str "result") (.str "either") (.str "a"),
      .remove (.str "either")]

theorem run_wellFormed_sample :
    ((empty (.int 5)).run sampleEdits).WellFormed ∧ ((empty (.int 5)).run sampleEdits).size ≤ 5 ∧
      ∀ n ∈ ((empty (.int 5)).run sampleEdits).nodes,
        ((empty (.int 5)).run sampleEdits).get n.id = .ok n :=
  run_wellFormed 5 (Or.inl rfl) sampleEdits

end Graph
end Promotion
