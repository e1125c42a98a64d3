import Promotion.Editor.Session
import Promotion.Proofs.Graph.WellFormed

/-! Graphs that sessions lead to. A session makes its nodes from data or takes nodes that keep the
rules; each of its calls edits the graph at most once or loads another one, so whatever those edits
keep holds of every graph that it comes to. -/
namespace Promotion

/-- A call of an editor, or of the graph in its hand. -/
inductive EditorCall where
  | insert (node : RuleNode)
  | insertJson (json : Json)
  | addCondition (subtype operator value : Json)
  | addAction (subtype value : Json)
  | addLogical (subtype : Json)
  | update (ref : Json) (changes : Fields)
  | setOperator (ref operator : Json)
  | setValue (ref value : Json)
  | remove (ref : Json)
  | link (source output target input : Json)
  | unlink (source output target input : Json)
  | connect (source target : Json) (input : Option Json)
  | load (limit payload : Json)

/-- The editor after a call, whether it succeeds or fails. -/
def EditorCall.perform (e : Editor) : EditorCall → Editor
  | .insert n => (e.insert (.rule n)).editor
  | .insertJson json => (e.insertJson json).editor
  | .addCondition subtype operator value => (e.addCondition subtype operator value).editor
  | .addAction subtype value => (e.addAction subtype value).editor
  | .addLogical subtype => (e.addLogical subtype).editor
  | .update ref changes => (e.update ref changes).editor
  | .setOperator ref operator => (e.setOperator ref operator).editor
  | .setValue ref value => (e.setValue ref value).editor
  | .remove ref => (e.remove ref).editor
  | .link source output target input => (e.link source output target input).editor
  | .unlink source output target input => (e.unlink source output target input).editor
  | .connect source target input => (e.connect source target input).editor
  | .load limit payload => (e.load limit payload).editor

/-- Graphs that calls lead to from an empty one. The counter of the editor may stand anywhere, since
a new session may go on with the graph of another. -/
inductive Graph.Attainable : Graph → Prop
  | empty (limit : Json) : Attainable (.empty limit)
  | call {e : Editor} (c : EditorCall) : Attainable e.graph → Attainable (c.perform e).graph

/-- A graph with checked nodes only. -/
def Graph.KeepsRules (g : Graph) : Prop := ∀ n ∈ g.nodes, ∃ r, n = .rule r

/-- What a call may do to a graph: nothing, one edit with a checked node if any, or a load. -/
inductive Graph.Turns (g : Graph) : Graph → Prop
  | same : Turns g g
  | edit {h : Graph} (e : GraphEdit) (hchecked : e.IsChecked) (hok : e.apply g = .ok h) : Turns g h
  | load {h : Graph} (limit payload : Json) (hok : ofPayload limit payload = .ok h) : Turns g h

namespace Editor
open Promotion.Graph
variable {e : Editor} {α : Type}

/-- An edit of the graph leaves an editor with the graph it made, or with the one before. -/
lemma turns_ofGraphEdit {outcome : Except EditFault (Graph × α)} {event : α → GraphEvent}
    (hok : ∀ h a, outcome = .ok (h, a) → g.Turns h) (he : e.graph = g) :
    g.Turns (e.ofGraphEdit outcome event).editor.graph := by
  cases houtcome : outcome with
  | ok made =>
    obtain ⟨h, a⟩ := made
    exact hok h a houtcome
  | error fault =>
    subst he
    exact .same

lemma turns_update (ref : Json) (changes : Fields) :
    e.graph.Turns (e.update ref changes).editor.graph := by
  refine turns_ofGraphEdit (fun h n hok => ?_) rfl
  exact .edit (.update ref changes) trivial (map_fst_eq_ok_iff.mpr ⟨n, hok⟩)

lemma turns_insert (r : RuleNode) : e.graph.Turns (e.insert (.rule r)).editor.graph := by
  refine turns_ofGraphEdit (fun h n hok => ?_) rfl
  cases hinsert : e.graph.insert (.rule r) with
  | ok h' =>
    simp only [hinsert, Except.map, Except.ok.injEq, Prod.mk.injEq] at hok
    exact .edit (.insert (.rule r)) ⟨r, rfl⟩ (hok.1 ▸ hinsert)
  | error fault => simp [hinsert, Except.map] at hok

/-- A new node goes into the graph, or the call only spends a number. -/
lemma turns_addNew (kind : Kind) (subtype : String) (more : Fields) :
    e.graph.Turns (e.addNew kind subtype more).editor.graph := by
  unfold addNew
  dsimp only
  split
  · exact .same
  · next n _ => exact turns_insert (e := { e with counter := (e.newId (idStem subtype)).2 }) n

lemma turns_addKnown (kind : Kind) (subtype : Json) (more : Fields) :
    e.graph.Turns (e.addKnown kind subtype more).editor.graph := by
  unfold addKnown
  split
  · split
    · exact turns_addNew _ _ _
    · exact .same
  · exact .same

lemma turns_unlink (source output target input : Json) :
    e.graph.Turns (e.unlink source output target input).editor.graph := by
  unfold unlink
  split
  · next h c hok =>
    exact .edit (.disconnect source output target input) trivial (map_fst_eq_ok_iff.mpr ⟨c, hok⟩)
  · exact .same

lemma turns_load (limit payload : Json) : e.graph.Turns (e.load limit payload).editor.graph := by
  unfold load
  split
  · next hok => exact .load limit payload (congrArg Prod.snd hok)
  · exact .same

/-- A session connects with a call of its graph, or not at all. -/
lemma connectOutput_eq_ok {g h : Graph} {source target : Json} {input : Option Json}
    {c : Connection} (hok : connectOutput g source target input = .ok (h, c)) :
    ∃ output input, g.connect source (.str output) target input = .ok (h, c) := by
  unfold connectOutput at hok
  obtain ⟨s, _, hok⟩ := bind_eq_ok_iff.mp hok
  obtain ⟨t, _, hok⟩ := bind_eq_ok_iff.mp hok
  obtain ⟨outputs, _, hok⟩ := bind_eq_ok_iff.mp hok
  cases outputs with
  | nil => exact absurd hok throw_ne_ok
  | cons output rest =>
    cases input with
    | none =>
      obtain ⟨i, _, hok⟩ := bind_eq_ok_iff.mp hok
      exact ⟨output, i, hok⟩
    | some i => exact ⟨output, i, hok⟩

end Editor

namespace Graph
open Editor
variable {g h : Graph} {n : Node}

theorem turns_perform (e : Editor) (c : EditorCall) : e.graph.Turns (c.perform e).graph := by
  cases c with
  | insert r => exact turns_insert r
  | insertJson json =>
    refine turns_ofGraphEdit (fun h n hok => ?_) rfl
    obtain ⟨r, _, hr, _⟩ := insertJson_eq_ok_iff.mp hok
    exact .edit (.insert (.rule r)) ⟨r, rfl⟩ hr
  | addCondition subtype operator value => exact turns_addKnown _ _ _
  | addAction subtype value => exact turns_addKnown _ _ _
  | addLogical subtype => exact turns_addKnown _ _ _
  | update ref changes => exact turns_update ref changes
  | setOperator ref operator => exact turns_update ref _
  | setValue ref value => exact turns_update ref _
  | remove ref =>
    refine turns_ofGraphEdit (fun h n hok => ?_) rfl
    exact .edit (.remove ref) trivial (map_fst_eq_ok_iff.mpr ⟨n, hok⟩)
  | link source output target input =>
    refine turns_ofGraphEdit (fun h c hok => ?_) rfl
    exact .edit (.connect source output target input) trivial (map_fst_eq_ok_iff.mpr ⟨c, hok⟩)
  | unlink source output target input => exact turns_unlink source output target input
  | connect source target input =>
    refine turns_ofGraphEdit (fun h c hok => ?_) rfl
    obtain ⟨output, i, hok⟩ := connectOutput_eq_ok hok
    exact .edit (.connect source (.str output) target i) trivial (map_fst_eq_ok_iff.mpr ⟨c, hok⟩)
  | load limit payload => exact turns_load limit payload

lemma Attainable.calls {e : Editor} (hg : e.graph.Attainable) (cs : List EditorCall) :
    (cs.foldl EditorCall.perform e).graph.Attainable := by
  induction cs generalizing e with
  | nil => exact hg
  | cons c cs ih => exact ih (hg.call c)

/-- What holds of empty graphs and is kept by edits with checked nodes holds in every session. -/
theorem Attainable.of_edits {P : Graph → Prop} (hempty : ∀ limit, P (.empty limit))
    (hstep : ∀ (g h : Graph) (e : GraphEdit), e.IsChecked → P g → e.apply g = .ok h → P h)
    (hg : g.Attainable) : P g := by
  induction hg with
  | empty limit => exact hempty limit
  | @call e c _ ih =>
    have hturns := turns_perform e c
    generalize (c.perform e).graph = h at hturns ⊢
    cases hturns with
    | same => exact ih
    | edit edit hchecked hok => exact hstep _ _ edit hchecked ih hok
    | load limit payload hok => exact ofPayload_induction (hempty limit) hstep hok

theorem Attainable.wellFormed (hg : g.Attainable) : g.WellFormed :=
  hg.of_edits wellFormed_empty fun _ _ _ _ hg hok => hg.apply hok

lemma KeepsRules.apply {e : GraphEdit} (hchecked : e.IsChecked) (hg : g.KeepsRules)
    (hok : e.apply g = .ok h) : h.KeepsRules := by
  cases e with
  | insert n =>
    obtain ⟨_, _, rfl⟩ := insert_eq_ok_iff.mp hok
    intro m hm
    rcases List.mem_append.mp hm with hold | hnew
    · exact hg m hold
    · exact List.mem_singleton.mp hnew ▸ hchecked
  | update ref changes =>
    obtain ⟨m, hok⟩ := map_fst_eq_ok_iff.mp hok
    obtain ⟨_, n, hn, hrevised, rfl⟩ := update_eq_ok_iff.mp hok
    obtain ⟨r, rfl⟩ := hg n (node?_eq_some (node?_key_of_get hn)).1
    obtain ⟨r', rfl, _⟩ := Node.revised_rule hrevised
    intro x hx
    obtain ⟨y, hy, rfl⟩ := List.mem_map.mp hx
    split_ifs
    · exact ⟨r', rfl⟩
    · exact hg y hy
  | remove ref =>
    obtain ⟨n, hok⟩ := map_fst_eq_ok_iff.mp hok
    obtain ⟨_, rfl⟩ := remove_eq_ok_iff.mp hok
    exact fun m hm => hg m (List.mem_filter.mp hm).1
  | connect source output target input =>
    obtain ⟨_, hok⟩ := map_fst_eq_ok_iff.mp hok
    obtain ⟨_, rfl⟩ := connect_eq_ok_iff.mp hok
    exact hg
  | disconnect source output target input =>
    obtain ⟨_, hok⟩ := map_fst_eq_ok_iff.mp hok
    obtain ⟨_, _, rfl⟩ := disconnectValues_eq_ok_iff.mp hok
    exact hg

lemma KeepsRules.exists_map (hg : g.KeepsRules) :
    ∃ rs : List RuleNode, g.nodes = rs.map .rule := by
  have hlist : ∀ ns : List Node, (∀ n ∈ ns, ∃ r, n = .rule r) →
      ∃ rs : List RuleNode, ns = rs.map .rule := by
    intro ns hns
    induction ns with
    | nil => exact ⟨[], rfl⟩
    | cons n ns ih =>
      obtain ⟨r, rfl⟩ := hns n List.mem_cons_self
      obtain ⟨rs, rfl⟩ := ih fun m hm => hns m (List.mem_cons_of_mem _ hm)
      exact ⟨r :: rs, rfl⟩
  exact hlist g.nodes hg

theorem Attainable.keepsRules (hg : g.Attainable) : g.KeepsRules :=
  hg.of_edits (fun _ _ hn => absurd hn List.not_mem_nil) fun _ _ _ hchecked hg hok =>
    hg.apply hchecked hok

/-- Each edit of a graph is a call of a session that has it in hand. -/
theorem Attainable.apply {e : GraphEdit} (hchecked : e.IsChecked) (hg : g.Attainable)
    (hok : e.apply g = .ok h) : h.Attainable := by
  have hcall (c : EditorCall) (hc : (c.perform (.ofGraph g)).graph = h) : h.Attainable :=
    hc ▸ Attainable.call (e := .ofGraph g) c hg
  cases e with
  | insert n =>
    obtain ⟨r, rfl⟩ := hchecked
    have hinsert : g.insert (.rule r) = .ok h := hok
    exact hcall (.insert r) (by
      simp [EditorCall.perform, Editor.insert, ofGraphEdit, ofGraph, hinsert, Except.map])
  | update ref changes =>
    obtain ⟨m, hupdate⟩ := map_fst_eq_ok_iff.mp hok
    exact hcall (.update ref changes) (by
      simp [EditorCall.perform, Editor.update, ofGraphEdit, ofGraph, hupdate])
  | remove ref =>
    obtain ⟨n, hremove⟩ := map_fst_eq_ok_iff.mp hok
    exact hcall (.remove ref) (by
      simp [EditorCall.perform, Editor.remove, ofGraphEdit, ofGraph, hremove])
  | connect source output target input =>
    obtain ⟨c, hconnect⟩ := map_fst_eq_ok_iff.mp hok
    exact hcall (.link source output target input) (by
      simp [EditorCall.perform, Editor.link, ofGraphEdit, ofGraph, hconnect])
  | disconnect source output target input =>
    obtain ⟨c, hdisconnect⟩ := map_fst_eq_ok_iff.mp hok
    exact hcall (.unlink source output target input) (by
      simp [EditorCall.perform, Editor.unlink, ofGraph, hdisconnect])

/-! ### The sample -/

lemma Attainable.link {c : Connection} (hg : g.Attainable) (hc : g.Accepts c) :
    ({ g with connections := g.connections ++ [c] } : Graph).Attainable := by
  have hcall := Attainable.call (e := .ofGraph g)
    (.link (.str c.source) (.str c.output) (.str c.target) (.str c.input)) hg
  have hlink : ((Editor.ofGraph g).link (.str c.source) (.str c.output) (.str c.target)
      (.str c.input)).editor.graph = { g with connections := g.connections ++ [c] } := by
    simp [Editor.link, Editor.ofGraph, Editor.ofGraphEdit, hc.connect_eq]
  exact hlink ▸ hcall

lemma sample_attainable : sample.Attainable := by
  have hnodes : ({ sample with connections := [] } : Graph).Attainable :=
    Attainable.calls (e := .ofGraph (.empty (.int 5))) (.empty _) (sampleNodes.map .insert)
  have hfew := hnodes.link (c := ⟨"few", "condition", "either", "a"⟩)
    ⟨⟨_, ⟨_, rfl, rfl⟩, by decide⟩, ⟨_, ⟨_, rfl, rfl⟩, by decide⟩, by simp,
      Connection.not_path_of_sink (by simp) (by decide)⟩
  have hgold := hfew.link (c := ⟨"gold", "condition", "either", "b"⟩)
    ⟨⟨_, ⟨_, rfl, rfl⟩, by decide⟩, ⟨_, ⟨_, rfl, rfl⟩, by decide⟩, by simp,
      Connection.not_path_of_sink (by simp) (by decide)⟩
  exact hgold.link (c := ⟨"either", "result", "off", "condition"⟩)
    ⟨⟨_, ⟨_, rfl, rfl⟩, by decide⟩, ⟨_, ⟨_, rfl, rfl⟩, by decide⟩, by simp,
      Connection.not_path_of_sink (by simp) (by decide)⟩

end Graph
end Promotion
