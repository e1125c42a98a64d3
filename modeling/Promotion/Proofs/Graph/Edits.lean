import Promotion.Graph.Basic
import Promotion.Proofs.Graph.Reachability
import Promotion.Proofs.Node.Revision

/-! Edits of a graph by what has to hold for them to succeed, and what they make of the graph. -/
namespace Promotion

@[simp] lemma EditFault.ofChecked_eq_ok_iff {α : Type} {c : Checked α} {a : α} :
    EditFault.ofChecked c = .ok a ↔ c = .valid a := by
  cases c <;> simp [EditFault.ofChecked]

/-- A connection from four values needs four texts, and has them for its parts. -/
lemma Connection.ofValues_eq_valid_iff {source output target input : Json} {c : Connection} :
    ofValues source output target input = .valid c ↔
      source = .str c.source ∧ output = .str c.output ∧ target = .str c.target ∧
        input = .str c.input := by
  constructor
  · intro h
    obtain ⟨_, _, htarget', hinput, rfl⟩ := Checked.seq_eq_valid_iff.mp h
    obtain ⟨_, _, houtput', htarget, rfl⟩ := Checked.seq_eq_valid_iff.mp htarget'
    obtain ⟨_, _, hsource', houtput, rfl⟩ := Checked.seq_eq_valid_iff.mp houtput'
    obtain ⟨_, hsource, rfl⟩ := Checked.map_eq_valid_iff.mp hsource'
    refine ⟨?_, ?_, ?_, ?_⟩
    · simpa [Check.required_eq_valid_iff] using hsource
    · simpa [Check.required_eq_valid_iff] using houtput
    · simpa [Check.required_eq_valid_iff] using htarget
    · simpa [Check.required_eq_valid_iff] using hinput
  · rintro ⟨rfl, rfl, rfl, rfl⟩
    rfl

namespace Graph
open Connection

variable {g h : Graph} {n m : Node} {key : NodeKey} {ref : Json} {changes : Fields}
  {c d : Connection} {kind : Kind}

/-! ### Nodes -/

lemma node?_eq_none_iff : g.node? key = none ↔ key ∉ g.keys := by
  simp [node?, keys]

lemma named?_eq_ok_iff {found : Option Node} :
    g.named? ref = .ok found ↔ ∃ key, NodeKey.ofJson? ref = some key ∧ g.node? key = found := by
  unfold named?
  cases NodeKey.ofJson? ref <;> simp

lemma get_eq_ok_iff :
    g.get ref = .ok n ↔ ∃ key, NodeKey.ofJson? ref = some key ∧ g.node? key = some n := by
  unfold get
  rw [bind_eq_ok_iff]
  constructor
  · rintro ⟨found, hfound, h⟩
    obtain ⟨key, hkey, rfl⟩ := named?_eq_ok_iff.mp hfound
    cases hn : g.node? key with
    | none => simp [hn] at h
    | some m =>
      simp only [hn, pure, Except.pure, Except.ok.injEq] at h
      exact ⟨key, hkey, h ▸ hn⟩
  · rintro ⟨key, hkey, hn⟩
    exact ⟨some n, named?_eq_ok_iff.mpr ⟨key, hkey, hn⟩, rfl⟩

/-- A node is found under its own key. -/
lemma node?_key_of_get (h : g.get ref = .ok n) : g.node? n.key = some n := by
  obtain ⟨key, _, hn⟩ := get_eq_ok_iff.mp h
  obtain ⟨_, rfl⟩ := node?_eq_some hn
  exact hn

theorem update_eq_ok_iff :
    g.update ref changes = .ok (h, m) ↔
      (∀ name ∈ reservedNames ++ fixedFields, changes.has name = false) ∧
        ∃ n, g.get ref = .ok n ∧ n.revised changes = .valid m ∧ h = g.replace m := by
  unfold update
  by_cases hreserved : reservedNames.any fun name => changes.has name
  · obtain ⟨name, hname, hhas⟩ := List.any_eq_true.mp hreserved
    simp only [hreserved, if_true, reduceCtorEq, false_iff, not_and]
    intro hfree
    simp [hfree name (List.mem_append_left _ hname)] at hhas
  · have hfree : ∀ name ∈ reservedNames, changes.has name = false := by simpa using hreserved
    rw [if_neg hreserved, bind_eq_ok_iff]
    cases hfixed : fixedFields.filter fun name => changes.has name with
    | nil =>
      have hfree' : ∀ name ∈ fixedFields, changes.has name = false := by
        simpa [List.filter_eq_nil_iff] using hfixed
      have hall : ∀ name ∈ reservedNames ++ fixedFields, changes.has name = false := by
        intro name hname
        exact (List.mem_append.mp hname).elim (hfree name) (hfree' name)
      simp only [bind_eq_ok_iff, EditFault.ofChecked_eq_ok_iff, pure, Except.pure,
        Except.ok.injEq, Prod.mk.injEq]
      constructor
      · rintro ⟨n, hn, m, hm, rfl, rfl⟩
        exact ⟨hall, n, hn, hm, rfl⟩
      · rintro ⟨_, n, hn, hm, rfl⟩
        exact ⟨n, hn, m, hm, rfl, rfl⟩
    | cons name names =>
      have hname : name ∈ fixedFields ∧ changes.has name := by
        rw [← List.mem_filter (p := fun name => changes.has name), hfixed]
        exact List.mem_cons_self
      constructor
      · rintro ⟨_, _, hthrow⟩
        exact absurd hthrow throw_ne_ok
      · rintro ⟨hall, _⟩
        simp [hall name (List.mem_append_right _ hname.1)] at hname

theorem remove_eq_ok_iff :
    g.remove ref = .ok (h, n) ↔
      g.get ref = .ok n ∧
        h = { g with
          nodes := g.nodes.filter fun m => m.key != n.key
          connections := g.connections.filter fun c => !touches n c } := by
  unfold remove
  simp only [bind_eq_ok_iff, pure, Except.pure, Except.ok.injEq, Prod.mk.injEq]
  constructor
  · rintro ⟨n, hn, rfl, rfl⟩
    exact ⟨hn, rfl⟩
  · rintro ⟨hn, rfl⟩
    exact ⟨n, hn, rfl, rfl⟩

/-! ### Connections -/

/-- The node with an id is there and of a known kind. -/
def KindAt (g : Graph) (id : String) (kind : Kind) : Prop :=
  ∃ n, g.node? (.text id) = some n ∧ n.kind? = some kind

def HasOutput (g : Graph) (id output : String) : Prop :=
  ∃ kind, g.KindAt id kind ∧ output ∈ kind.sockets.outputs

def HasInput (g : Graph) (id input : String) : Prop :=
  ∃ kind, g.KindAt id kind ∧ input ∈ kind.sockets.inputs

/-- What a graph asks of a new connection: sockets at both ends, a free input, and no way back from
its target to its source. -/
structure Accepts (g : Graph) (c : Connection) : Prop where
  output : g.HasOutput c.source c.output
  input : g.HasInput c.target c.input
  free : ∀ d ∈ g.connections, ¬(d.target = c.target ∧ d.input = c.input)
  noWayBack : ¬Path g.connections c.target c.source

lemma KindAt.unique {id : String} {kind' : Kind} (h : g.KindAt id kind) (h' : g.KindAt id kind') :
    kind = kind' := by
  obtain ⟨n, hn, hkind⟩ := h
  obtain ⟨n', hn', hkind'⟩ := h'
  rw [hn] at hn'
  cases hn'
  exact Option.some.inj (hkind.symm.trans hkind')

lemma KindAt.mem_keys {id : String} (h : g.KindAt id kind) : .text id ∈ g.keys := by
  obtain ⟨n, hn, _⟩ := h
  obtain ⟨hmem, hkey⟩ := node?_eq_some hn
  exact hkey ▸ List.mem_map_of_mem hmem

lemma HasOutput.mem_keys {id output : String} (h : g.HasOutput id output) : .text id ∈ g.keys := by
  obtain ⟨_, hkind, _⟩ := h
  exact hkind.mem_keys

lemma HasInput.mem_keys {id input : String} (h : g.HasInput id input) : .text id ∈ g.keys := by
  obtain ⟨_, hkind, _⟩ := h
  exact hkind.mem_keys

lemma endpoint_eq_ok_iff {source target : Json} :
    g.endpoint source target ref = .ok n ↔
      ∃ key, NodeKey.ofJson? ref = some key ∧ g.node? key = some n := by
  unfold endpoint
  rw [bind_eq_ok_iff]
  constructor
  · rintro ⟨found, hfound, h⟩
    obtain ⟨key, hkey, rfl⟩ := named?_eq_ok_iff.mp hfound
    cases hn : g.node? key with
    | none => simp [hn] at h
    | some m =>
      simp only [hn, pure, Except.pure, Except.ok.injEq] at h
      exact ⟨key, hkey, h ▸ hn⟩
  · rintro ⟨key, hkey, hn⟩
    exact ⟨some n, named?_eq_ok_iff.mpr ⟨key, hkey, hn⟩, rfl⟩

lemma kindOf_eq_ok_iff : kindOf n = .ok kind ↔ n.kind? = some kind := by
  unfold kindOf
  constructor
  · intro h
    split at h
    · cases hk : n.kind? <;> simp_all
    · cases h
  · intro h
    obtain ⟨word, hword, _⟩ := Node.kind?_eq_some_iff.mp h
    have hkey : n.kindIsKey = true := by simp [Node.kindIsKey, Node.kindValue, hword]
    simp [hkey, h]

lemma socketOf?_eq_some_iff {names : List String} {socket : Json} {name : String} :
    socketOf? names socket = some name ↔ name ∈ names ∧ socket = .str name := by
  unfold socketOf?
  constructor
  · intro h
    exact ⟨List.mem_of_find?_eq_some h, by simpa [eq_comm] using List.find?_some h⟩
  · rintro ⟨hmem, rfl⟩
    induction names with
    | nil => exact absurd hmem List.not_mem_nil
    | cons first rest ih =>
      by_cases hfirst : first = name
      · simp [hfirst]
      · have hrest := ih ((List.mem_cons.mp hmem).resolve_left (Ne.symm hfirst))
        simpa [hfirst] using hrest

lemma outputOf_eq_ok_iff {socket : Json} {name : String} :
    outputOf ref n socket = .ok name ↔
      ∃ kind, n.kind? = some kind ∧ name ∈ kind.sockets.outputs ∧ socket = .str name := by
  unfold outputOf
  simp only [bind_eq_ok_iff, kindOf_eq_ok_iff, ← socketOf?_eq_some_iff]
  refine exists_congr fun kind => and_congr_right fun _ => ?_
  cases socketOf? kind.sockets.outputs socket <;>
    simp [pure, Except.pure]

lemma inputOf_eq_ok_iff {socket : Json} {name : String} :
    inputOf ref n socket = .ok name ↔
      ∃ kind, n.kind? = some kind ∧ name ∈ kind.sockets.inputs ∧ socket = .str name := by
  unfold inputOf
  simp only [bind_eq_ok_iff, kindOf_eq_ok_iff, ← socketOf?_eq_some_iff]
  refine exists_congr fun kind => and_congr_right fun _ => ?_
  cases socketOf? kind.sockets.inputs socket <;>
    simp [pure, Except.pure]

lemma into?_eq_none_iff {target input : String} :
    g.into? (.text target) input = none ↔
      ∀ d ∈ g.connections, ¬(d.target = target ∧ d.input = input) := by
  simp [into?]

lemma fits_eq_ok_iff {source target : Json} {s t : Node} {input : String} {u : Unit} :
    g.fits source target s t input = .ok u ↔
      g.into? t.key input = none ∧ g.leads t.key s.key = false := by
  unfold fits
  cases g.into? t.key input <;> cases g.leads t.key s.key <;> simp

/-- The four values have to be the parts of the connection, and the graph has to accept it. -/
theorem connectionFor_eq_ok_iff {source output target input : Json} :
    g.connectionFor source output target input = .ok c ↔
      (source = .str c.source ∧ output = .str c.output ∧ target = .str c.target ∧
        input = .str c.input) ∧ g.Accepts c := by
  simp only [connectionFor, bind_eq_ok_iff, endpoint_eq_ok_iff, outputOf_eq_ok_iff,
    inputOf_eq_ok_iff, fits_eq_ok_iff, EditFault.ofChecked_eq_ok_iff, ofValues_eq_valid_iff]
  constructor
  · rintro ⟨s, ⟨ks, hks, hs⟩, t, ⟨kt, hkt, ht⟩, o, ⟨kind, hkind, ho, houtput⟩, i,
      ⟨kind', hkind', hi, hinput⟩, _, ⟨hfree, hleads⟩, hsource, ho', htarget, hi'⟩
    obtain rfl := Json.str.inj ho'
    obtain rfl := Json.str.inj hi'
    obtain rfl : ks = .text c.source := by simpa [hsource] using hks.symm
    obtain rfl : kt = .text c.target := by simpa [htarget] using hkt.symm
    have hskey := (node?_eq_some hs).2
    have htkey := (node?_eq_some ht).2
    rw [htkey] at hfree hleads
    rw [hskey] at hleads
    refine ⟨⟨hsource, houtput, htarget, hinput⟩, ⟨⟨kind, ⟨s, hs, hkind⟩, ho⟩,
      ⟨kind', ⟨t, ht, hkind'⟩, hi⟩, into?_eq_none_iff.mp hfree, fun hpath => ?_⟩⟩
    simp [leads, reaches_iff_path.mpr hpath] at hleads
  · rintro ⟨⟨rfl, rfl, rfl, rfl⟩, ⟨ks, ⟨s, hs, hks⟩, ho⟩, ⟨kt, ⟨t, ht, hkt⟩, hi⟩,
      hfree, hback⟩
    have hskey := (node?_eq_some hs).2
    have htkey := (node?_eq_some ht).2
    have hleads : g.leads t.key s.key = false := by
      rw [htkey, hskey]
      exact Bool.eq_false_iff.mpr fun hreaches => hback (reaches_iff_path.mp hreaches)
    rw [← into?_eq_none_iff, ← htkey] at hfree
    exact ⟨s, ⟨_, rfl, hs⟩, t, ⟨_, rfl, ht⟩, c.output, ⟨ks, hks, ho, rfl⟩, c.input,
      ⟨kt, hkt, hi, rfl⟩, (), ⟨hfree, hleads⟩, rfl, rfl, rfl, rfl⟩

/-- A connection that a graph accepts can be made from its parts. -/
lemma Accepts.connect_eq (hc : g.Accepts c) :
    g.connect (.str c.source) (.str c.output) (.str c.target) (.str c.input) =
      .ok ({ g with connections := g.connections ++ [c] }, c) :=
  connect_eq_ok_iff.mpr ⟨connectionFor_eq_ok_iff.mpr ⟨⟨rfl, rfl, rfl, rfl⟩, hc⟩, rfl⟩

lemma disconnectValues_eq_ok_iff {source output target input : Json} :
    g.disconnectValues source output target input = .ok (h, c) ↔
      (source = .str c.source ∧ output = .str c.output ∧ target = .str c.target ∧
        input = .str c.input) ∧
      c ∈ g.connections ∧ h = { g with connections := g.connections.erase c } := by
  simp only [disconnectValues, bind_eq_ok_iff, EditFault.ofChecked_eq_ok_iff,
    ofValues_eq_valid_iff, disconnect_eq_ok_iff, pure, Except.pure, Except.ok.injEq,
    Prod.mk.injEq]
  constructor
  · rintro ⟨c, hparts, h, ⟨hmem, rfl⟩, rfl, rfl⟩
    exact ⟨hparts, hmem, rfl⟩
  · rintro ⟨hparts, hmem, rfl⟩
    exact ⟨c, hparts, _, ⟨hmem, rfl⟩, rfl, rfl⟩

end Graph
end Promotion
