import Promotion.Editor.Session
import Promotion.Proofs.Graph.Connecting

/-! Connecting two nodes in a session. With the input left open a session goes from the only output
of one node to the first input of the other that nothing is connected to, and it does so whenever
there is such an input and no way back. With an input given it does what its graph does. -/
namespace Promotion
open Connection

namespace Graph
variable {g : Graph} {n : Node} {id s t socket : String} {kind : Kind}

def OnlyOutput (g : Graph) (id output : String) : Prop :=
  ∃ kind, g.KindAt id kind ∧ kind.sockets.outputs = [output]

/-- The first input of a node, in the order of its kind, that nothing is connected to. -/
def FirstFree (g : Graph) (id input : String) : Prop :=
  ∃ kind before after, g.KindAt id kind ∧ kind.sockets.inputs = before ++ input :: after ∧
    g.Unfed id input ∧ ∀ other ∈ before, ¬g.Unfed id other

/-- What it takes to connect two nodes when the input is left open. -/
structure Connectable (g : Graph) (s t : String) : Prop where
  sourceThere : .text s ∈ g.keys
  targetThere : .text t ∈ g.keys
  output : ∃ output, g.HasOutput s output
  input : ∃ input, g.HasInput t input ∧ g.Unfed t input
  noWayBack : ¬Path g.connections t s

/-- No kind has two outputs. -/
lemma hasOutput_iff_onlyOutput : g.HasOutput id socket ↔ g.OnlyOutput id socket := by
  refine exists_congr fun kind => and_congr_right fun _ => ?_
  cases kind <;> simp [Kind.sockets, eq_comm]

lemma FirstFree.hasInput (h : g.FirstFree id socket) : g.HasInput id socket := by
  obtain ⟨kind, before, after, hkind, hinputs, _⟩ := h
  exact ⟨kind, hkind, by simp [hinputs]⟩

lemma FirstFree.unfed (h : g.FirstFree id socket) : g.Unfed id socket := by
  obtain ⟨_, _, _, _, _, hfree, _⟩ := h
  exact hfree

lemma into?_eq_none_iff_unfed : g.into? (.text id) socket = none ↔ g.Unfed id socket :=
  into?_eq_none_iff.trans unfed_iff.symm

/-- Getting a node by a text finds it, or tells that there is none. -/
lemma get_str_cases (g : Graph) (id : String) :
    (∃ n, g.node? (.text id) = some n ∧ g.get (.str id) = .ok n) ∨
      .text id ∉ g.keys ∧ g.get (.str id) = .error (.graph (.unknownNode (.str id))) := by
  cases hn : g.node? (.text id) with
  | some n => exact Or.inl ⟨n, rfl, get_eq_ok_iff.mpr ⟨_, rfl, hn⟩⟩
  | none =>
    refine Or.inr ⟨node?_eq_none_iff.mp hn, ?_⟩
    simp [get, named?, hn, bind, Except.bind]
    rfl

end Graph

namespace Editor
open Promotion.Graph Promotion.Demand
variable {e : Editor} {g : Graph} {n : Node} {s t input : String} {kind : Kind}

/-! ### Sockets -/

lemma socketsOf?_eq (n : Node) :
    socketsOf? n = match n.kind? with
      | some kind => .ok (some kind.sockets)
      | none => if n.kindIsKey then .ok none else .error .noKey := by
  cases hkind : n.kind? with
  | some kind =>
    obtain ⟨word, hword, _⟩ := Node.kind?_eq_some_iff.mp hkind
    have hkey : n.kindIsKey = true := by simp [Node.kindIsKey, Node.kindValue, hword]
    simp [socketsOf?, hkey, Node.sockets?, hkind]
  | none => simp [socketsOf?, Node.sockets?, hkind]

/-- The sockets on one side of a node are those of its kind; a node of no known kind has none, if
they can be looked up at all. -/
lemma socketNames_eq (side : Sockets → List String) (n : Node) :
    (do return ((← socketsOf? n).map side).getD [] : Except EditFault (List String)) =
      match n.kind? with
      | some kind => .ok (side kind.sockets)
      | none => if n.kindIsKey then .ok [] else .error .noKey := by
  rw [socketsOf?_eq]
  cases n.kind? with
  | some kind => rfl
  | none => cases n.kindIsKey <;> rfl

lemma outputsOf_eq (n : Node) :
    outputsOf n = match n.kind? with
      | some kind => .ok kind.sockets.outputs
      | none => if n.kindIsKey then .ok [] else .error .noKey :=
  socketNames_eq Sockets.outputs n

lemma inputsOf_eq (n : Node) :
    inputsOf n = match n.kind? with
      | some kind => .ok kind.sockets.inputs
      | none => if n.kindIsKey then .ok [] else .error .noKey :=
  socketNames_eq Sockets.inputs n

/-- A fault of a kind that has nothing to do with an input that is taken. -/
def Vacant (fault : EditFault) : Prop := (Fault.ofEdit fault).family? ≠ some .socketOccupied

/-- The first free input of a node is found if it has one. -/
lemma freeInput_cases (hn : g.node? (.text t) = some n) :
    (∃ input, g.FirstFree t input ∧ freeInput g n = .ok input) ∨
      (¬∃ input, g.HasInput t input ∧ g.Unfed t input) ∧
        ∃ fault, freeInput g n = .error fault ∧ Vacant fault := by
  have hkey : n.key = .text t := (node?_eq_some hn).2
  have hnone : n.kind? = none → ¬∃ input, g.HasInput t input ∧ g.Unfed t input := by
    rintro hkind ⟨input, ⟨kind, ⟨m, hm, hk⟩, _⟩, _⟩
    rw [Option.some.inj (hn.symm.trans hm), hk] at hkind
    cases hkind
  unfold freeInput
  rw [inputsOf_eq]
  cases hkind : n.kind? with
  | none =>
    refine Or.inr ⟨hnone hkind, ?_⟩
    cases n.kindIsKey
    · exact ⟨_, rfl, nofun⟩
    · exact ⟨_, rfl, nofun⟩
  | some kind =>
    have hat : g.KindAt t kind := ⟨n, hn, hkind⟩
    cases hfind : kind.sockets.inputs.find? fun input => (g.into? n.key input).isNone with
    | some input =>
      obtain ⟨hfree, before, after, hinputs, hbefore⟩ := List.find?_eq_some_iff_append.mp hfind
      refine Or.inl ⟨input, ⟨kind, before, after, hat, hinputs, ?_, fun other hother => ?_⟩, ?_⟩
      · rw [hkey] at hfree
        exact into?_eq_none_iff_unfed.mp (Option.isNone_iff_eq_none.mp hfree)
      · have htaken := hbefore other hother
        rw [hkey] at htaken
        rw [← into?_eq_none_iff_unfed]
        simpa [Option.isSome_iff_ne_none] using htaken
      · simp [bind, Except.bind, hfind]
        rfl
    | none =>
      refine Or.inr ⟨?_, .graph (.noFreeInput n.id kind.sockets.inputs), ?_, ?_⟩
      · rintro ⟨input, hinput, hfree⟩
        have htaken := List.find?_eq_none.mp hfind input (hat.hasInput_iff.mp hinput)
        rw [hkey, into?_eq_none_iff_unfed.mpr hfree] at htaken
        exact htaken rfl
      · simp [bind, Except.bind, hfind]
        rfl
      · nofun

/-! ### Connecting -/

section Stages
variable {source target : Json} {m : Node} {output : String} {rest : List String}

/-- With an input given, what is left to do is what the graph does. -/
lemma connectOutput_some (hs : g.get source = .ok m) (ht : g.get target = .ok n)
    (houtputs : outputsOf m = .ok (output :: rest)) (input : Json) :
    connectOutput g source target (some input) = g.connect source (.str output) target input := by
  simp [connectOutput, hs, ht, houtputs, bind, Except.bind, pure, Except.pure]

/-- With the input left open, it is chosen before the graph is asked. -/
lemma connectOutput_none (hs : g.get source = .ok m) (ht : g.get target = .ok n)
    (houtputs : outputsOf m = .ok (output :: rest)) :
    connectOutput g source target none =
      freeInput g n >>= fun input => g.connect source (.str output) target (.str input) := by
  simp only [connectOutput, hs, ht, houtputs, bind, Except.bind]
  cases freeInput g n <;> rfl

lemma connectOutput_nil (hs : g.get source = .ok m) (ht : g.get target = .ok n)
    (houtputs : outputsOf m = .ok []) (input : Option Json) :
    connectOutput g source target input = .error (.graph (.noOutputSocket source)) := by
  simp only [connectOutput, hs, ht, houtputs, bind, Except.bind]
  rfl

end Stages

lemma outputsOf_of_onlyOutput {output : String} (hn : g.node? (.text s) = some n)
    (houtput : g.OnlyOutput s output) : outputsOf n = .ok [output] := by
  obtain ⟨kind, ⟨m, hm, hkind⟩, houtputs⟩ := houtput
  obtain rfl := Option.some.inj (hn.symm.trans hm)
  rw [outputsOf_eq, hkind, ← houtputs]

/-- A node has an only output, or the list of its outputs is empty or cannot be had. -/
lemma outputsOf_cases (hn : g.node? (.text s) = some n) :
    (∃ output, g.OnlyOutput s output) ∨
      (¬∃ output, g.HasOutput s output) ∧ (outputsOf n = .ok [] ∨ outputsOf n = .error .noKey) := by
  by_cases houtput : ∃ output, g.HasOutput s output
  · obtain ⟨output, houtput⟩ := houtput
    exact Or.inl ⟨output, hasOutput_iff_onlyOutput.mp houtput⟩
  · refine Or.inr ⟨houtput, ?_⟩
    rw [outputsOf_eq]
    cases hkind : n.kind? with
    | none => cases n.kindIsKey <;> simp
    | some kind =>
      refine Or.inl (congrArg Except.ok (List.eq_nil_iff_forall_not_mem.mpr fun output hmem => ?_))
      exact houtput ⟨output, kind, ⟨n, hn, hkind⟩, hmem⟩

/-- What a session asks its graph for, or else why it does not come to ask. -/
lemma connectOutput_cases (g : Graph) (s t : String) :
    (∃ output input, g.OnlyOutput s output ∧ g.FirstFree t input ∧
        connectOutput g (.str s) (.str t) none = g.ask ⟨s, output, t, input⟩) ∨
      ¬g.Connectable s t ∧
        ∃ fault, connectOutput g (.str s) (.str t) none = .error fault ∧ Vacant fault := by
  rcases get_str_cases g s with ⟨m, hm, hs⟩ | ⟨hmissing, hs⟩
  swap
  · refine Or.inr ⟨fun h => hmissing h.sourceThere, .graph (.unknownNode (.str s)), ?_, nofun⟩
    rw [connectOutput, hs]
    rfl
  rcases get_str_cases g t with ⟨n, hn, ht⟩ | ⟨hmissing, ht⟩
  swap
  · refine Or.inr ⟨fun h => hmissing h.targetThere, .graph (.unknownNode (.str t)), ?_, nofun⟩
    rw [connectOutput, hs, ht]
    rfl
  rcases outputsOf_cases hm with ⟨output, houtput⟩ | ⟨hnone, hnil | hnoKey⟩
  · have houtputs := outputsOf_of_onlyOutput hm houtput
    rw [connectOutput_none hs ht houtputs]
    rcases freeInput_cases hn with ⟨input, hfirst, hfree⟩ | ⟨hnone, fault, hfree, hvacant⟩
    · refine Or.inl ⟨output, input, houtput, hfirst, ?_⟩
      rw [hfree]
      rfl
    · refine Or.inr ⟨fun h => hnone h.input, fault, ?_, hvacant⟩
      rw [hfree]
      rfl
  · exact Or.inr ⟨fun h => hnone h.output, _, connectOutput_nil hs ht hnil none, nofun⟩
  · refine Or.inr ⟨fun h => hnone h.output, .noKey, ?_, nofun⟩
    rw [connectOutput, hs, ht]
    simp [hnoKey, bind, Except.bind]

/-- Once the sockets are chosen, only a way back can stop the graph. -/
lemma met_iff_noWayBack {output : String} (houtput : g.OnlyOutput s output)
    (hinput : g.FirstFree t input) :
    (∀ d ∈ Demand.all, d.Met g ⟨s, output, t, input⟩) ↔ ¬Path g.connections t s := by
  constructor
  · intro hmet
    exact hmet .noWayBack (mem_all _)
  · intro hback d _
    have hout := hasOutput_iff_onlyOutput.mpr houtput
    have hin := hinput.hasInput
    cases d with
    | sourceThere => exact hout.mem_keys
    | targetThere => exact hin.mem_keys
    | sourceKind => exact hout.imp fun _ h => h.1
    | output => exact hout
    | targetKind => exact hin.imp fun _ h => h.1
    | input => exact hin
    | freeInput => exact unfed_iff.mp hinput.unfed
    | noWayBack => exact hback

lemma connectable_of_chosen {output : String} (houtput : g.OnlyOutput s output)
    (hinput : g.FirstFree t input) (hback : ¬Path g.connections t s) : g.Connectable s t := by
  have hout := hasOutput_iff_onlyOutput.mpr houtput
  exact ⟨hout.mem_keys, hinput.hasInput.mem_keys, ⟨output, hout⟩,
    ⟨input, hinput.hasInput, hinput.unfed⟩, hback⟩

theorem connectOutput_ok_iff :
    (∃ made, connectOutput g (.str s) (.str t) none = .ok made) ↔ g.Connectable s t := by
  rcases connectOutput_cases g s t with ⟨output, input, houtput, hinput, hask⟩ |
    ⟨hnot, fault, hfault, _⟩
  · rw [hask, (judges_ask g _).ok_iff, met_iff_noWayBack houtput hinput]
    exact ⟨connectable_of_chosen houtput hinput, Connectable.noWayBack⟩
  · refine iff_of_false ?_ hnot
    rintro ⟨made, hmade⟩
    rw [hfault] at hmade
    cases hmade

theorem parts_of_connectOutput {h : Graph} {c : Connection}
    (hok : connectOutput g (.str s) (.str t) none = .ok (h, c)) :
    c.source = s ∧ c.target = t ∧ g.OnlyOutput s c.output ∧ g.FirstFree t c.input ∧
      h = { g with connections := g.connections ++ [c] } := by
  rcases connectOutput_cases g s t with ⟨output, input, houtput, hinput, hask⟩ |
    ⟨_, fault, hfault, _⟩
  · rw [hask] at hok
    obtain ⟨hfor, rfl⟩ := connect_eq_ok_iff.mp hok
    obtain ⟨⟨hsource, houtput', htarget, hinput'⟩, _⟩ := connectionFor_eq_ok_iff.mp hfor
    obtain rfl := Json.str.inj hsource
    obtain rfl := Json.str.inj houtput'
    obtain rfl := Json.str.inj htarget
    obtain rfl := Json.str.inj hinput'
    exact ⟨rfl, rfl, houtput, hinput, rfl⟩
  · rw [hfault] at hok
    cases hok

/-- The input that is chosen is free, so the graph does not find it taken. -/
theorem vacant_of_connectOutput {fault : EditFault}
    (herror : connectOutput g (.str s) (.str t) none = .error fault) : Vacant fault := by
  rcases connectOutput_cases g s t with ⟨output, input, houtput, hinput, hask⟩ |
    ⟨_, other, hother, hvacant⟩
  · rw [hask] at herror
    obtain ⟨d, hfirst, hreported⟩ := (judges_ask g _).error_iff.mp herror
    rcases hreported.family with hfamily | ⟨rfl, _⟩
    · intro hoccupied
      rw [hfamily, Option.some.injEq] at hoccupied
      obtain rfl : d = .freeInput := by cases d <;> first | rfl | cases hoccupied
      exact hfirst.not_met.2 (unfed_iff.mp hinput.unfed)
    · nofun
  · rw [hother] at herror
    cases herror
    exact hvacant

/-- With the input left open, two nodes are connected exactly if both are there, the one has an
output, the other an input that nothing is connected to, and there is no way back; the connection
goes from the only output to the first free input, and no input is ever found taken. With an input
given, a session does what its graph does with the only output. -/
theorem connect_first_free (e : Editor) (s t : String) :
    ((∃ c, (e.connect (.str s) (.str t) none).outcome = .ok c) ↔ e.graph.Connectable s t) ∧
    (∀ c, (e.connect (.str s) (.str t) none).outcome = .ok c →
      c.source = s ∧ c.target = t ∧ e.graph.OnlyOutput s c.output ∧ e.graph.FirstFree t c.input ∧
        (e.connect (.str s) (.str t) none).editor =
          { e with graph := { e.graph with connections := e.graph.connections ++ [c] } }) ∧
    (∀ fault, (e.connect (.str s) (.str t) none).outcome = .error fault →
      fault.family? ≠ some .socketOccupied) ∧
    ∀ (output : String) (input : Json), .text t ∈ e.graph.keys → e.graph.OnlyOutput s output →
      e.connect (.str s) (.str t) (some input) = e.link (.str s) (.str output) (.str t) input := by
  unfold connect link
  refine ⟨?_, ?_, ?_, ?_⟩
  · rw [← connectOutput_ok_iff]
    cases connectOutput e.graph (.str s) (.str t) none <;> simp [ofGraphEdit, fail]
  · intro c hc
    cases hmade : connectOutput e.graph (.str s) (.str t) none with
    | ok made =>
      obtain ⟨h, d⟩ := made
      obtain rfl : d = c := by simpa [ofGraphEdit, hmade] using hc
      obtain ⟨hsource, htarget, houtput, hinput, rfl⟩ := parts_of_connectOutput hmade
      exact ⟨hsource, htarget, houtput, hinput, rfl⟩
    | error fault => simp [ofGraphEdit, fail, hmade] at hc
  · intro fault hfault
    cases hmade : connectOutput e.graph (.str s) (.str t) none with
    | ok made => simp [ofGraphEdit, hmade] at hfault
    | error other =>
      obtain rfl : Fault.ofEdit other = fault := by simpa [ofGraphEdit, fail, hmade] using hfault
      exact vacant_of_connectOutput hmade
  · intro output input ht houtput
    have hs := (hasOutput_iff_onlyOutput.mpr houtput).mem_keys
    obtain ⟨m, hm, hgets⟩ := (get_str_cases e.graph s).resolve_right fun h => h.1 hs
    obtain ⟨n, _, hgett⟩ := (get_str_cases e.graph t).resolve_right fun h => h.1 ht
    rw [connectOutput_some hgets hgett (outputsOf_of_onlyOutput hm houtput)]

/-- The sample while its gate is fed at the first input only. -/
def halfFed : Editor :=
  .ofGraph { sample with connections := [⟨"few", "condition", "either", "a"⟩] }

lemma connect_halfFed : (halfFed.connect (.str "gold") (.str "either") none).outcome =
    .ok ⟨"gold", "condition", "either", "b"⟩ := by
  decide +kernel

lemma connect_halfFed_self : (halfFed.connect (.str "either") (.str "either") none).outcome =
    .error (.graph (.cycle (.str "either") (.str "either"))) := by
  decide +kernel

theorem connect_first_free_halfFed :
    halfFed.graph.Connectable "gold" "either" ∧ halfFed.graph.FirstFree "either" "b" ∧
      ¬halfFed.graph.Connectable "either" "either" ∧
      halfFed.connect (.str "gold") (.str "either") (some (.str "a")) =
        halfFed.link (.str "gold") (.str "condition") (.str "either") (.str "a") := by
  have hspec := connect_first_free halfFed "gold" "either"
  have hself := connect_first_free halfFed "either" "either"
  have hfirst := (hspec.2.1 _ connect_halfFed).2.2.2.1
  have houtput : halfFed.graph.OnlyOutput "gold" "condition" := ⟨_, ⟨_, rfl, rfl⟩, rfl⟩
  refine ⟨hspec.1.mp ⟨_, connect_halfFed⟩, hfirst, fun h => ?_, ?_⟩
  · obtain ⟨c, hc⟩ := hself.1.mpr h
    rw [connect_halfFed_self] at hc
    cases hc
  · exact hspec.2.2.2 _ _ (by decide) houtput

end Editor
end Promotion
