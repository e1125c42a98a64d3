import Promotion.Fault
import Promotion.Proofs.Graph.WellFormed

/-! What a graph asks of a new connection, demand by demand. A connection is made exactly if all
demands are met; otherwise what is reported is the first one, in a fixed order, that is not. Only
logical nodes can close a cycle, since no other kind has both inputs and outputs. -/
namespace Promotion
open Connection Relation

inductive Demand where
  | sourceThere
  | targetThere
  | sourceKind
  | output
  | targetKind
  | input
  | freeInput
  | noWayBack
  deriving DecidableEq, Repr

/-- Graphs that edits lead to from an empty or a loaded one, with nodes of whatever make. -/
def Graph.Reachable (g : Graph) : Prop :=
  ∃ limit start edits, (start = empty limit ∨ ∃ payload, ofPayload limit payload = .ok start) ∧
    g = start.run edits

namespace Graph
variable {g : Graph} {n : Node} {id socket : String} {kind : Kind}

/-- Asks for a connection by its four names. -/
def ask (g : Graph) (c : Connection) : Except EditFault (Graph × Connection) :=
  g.connect (.str c.source) (.str c.output) (.str c.target) (.str c.input)

lemma endpoint_str {source target : Json} :
    g.endpoint source target (.str id) =
      match g.node? (.text id) with
      | some n => .ok n
      | none => .error (.graph (.unknownEndpoint (.str id) source target)) := by
  unfold endpoint named?
  cases hn : g.node? (.text id) <;> simp [bind, Except.bind, hn] <;> rfl

lemma node?_of_endpoint_str {source target : Json}
    (h : g.endpoint source target (.str id) = .ok n) : g.node? (.text id) = some n := by
  obtain ⟨key, hkey, hn⟩ := endpoint_eq_ok_iff.mp h
  obtain rfl : NodeKey.text id = key := Option.some.inj hkey
  exact hn

lemma KindAt.hasOutput_iff (hkind : g.KindAt id kind) :
    g.HasOutput id socket ↔ socket ∈ kind.sockets.outputs := by
  constructor
  · rintro ⟨kind', hkind', hmem⟩
    exact hkind.unique hkind' ▸ hmem
  · intro hmem
    exact ⟨kind, hkind, hmem⟩

lemma KindAt.hasInput_iff (hkind : g.KindAt id kind) :
    g.HasInput id socket ↔ socket ∈ kind.sockets.inputs := by
  constructor
  · rintro ⟨kind', hkind', hmem⟩
    exact hkind.unique hkind' ▸ hmem
  · intro hmem
    exact ⟨kind, hkind, hmem⟩

end Graph

namespace Demand
open Promotion.Graph

/-- The demands in the order in which a graph looks at them. -/
def all : List Demand :=
  [.sourceThere, .targetThere, .sourceKind, .output, .targetKind, .input, .freeInput, .noWayBack]

def Met (g : Graph) (c : Connection) : Demand → Prop
  | .sourceThere => .text c.source ∈ g.keys
  | .targetThere => .text c.target ∈ g.keys
  | .sourceKind => ∃ kind, g.KindAt c.source kind
  | .output => g.HasOutput c.source c.output
  | .targetKind => ∃ kind, g.KindAt c.target kind
  | .input => g.HasInput c.target c.input
  | .freeInput => ∀ d ∈ g.connections, ¬(d.target = c.target ∧ d.input = c.input)
  | .noWayBack => ¬Path g.connections c.target c.source

/-- The family of the faults that tell of a demand. -/
def family : Demand → FaultFamily
  | .sourceThere => .unknownNode
  | .targetThere => .unknownNode
  | .sourceKind => .unknownKind
  | .output => .socketMismatch
  | .targetKind => .unknownKind
  | .input => .socketMismatch
  | .freeInput => .socketOccupied
  | .noWayBack => .cycle

/-- The fault of a node whose kind is not a known one: it can be told only if the kind can be looked
up at all. -/
def kindFault (n : Node) : EditFault :=
  if n.kindIsKey then .graph (.unknownKind n.id n.kindValue) else .noKey

/-- What is reported about a connection that fails a demand. -/
inductive Reported (g : Graph) (c : Connection) : Demand → EditFault → Prop
  | sourceThere : Reported g c .sourceThere
      (.graph (.unknownEndpoint (.str c.source) (.str c.source) (.str c.target)))
  | targetThere : Reported g c .targetThere
      (.graph (.unknownEndpoint (.str c.target) (.str c.source) (.str c.target)))
  | sourceKind {n : Node} (hn : g.node? (.text c.source) = some n) :
      Reported g c .sourceKind (kindFault n)
  | output {kind : Kind} (hkind : g.KindAt c.source kind) :
      Reported g c .output (.graph (.noOutput (.str c.source) kind (.str c.output)))
  | targetKind {n : Node} (hn : g.node? (.text c.target) = some n) :
      Reported g c .targetKind (kindFault n)
  | input {kind : Kind} (hkind : g.KindAt c.target kind) :
      Reported g c .input (.graph (.noInput (.str c.target) kind (.str c.input)))
  | freeInput {taken : Connection} (htaken : g.into? (.text c.target) c.input = some taken) :
      Reported g c .freeInput (.graph (.occupied c.target c.input taken.source))
  | noWayBack : Reported g c .noWayBack (.graph (.cycle (.str c.source) (.str c.target)))

/-- The first demand on a list that is not met. -/
def FirstUnmet (g : Graph) (c : Connection) (demands : List Demand) (d : Demand) : Prop :=
  ∃ before after, demands = before ++ d :: after ∧ (∀ e ∈ before, e.Met g c) ∧ ¬d.Met g c

/-- An outcome that goes by some demands: success if they are met, or else a report of the first
that is not. -/
def Judges (g : Graph) (c : Connection) {α : Type} (demands : List Demand) :
    Except EditFault α → Prop
  | .ok _ => ∀ d ∈ demands, d.Met g c
  | .error fault => ∃ d, FirstUnmet g c demands d ∧ d.Reported g c fault

variable {g : Graph} {c : Connection} {α β : Type} {demands more : List Demand} {d e : Demand}
  {fault : EditFault} {n : Node}

lemma mem_all (d : Demand) : d ∈ all := by cases d <;> decide

/-! ### Outcomes by demands -/

lemma judges_nil (a : α) : Judges g c [] (.ok a) := fun _ hd => absurd hd List.not_mem_nil

lemma judges_met (a : α) (h : d.Met g c) : Judges g c [d] (.ok a) := by
  intro e he
  exact List.mem_singleton.mp he ▸ h

lemma judges_unmet (h : ¬d.Met g c) (hfault : d.Reported g c fault) :
    Judges g c [d] (.error fault : Except EditFault α) :=
  ⟨d, ⟨[], [], rfl, fun _ he => absurd he List.not_mem_nil, h⟩, hfault⟩

/-- The demands of a later step are looked at only if those of the first are met. -/
lemma Judges.bind {x : Except EditFault α} {f : α → Except EditFault β}
    (hx : Judges g c demands x) (hf : ∀ a, x = .ok a → Judges g c more (f a)) :
    Judges g c (demands ++ more) (x >>= f) := by
  cases x with
  | error fault =>
    obtain ⟨d, ⟨before, after, rfl, hmet, hunmet⟩, hfault⟩ := hx
    exact ⟨d, ⟨before, after ++ more, by simp, hmet, hunmet⟩, hfault⟩
  | ok a =>
    have hmore := hf a rfl
    show Judges g c (demands ++ more) (f a)
    cases hfa : f a with
    | ok b =>
      rw [hfa] at hmore
      intro d hd
      exact (List.mem_append.mp hd).elim (hx d) (hmore d)
    | error fault =>
      rw [hfa] at hmore
      obtain ⟨d, ⟨before, after, rfl, hmet, hunmet⟩, hfault⟩ := hmore
      refine ⟨d, ⟨demands ++ before, after, by simp, ?_, hunmet⟩, hfault⟩
      intro e he
      exact (List.mem_append.mp he).elim (hx e) (hmet e)

lemma FirstUnmet.unique (hd : FirstUnmet g c demands d) (he : FirstUnmet g c demands e) :
    d = e := by
  obtain ⟨before, after, hlist, hmet, hunmet⟩ := hd
  obtain ⟨before', after', hlist', hmet', hunmet'⟩ := he
  rw [hlist] at hlist'
  rcases List.append_eq_append_iff.mp hlist' with ⟨between, rfl, hrest⟩ | ⟨between, rfl, hrest⟩
  · cases between with
    | nil => exact (List.cons.inj hrest).1
    | cons first rest =>
      obtain rfl := (List.cons.inj hrest).1
      exact absurd (hmet' d (by simp)) hunmet
  · cases between with
    | nil => exact (List.cons.inj hrest).1.symm
    | cons first rest =>
      obtain rfl := (List.cons.inj hrest).1
      exact absurd (hmet e (by simp)) hunmet'

lemma FirstUnmet.not_met (h : FirstUnmet g c demands d) : d ∈ demands ∧ ¬d.Met g c := by
  obtain ⟨before, after, rfl, _, hunmet⟩ := h
  exact ⟨by simp, hunmet⟩

lemma Reported.unique {other : EditFault} (h : d.Reported g c fault) (h' : d.Reported g c other) :
    fault = other := by
  cases h with
  | sourceThere => cases h'; rfl
  | targetThere => cases h'; rfl
  | sourceKind hn =>
    cases h' with
    | sourceKind hn' => rw [Option.some.inj (hn.symm.trans hn')]
  | output hkind =>
    cases h' with
    | output hkind' => rw [hkind.unique hkind']
  | targetKind hn =>
    cases h' with
    | targetKind hn' => rw [Option.some.inj (hn.symm.trans hn')]
  | input hkind =>
    cases h' with
    | input hkind' => rw [hkind.unique hkind']
  | freeInput htaken =>
    cases h' with
    | freeInput htaken' => rw [Option.some.inj (htaken.symm.trans htaken')]
  | noWayBack => cases h'; rfl

lemma Judges.ok_iff {x : Except EditFault α} (h : Judges g c demands x) :
    (∃ a, x = .ok a) ↔ ∀ d ∈ demands, d.Met g c := by
  cases x with
  | ok a => exact iff_of_true ⟨a, rfl⟩ h
  | error fault =>
    obtain ⟨d, hfirst, _⟩ := h
    obtain ⟨hmem, hunmet⟩ := hfirst.not_met
    refine iff_of_false ?_ (fun hall => hunmet (hall d hmem))
    rintro ⟨a, ha⟩
    cases ha

lemma Judges.error_iff {x : Except EditFault α} (h : Judges g c demands x) :
    x = .error fault ↔ ∃ d, FirstUnmet g c demands d ∧ d.Reported g c fault := by
  cases x with
  | ok a =>
    refine iff_of_false (fun herror => nomatch herror) ?_
    rintro ⟨d, hfirst, _⟩
    obtain ⟨hmem, hunmet⟩ := hfirst.not_met
    exact hunmet (h d hmem)
  | error other =>
    constructor
    · intro heq
      cases heq
      exact h
    · rintro ⟨d, hfirst, hfault⟩
      obtain ⟨e, hfirst', hfault'⟩ := h
      obtain rfl := hfirst.unique hfirst'
      rw [hfault.unique hfault']

/-! ### The steps of making a connection -/

lemma judges_endpoint {id : String} (hmet : d.Met g c ↔ .text id ∈ g.keys)
    (hfault : d.Reported g c
      (.graph (.unknownEndpoint (.str id) (.str c.source) (.str c.target)))) :
    Judges g c [d] (g.endpoint (.str c.source) (.str c.target) (.str id)) := by
  rw [endpoint_str]
  cases hn : g.node? (.text id) with
  | some n =>
    obtain ⟨hmem, hkey⟩ := node?_eq_some hn
    have hkeys : n.key ∈ g.keys := List.mem_map_of_mem hmem
    rw [hkey] at hkeys
    exact judges_met n (hmet.mpr hkeys)
  | none => exact judges_unmet (fun h => node?_eq_none_iff.mp hn (hmet.mp h)) hfault

lemma kindOf_eq (n : Node) :
    kindOf n = match n.kind? with
      | some kind => .ok kind
      | none => .error (kindFault n) := by
  cases hkind : n.kind? with
  | some kind => exact kindOf_eq_ok_iff.mpr hkind
  | none =>
    unfold kindOf kindFault
    split <;> simp_all

/-- The kind of a node that is there is looked at by a demand that asks for a known one. -/
lemma judges_kindOf {id : String} (hn : g.node? (.text id) = some n)
    (hmet : d.Met g c ↔ ∃ kind, g.KindAt id kind) (hfault : d.Reported g c (kindFault n)) :
    Judges g c [d] (kindOf n) := by
  rw [kindOf_eq]
  cases hkind : n.kind? with
  | some kind => exact judges_met kind (hmet.mpr ⟨kind, n, hn, hkind⟩)
  | none =>
    refine judges_unmet (fun h => ?_) hfault
    obtain ⟨kind, m, hm, hk⟩ := hmet.mp h
    obtain rfl := Option.some.inj (hn.symm.trans hm)
    rw [hkind] at hk
    cases hk

/-- A socket is looked for on the list of a known kind. -/
lemma judges_socketOf? {names : List String} {socket : String}
    (hmet : d.Met g c ↔ socket ∈ names) (hfault : d.Reported g c fault) :
    Judges g c [d] (match socketOf? names (.str socket) with
      | some name => (pure name : Except EditFault String)
      | none => throw fault) := by
  cases hsocket : socketOf? names (.str socket) with
  | some name =>
    obtain ⟨hmem, hname⟩ := socketOf?_eq_some_iff.mp hsocket
    obtain rfl := Json.str.inj hname
    exact judges_met socket (hmet.mpr hmem)
  | none =>
    refine judges_unmet (fun h => ?_) hfault
    rw [socketOf?_eq_some_iff.mpr ⟨hmet.mp h, rfl⟩] at hsocket
    cases hsocket

lemma judges_outputOf (hn : g.node? (.text c.source) = some n) :
    Judges g c ([.sourceKind] ++ [.output]) (outputOf (.str c.source) n (.str c.output)) := by
  refine (judges_kindOf hn Iff.rfl (.sourceKind hn)).bind ?_
  intro kind hkind
  have hat : g.KindAt c.source kind := ⟨n, hn, kindOf_eq_ok_iff.mp hkind⟩
  exact judges_socketOf? hat.hasOutput_iff (.output hat)

lemma judges_inputOf (hn : g.node? (.text c.target) = some n) :
    Judges g c ([.targetKind] ++ [.input]) (inputOf (.str c.target) n (.str c.input)) := by
  refine (judges_kindOf hn Iff.rfl (.targetKind hn)).bind ?_
  intro kind hkind
  have hat : g.KindAt c.target kind := ⟨n, hn, kindOf_eq_ok_iff.mp hkind⟩
  exact judges_socketOf? hat.hasInput_iff (.input hat)

lemma judges_fits {s t : Node} (hs : s.key = .text c.source) (ht : t.key = .text c.target) :
    Judges g c [.freeInput, .noWayBack] (g.fits (.str c.source) (.str c.target) s t c.input) := by
  unfold fits
  rw [hs, ht]
  cases htaken : g.into? (.text c.target) c.input with
  | some taken =>
    obtain ⟨htarget, hinput⟩ : taken.target = c.target ∧ taken.input = c.input := by
      simpa using List.find?_some htaken
    refine ⟨.freeInput, ⟨[], [.noWayBack], rfl, by simp, fun hfree => ?_⟩, ?_⟩
    · exact hfree taken (List.mem_of_find?_eq_some htaken) ⟨htarget, hinput⟩
    · rw [htarget]
      exact .freeInput htaken
  | none =>
    have hfree : Met g c .freeInput := into?_eq_none_iff.mp htaken
    cases hleads : g.leads (.text c.target) (.text c.source) with
    | true =>
      have hpath : Path g.connections c.target c.source := reaches_iff_path.mp hleads
      refine ⟨.noWayBack, ⟨[.freeInput], [], rfl, by simpa using hfree, fun h => h hpath⟩, ?_⟩
      exact .noWayBack
    | false =>
      have hback : Met g c .noWayBack := by
        intro hpath
        rw [leads, reaches_iff_path.mpr hpath] at hleads
        cases hleads
      intro d hd
      rcases List.mem_pair.mp hd with rfl | rfl
      · exact hfree
      · exact hback

lemma judges_connectionFor (g : Graph) (c : Connection) :
    Judges g c all
      (g.connectionFor (.str c.source) (.str c.output) (.str c.target) (.str c.input)) := by
  show Judges g c ([.sourceThere] ++ ([.targetThere] ++ (([.sourceKind] ++ [.output]) ++
    (([.targetKind] ++ [.input]) ++ ([.freeInput, .noWayBack] ++ []))))) _
  refine (judges_endpoint Iff.rfl .sourceThere).bind ?_
  intro s hs
  refine (judges_endpoint Iff.rfl .targetThere).bind ?_
  intro t ht
  have hs' := node?_of_endpoint_str hs
  have ht' := node?_of_endpoint_str ht
  refine (judges_outputOf hs').bind ?_
  intro o ho
  refine (judges_inputOf ht').bind ?_
  intro i hi
  -- The sockets that are found are the ones that were asked for.
  obtain ⟨_, _, _, ho⟩ := outputOf_eq_ok_iff.mp ho
  obtain ⟨_, _, _, hi⟩ := inputOf_eq_ok_iff.mp hi
  obtain rfl := Json.str.inj ho
  obtain rfl := Json.str.inj hi
  refine (judges_fits (node?_eq_some hs').2 (node?_eq_some ht').2).bind ?_
  intro _ _
  exact judges_nil c

/-- Making a connection goes by all demands, in their order. -/
theorem judges_ask (g : Graph) (c : Connection) : Judges g c all (g.ask c) := by
  show Judges g c (all ++ []) _
  refine (judges_connectionFor g c).bind ?_
  intro d _
  exact judges_nil ({ g with connections := g.connections ++ [d] }, d)

/-- A fault tells of its demand by its family, unless it is about a kind that cannot be looked
up. -/
lemma Reported.family (h : d.Reported g c fault) :
    (Fault.ofEdit fault).family? = some d.family ∨
      fault = .noKey ∧ ∃ n, n.kindIsKey = false ∧
        (d = .sourceKind ∧ g.node? (.text c.source) = some n ∨
          d = .targetKind ∧ g.node? (.text c.target) = some n) := by
  have hkind : ∀ n, (Fault.ofEdit (kindFault n)).family? = some .unknownKind ∨
      kindFault n = .noKey ∧ n.kindIsKey = false := by
    intro n
    unfold kindFault
    cases n.kindIsKey
    · exact Or.inr ⟨rfl, rfl⟩
    · exact Or.inl rfl
  cases h with
  | @sourceKind n hn =>
    exact (hkind n).imp_right fun ⟨hfault, hkey⟩ => ⟨hfault, n, hkey, Or.inl ⟨rfl, hn⟩⟩
  | @targetKind n hn =>
    exact (hkind n).imp_right fun ⟨hfault, hkey⟩ => ⟨hfault, n, hkey, Or.inr ⟨rfl, hn⟩⟩
  | _ => exact Or.inl rfl

end Demand

namespace Graph
open Demand
variable {g : Graph} {c : Connection} {fault : EditFault}

lemma Reachable.wellFormed (hg : g.Reachable) : g.WellFormed := by
  obtain ⟨limit, start, edits, hstart, rfl⟩ := hg
  have hstep : ∀ (g h : Graph) (e : GraphEdit), g.WellFormed → e.apply g = .ok h → h.WellFormed :=
    fun g h e hg hok => hg.apply hok
  refine run_induction hstep ?_ edits
  rcases hstart with rfl | ⟨payload, hok⟩
  · exact wellFormed_empty limit
  · exact ofPayload_induction (wellFormed_empty limit) (fun g h e _ => hstep g h e) hok

/-- Only logical nodes have both inputs and outputs. -/
lemma eq_logical_of_hasSockets {id input output : String} (hin : g.HasInput id input)
    (hout : g.HasOutput id output) : g.KindAt id .logical := by
  obtain ⟨kind, hkind, hinput⟩ := hin
  obtain ⟨kind', hkind', houtput⟩ := hout
  obtain rfl := hkind.unique hkind'
  cases kind with
  | condition => exact absurd hinput List.not_mem_nil
  | action => exact absurd houtput List.not_mem_nil
  | logical => exact hkind

/-- A connection that fits the sockets at both ends and has a way back joins logical nodes. -/
lemma WellFormed.logical_of_path (hg : g.WellFormed) (hout : g.HasOutput c.source c.output)
    (hin : g.HasInput c.target c.input) (hpath : Path g.connections c.target c.source) :
    g.KindAt c.source .logical ∧ g.KindAt c.target .logical := by
  constructor
  · rcases hpath.cases_tail with hsame | ⟨_, _, ⟨d, hd, _, htarget⟩⟩
    · exact eq_logical_of_hasSockets (hsame ▸ hin) hout
    · exact eq_logical_of_hasSockets (htarget ▸ hg.input d hd) hout
  · rcases hpath.cases_head with hsame | ⟨_, ⟨d, hd, hsource, _⟩, _⟩
    · exact eq_logical_of_hasSockets hin (hsame ▸ hout)
    · exact eq_logical_of_hasSockets hin (hsource ▸ hg.output d hd)

/-- The last demand is looked at only when all others are met. -/
lemma met_of_firstUnmet_noWayBack {d : Demand} (h : FirstUnmet g c Demand.all .noWayBack)
    (hne : d ≠ .noWayBack) : d.Met g c := by
  obtain ⟨before, after, hall, hmet, _⟩ := h
  obtain ⟨hbefore, _⟩ : before = [.sourceThere, .targetThere, .sourceKind, .output, .targetKind,
      .input, .freeInput] ∧ after = [] := by
    simpa [Demand.all, List.cons_eq_append_iff, and_assoc] using hall
  apply hmet
  rw [hbefore]
  cases d <;> simp_all

lemma logical_of_cycle (hg : g.WellFormed) (hfault : g.ask c = .error fault)
    (hcycle : (Fault.ofEdit fault).family? = some .cycle) :
    g.KindAt c.source .logical ∧ g.KindAt c.target .logical := by
  obtain ⟨d, hfirst, hreported⟩ := (judges_ask g c).error_iff.mp hfault
  obtain rfl : d = .noWayBack := by
    rcases hreported.family with hfamily | ⟨rfl, _⟩
    · rw [hcycle, Option.some.injEq] at hfamily
      cases d with
      | noWayBack => rfl
      | _ => cases hfamily
    · cases hcycle
  have hpath : Path g.connections c.target c.source := Classical.not_not.mp hfirst.not_met.2
  exact hg.logical_of_path (met_of_firstUnmet_noWayBack (d := .output) hfirst (by decide))
    (met_of_firstUnmet_noWayBack (d := .input) hfirst (by decide)) hpath

/-- A connection is made exactly if all demands are met, and then it is the only thing that is new.
Otherwise the first demand that is not met is reported, in its family unless a kind cannot even be
looked up. In a graph that edits lead to, cycles are closed by logical nodes only. -/
theorem ask_by_demands (g : Graph) (c : Connection) :
    ((∃ made, g.ask c = .ok made) ↔ ∀ d : Demand, d.Met g c) ∧
    (∀ h d, g.ask c = .ok (h, d) → d = c ∧ h = { g with connections := g.connections ++ [c] }) ∧
    (∀ fault, g.ask c = .error fault ↔
      ∃ d, FirstUnmet g c Demand.all d ∧ d.Reported g c fault) ∧
    (∀ (d : Demand) (fault : EditFault), d.Reported g c fault →
      (Fault.ofEdit fault).family? = some d.family ∨
        fault = .noKey ∧ ∃ n, n.kindIsKey = false ∧
          (d = .sourceKind ∧ g.node? (.text c.source) = some n ∨
            d = .targetKind ∧ g.node? (.text c.target) = some n)) ∧
    (g.Reachable → ∀ fault, g.ask c = .error fault → (Fault.ofEdit fault).family? = some .cycle →
      g.KindAt c.source .logical ∧ g.KindAt c.target .logical) := by
  have hjudges := judges_ask g c
  refine ⟨?_, ?_, fun fault => hjudges.error_iff, fun d fault h => h.family, ?_⟩
  · rw [hjudges.ok_iff]
    exact forall_congr' fun d => forall_prop_of_true d.mem_all
  · intro h d hok
    obtain ⟨hfor, hh⟩ := connect_eq_ok_iff.mp hok
    obtain ⟨⟨hsource, houtput, htarget, hinput⟩, _⟩ := connectionFor_eq_ok_iff.mp hfor
    obtain rfl : d = c := by
      cases d
      cases c
      simp_all
    exact ⟨rfl, hh⟩
  · intro hg fault hfault hcycle
    exact logical_of_cycle hg.wellFormed hfault hcycle

/-- Two gates, one behind the other. -/
def gates : Graph :=
  (empty (.int 5)).run
    [.insert (.rule ⟨"inner", .logical .and, by decide, by decide⟩),
      .insert (.rule ⟨"outer", .logical .and, by decide, by decide⟩),
      .connect (.str "inner") (.str "result") (.str "outer") (.str "a")]

lemma ask_gates : gates.ask ⟨"outer", "result", "inner", "a"⟩ =
    .error (.graph (.cycle (.str "outer") (.str "inner"))) := by
  decide +kernel

theorem ask_by_demands_gates :
    gates.Reachable ∧
      gates.ask ⟨"outer", "result", "inner", "a"⟩ =
        .error (.graph (.cycle (.str "outer") (.str "inner"))) ∧
      gates.KindAt "outer" .logical ∧ gates.KindAt "inner" .logical := by
  have hgates : gates.Reachable := ⟨_, _, _, Or.inl rfl, rfl⟩
  have hspec := ask_by_demands gates ⟨"outer", "result", "inner", "a"⟩
  exact ⟨hgates, ask_gates, hspec.2.2.2.2 hgates _ ask_gates rfl⟩

/-- A condition whose kind is no word but a list, and the action of the sample. -/
def unkeyable : Graph :=
  (empty (.int 5)).run
    (.insert (.loose ⟨some .condition, .str "odd", [("kind", .arr [])], .text "odd", rfl⟩) ::
      (sampleNodes.drop 3).map fun r => .insert (.rule r))

/-- A kind that cannot be looked up is no known one, but it is not reported as an unknown one. -/
theorem unkeyable_kind_untold :
    unkeyable.Reachable ∧
      FirstUnmet unkeyable ⟨"odd", "condition", "off", "condition"⟩ Demand.all .sourceKind ∧
      unkeyable.ask ⟨"odd", "condition", "off", "condition"⟩ = .error .noKey ∧
      (Fault.ofEdit .noKey).family? ≠ some Demand.sourceKind.family := by
  have hkeys : NodeKey.text "odd" ∈ unkeyable.keys ∧ NodeKey.text "off" ∈ unkeyable.keys := by
    decide
  refine ⟨⟨_, _, _, Or.inl rfl, rfl⟩, ⟨[.sourceThere, .targetThere], _, rfl, ?_, ?_⟩, ?_, ?_⟩
  · intro d hd
    rcases List.mem_pair.mp hd with rfl | rfl
    · exact hkeys.1
    · exact hkeys.2
  · rintro ⟨kind, n, hn, hkind⟩
    obtain rfl :
        Node.loose ⟨some .condition, .str "odd", [("kind", .arr [])], .text "odd", rfl⟩ = n :=
      Option.some.inj hn
    cases hkind
  · decide +kernel
  · decide

end Graph
end Promotion
