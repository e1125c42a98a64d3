import Promotion.CommandLine.Run
import Promotion.Proofs.Editor.Submission
import Promotion.Proofs.Graph.Loading
import Promotion.Proofs.Rule.Printing

/-! The stages of a run on the command line, from the payload of a graph file to what is printed.
Each of them only records, and either gives what it is meant to give or fails with a fault that is
reported. -/
namespace Promotion

/-- A fault that a run has an answer to. -/
def Fault.IsReported (fault : Fault) : Prop :=
  (∃ issues, fault = .invalid issues) ∨
    ∃ message family, fault.message? = some message ∧ fault.family? = some family

/-- A result that is there just for the values that fit; a fault otherwise that is reported. -/
structure Yields {α : Type} (Q : α → Prop) (r : Except Fault α) : Prop where
  ok_iff : ∀ a, r = .ok a ↔ Q a
  reported : ∀ fault, r = .error fault → fault.IsReported

namespace Yields
variable {α β : Type} {Q : α → Prop} {r : Except Fault α} {ctx : Context}

lemma of_error {fault : Fault} (h : ∀ a, ¬ Q a) (hreported : fault.IsReported) :
    Yields Q (.error fault) where
  ok_iff a := ⟨by nofun, fun ha => (h a ha).elim⟩
  reported other h := by cases h; exact hreported

/-- What comes behind a stage is only asked about if the stage succeeds. -/
lemma bind {w : Work α} {f : α → Work β} {R : α → β → Prop} (hw : Yields Q (w.outcome ctx))
    (hf : ∀ a, Q a → Yields (R a) ((f a).outcome (w.context ctx))) :
    Yields (fun b => ∃ a, Q a ∧ R a b) ((w >>= f).outcome ctx) := by
  rw [Work.outcome_bind]
  cases h : w.outcome ctx with
  | error fault =>
    -- The stage gives no value, so no value of it fits, and there is none for the rest to fit.
    refine of_error ?_ (hw.reported fault h)
    rintro b ⟨a, ha, -⟩
    exact absurd (h.symm.trans ((hw.ok_iff a).mpr ha)) (by nofun)
  | ok a =>
    have ha := (hw.ok_iff a).mp h
    have hrest := hf a ha
    refine ⟨fun b => (hrest.ok_iff b).trans ⟨fun hb => ⟨a, ha, hb⟩, ?_⟩, hrest.reported⟩
    rintro ⟨a', ha', hb⟩
    obtain rfl : a = a' := Except.ok.inj (h.symm.trans ((hw.ok_iff a').mpr ha'))
    exact hb

lemma mono {P : α → Prop} (h : Yields Q r) (hiff : ∀ a, Q a ↔ P a) : Yields P r :=
  ⟨fun a => (h.ok_iff a).trans (hiff a), h.reported⟩

end Yields

namespace CommandLine
variable {a : Arguments} {ctx : Context} {payload : Json} {rule : Rule}

/-! ### The stages -/

/-- The graph that the payload of a file makes is compiled, and its rule may be handed in. -/
def Compiles (a : Arguments) (ctx : Context) (payload : Json) (rule : Rule) : Prop :=
  ∃ graph, Graph.ofPayload ctx.settings.maxGraphNodes payload = .ok graph ∧
    ∃ m, metadata a = .valid m ∧ graph.compile m ctx.clock = .ok rule ∧
      rule.Ready ctx.settings.enforceWindow.truthy

/-- The metadata that arguments give have their salience, which is a whole number, and a name of
whole characters. -/
lemma parts_of_metadata {m : RuleMetadata} (h : metadata a = .valid m) :
    Text.holdsHalf m.name = false ∧ ∃ n, a.salience = .int n ∧ m.salience = .int n := by
  simp only [metadata, Checked.seq_eq_valid_iff, Checked.map_eq_valid_iff,
    Checked.under_eq_valid_iff] at h
  obtain ⟨_, _, ⟨_, _, ⟨_, _, ⟨_, _, ⟨_, salience, ⟨name, hname, rfl⟩, hsalience, rfl⟩, -, rfl⟩,
    -, rfl⟩, -, rfl⟩, -, rfl⟩ := h
  unfold unlessEmptied at hname hsalience
  split at hname
  · cases hname
  · split at hsalience
    · cases hsalience
    · constructor
      · obtain ⟨s, -, hcheck⟩ := Checked.andThen_eq_valid_iff.mp hname
        split_ifs at hcheck with hhalf
        · cases hcheck
        · cases hcheck
        · obtain rfl := Checked.valid.inj hcheck
          exact Text.holdsHalf_strip (by simpa using hhalf)
      · obtain ⟨n, hn, hcheck⟩ := Checked.andThen_eq_valid_iff.mp hsalience
        split at hcheck
        · cases hcheck
        · obtain rfl := Checked.valid.inj hcheck
          cases hjson : a.salience <;> simp_all [Check.strictWhole]

/-- What is done with a graph once it is loaded. -/
def compileGraph (a : Arguments) (graph : Graph) : Work Rule := do
  let m ← Work.ofChecked (metadata a)
  let rule ← graph.compileLogged m none
  rule.checkReady none
  pure rule

/-- The log tells of the load first. -/
lemma compile_eq (a : Arguments) (payload : Json) (ctx : Context) :
    compile a payload ctx =
      (Work.ofExcept .ofEdit (Graph.ofPayload ctx.settings.maxGraphNodes payload) >>=
        compileGraph a) { ctx with log := ctx.log ++
          (Graph.load ctx.settings.maxGraphNodes payload).1.map GraphEvent.line } := rfl

/-- What is printed of a rule, if it can be: its document, or the trees of its actions by ids. -/
def document? (a : Arguments) (rule : Rule) : Option Json :=
  if a.tree then rule.trees.toOption.map Rule.treesJson else rule.toJson?

/-- Every action of a rule has a tree. -/
def Resolves (rule : Rule) : Prop := ∀ e ∈ rule.actions, ∃ tree, rule.tree e.id = .ok tree

/-- A document on its way out. -/
def put (document : Json) : Work String := do
  Work.utf8 ((← Work.encode Json.pretty document) ++ "\n")

section
variable {document : Json} {fault : Fault}

end

/-- All that is done before anything is handed over. -/
def stages (a : Arguments) (payload : Json) : Work (Rule × String) := do
  let rule ← compile a payload
  pure (rule, ← printed a rule)

lemma Compiles.createdAt (h : Compiles a ctx payload rule) (hutc : ctx.clock.offset.getD 0 = 0) :
    rule.createdAt.offset.getD 0 = 0 := by
  obtain ⟨graph, -, m, -, hcompile, -⟩ := h
  rw [Graph.createdAt_of_compile hcompile]
  exact hutc

/-- The rule of a tame payload is tame, unless its salience has too many digits. -/
lemma Compiles.tame {limits : Json.Limits} (h : Compiles a ctx payload rule)
    (hlimits : limits.Ample) (hpayload : payload.Everywhere (Json.Tame limits))
    (hsalience : a.salience.Everywhere (Json.InLimit limits.digits)) : rule.Tame limits := by
  obtain ⟨graph, hload, m, hm, hcompile, -⟩ := h
  obtain ⟨hname, n, hgiven, htaken⟩ := parts_of_metadata hm
  refine (Graph.tame_of_ofPayload hlimits hpayload hload).compile
    (Graph.keepsRules_of_ofPayload hload) hlimits hname (fun salience hwhole => ?_) hcompile
  rw [htaken] at hwhole
  rw [hgiven] at hsalience
  obtain rfl : n = salience := Checked.valid.inj hwhole
  exact hsalience

lemma Compiles.shallow (h : Compiles a ctx payload rule) :
    ∀ e ∈ rule.conditions, e.value.depth ≤ 1 := by
  obtain ⟨graph, hload, m, -, hcompile, -⟩ := h
  exact fun e he =>
    ((Graph.keepsRules_of_ofPayload hload).plain_of_compile hcompile e he).shallow

end CommandLine
end Promotion
