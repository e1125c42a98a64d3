import Promotion.Rule.Basic
import Promotion.Json.Shown
import Promotion.Text.Letter

/-! Condition trees: what has to hold for an action of a compiled rule. -/
namespace Promotion

inductive ConditionTree where
  | leaf (type : ConditionType) (operator : String) (value : Json)
  | gate (type : LogicalSubtype) (parts : List ConditionTree)

namespace ConditionTree

mutual
def toJson : ConditionTree → Json
  | .leaf type operator value =>
    .obj [("type", .str type.word), ("operator", .str operator), ("value", value)]
  | .gate type parts => .obj [(type.word, .arr (partsToJson parts))]

def partsToJson : List ConditionTree → List Json
  | [] => []
  | t :: ts => t.toJson :: partsToJson ts
end

mutual
/-- The truth of a tree, given the truth of its leaves. -/
def holds (leafHolds : ConditionType → String → Json → Bool) : ConditionTree → Bool
  | .leaf type operator value => leafHolds type operator value
  | .gate .and parts => allHold leafHolds parts
  | .gate .or parts => anyHolds leafHolds parts

def allHold (leafHolds : ConditionType → String → Json → Bool) : List ConditionTree → Bool
  | [] => true
  | t :: ts => t.holds leafHolds && allHold leafHolds ts

def anyHolds (leafHolds : ConditionType → String → Json → Bool) : List ConditionTree → Bool
  | [] => false
  | t :: ts => t.holds leafHolds || anyHolds leafHolds ts
end

end ConditionTree

/-- Why the conditions of an action make no tree. -/
inductive TreeFault where
  | unknownAction (id ruleName : String)
  | noConditions (action : String)
  | loop (id : String) (path : List String)
  | notACondition (id : String) (path : List String)
  | unconnected (type : LogicalSubtype) (id socket : String)
  deriving DecidableEq, Repr

namespace TreeFault

def message : TreeFault → String
  | .unknownAction id ruleName =>
    s!"Action '{id}' does not exist in rule {Text.quoted ruleName}"
  | .noConditions action => s!"Action '{action}' has no conditions to apply to"
  | .loop id _ => s!"Connections loop back through node '{id}'"
  | .notACondition id _ => s!"Node '{id}' cannot feed a condition input"
  | .unconnected type id socket =>
    s!"Input '{socket}' of {Text.upper type.word} node '{id}' is not connected"

def details : TreeFault → Fields
  | .unknownAction id _ => [("action_id", .str id)]
  | .noConditions action => [("action_id", .str action)]
  | .loop id path => [("path", Json.strings (path ++ [id]))]
  | .notACondition id path => [("node_id", .str id), ("path", Json.strings path)]
  | .unconnected _ id socket => [("node_id", .str id), ("socket", .str socket)]

/-- Whether the rule is unfinished rather than wrong. -/
def isIncomplete : TreeFault → Bool
  | .noConditions _ => true
  | .unconnected .. => true
  | _ => false

end TreeFault

namespace ConditionEntry

def leaf (e : ConditionEntry) : ConditionTree := .leaf e.type e.operator e.value

end ConditionEntry

namespace Rule

/-- The last element of a list that satisfies a test. -/
def lastWith? {α : Type} (p : α → Bool) (xs : List α) : Option α := xs.reverse.find? p

/-- The condition with an id; of several the last one. -/
def condition? (r : Rule) (id : String) : Option ConditionEntry :=
  lastWith? (fun e => e.id == id) r.conditions

/-- The logical node with an id; of several the last one. -/
def logical? (r : Rule) (id : String) : Option LogicalEntry :=
  lastWith? (fun e => e.id == id) r.logicals

/-- What feeds an input; of several links the last one. -/
def source? (r : Rule) (target input : String) : Option String :=
  (lastWith? (fun l => l.target == target && l.input == input) r.links).map Link.source

/-- The logical nodes that are not on a path. -/
def logicalsOff (r : Rule) (path : List String) : List LogicalEntry :=
  r.logicals.filter fun e => !path.contains e.id

theorem logical?_mem {r : Rule} {id : String} {e : LogicalEntry} (h : r.logical? id = some e) :
    e ∈ r.logicals ∧ e.id = id := by
  unfold logical? lastWith? at h
  exact ⟨by simpa using List.mem_of_find?_eq_some h, by simpa using List.find?_some h⟩

theorem length_logicalsOff_lt {r : Rule} {id : String} {path : List String} {e : LogicalEntry}
    (h : r.logical? id = some e) (hid : id ∉ path) :
    (r.logicalsOff (path ++ [id])).length < (r.logicalsOff path).length := by
  obtain ⟨hmem, rfl⟩ := logical?_mem h
  have hsub : r.logicalsOff (path ++ [e.id]) =
      (r.logicalsOff path).filter fun x => x.id != e.id := by
    unfold logicalsOff
    rw [List.filter_filter]
    congr 1
    funext x
    simp only [List.contains_eq_mem, List.mem_append, List.mem_singleton]
    by_cases h1 : x.id ∈ path <;> by_cases h2 : x.id = e.id <;> simp [h1, h2]
  rw [hsub]
  refine Nat.lt_of_le_of_ne (List.length_filter_le _ _) fun heq => ?_
  have hall := List.length_filter_eq_length_iff.1 heq
  have := hall e (by simp [logicalsOff, hmem, hid])
  simp at this

/-- The tree behind a node, reached along a path of ids. A logical node has its input `a` resolved
before its input `b`. -/
def resolve (r : Rule) (path : List String) (id : String) : Except TreeFault ConditionTree :=
  if _hpath : id ∈ path then .error (.loop id path)
  else
    match r.condition? id with
    | some e => .ok e.leaf
    | none =>
      match _hlogical : r.logical? id with
      | none => .error (.notACondition id path)
      | some e =>
        match r.source? id "a" with
        | none => .error (.unconnected e.type id "a")
        | some a =>
          match r.resolve (path ++ [id]) a with
          | .error fault => .error fault
          | .ok first =>
            match r.source? id "b" with
            | none => .error (.unconnected e.type id "b")
            | some b =>
              match r.resolve (path ++ [id]) b with
              | .error fault => .error fault
              | .ok second => .ok (.gate e.type [first, second])
termination_by (r.logicalsOff path).length
decreasing_by
  all_goals exact length_logicalsOff_lt (by assumption) (by assumption)

/-- The tree of an action. An action that nothing feeds applies when all conditions of the rule
hold. -/
def tree (r : Rule) (action : String) : Except TreeFault ConditionTree :=
  if r.actions.any fun e => e.id == action then
    match r.source? action "condition" with
    | some source => r.resolve [action] source
    | none =>
      match r.conditions with
      | [] => .error (.noConditions action)
      | conditions => .ok (.gate .and (conditions.map ConditionEntry.leaf))
  else .error (.unknownAction action r.name)

/-- The ids of the actions in order, each once. -/
def actionIds (r : Rule) : List String :=
  (r.actions.map ActionEntry.id).foldl
    (fun ids id => if ids.contains id then ids else ids ++ [id]) []

/-- The trees of all actions. -/
def trees (r : Rule) : Except TreeFault (List (String × ConditionTree)) :=
  r.actionIds.mapM fun id => do pure (id, ← r.tree id)

/-- The trees as one object by the ids of their actions. -/
def treesJson (trees : List (String × ConditionTree)) : Json :=
  .obj (trees.map fun (id, tree) => (id, tree.toJson))

end Rule
end Promotion
