import Promotion.Client.Fault
import Promotion.Graph.Fault
import Promotion.Rule.Compiler
import Promotion.Rule.Readiness
import Promotion.Rule.Tree

/-! All ways in which work on a rule fails, and the families they belong to. -/
namespace Promotion

/-- The families of faults that the author of a rule can do something about. -/
inductive FaultFamily where
  | any
  | graph
  | duplicateId
  | unknownNode
  | socketMismatch
  | socketOccupied
  | cycle
  | graphLimit
  | compilation
  | unknownKind
  | incompleteGraph
  | readiness
  | noConditions
  | noActions
  | validityWindow
  | api
  deriving DecidableEq, Repr

namespace FaultFamily

/-- The next wider family. -/
def parent? : FaultFamily → Option FaultFamily
  | .any => none
  | .graph => some .any
  | .duplicateId => some .graph
  | .unknownNode => some .graph
  | .socketMismatch => some .graph
  | .socketOccupied => some .socketMismatch
  | .cycle => some .graph
  | .graphLimit => some .graph
  | .compilation => some .any
  | .unknownKind => some .compilation
  | .incompleteGraph => some .compilation
  | .readiness => some .any
  | .noConditions => some .readiness
  | .noActions => some .readiness
  | .validityWindow => some .readiness
  | .api => some .any

def depth : FaultFamily → Nat
  | .any => 0
  | .graph => 1
  | .compilation => 1
  | .readiness => 1
  | .api => 1
  | .socketOccupied => 3
  | _ => 2

theorem depth_parent {f p : FaultFamily} (h : f.parent? = some p) : p.depth < f.depth := by
  cases f <;> simp [parent?] at h <;> subst h <;> decide

/-- A family and all wider ones, the nearest first. -/
def lineage (f : FaultFamily) : List FaultFamily :=
  match _h : f.parent? with
  | none => [f]
  | some p => f :: p.lineage
termination_by f.depth
decreasing_by exact depth_parent (by assumption)

end FaultFamily

namespace GraphFault

def family : GraphFault → FaultFamily
  | .duplicateId _ => .duplicateId
  | .full .. => .graphLimit
  | .unknownNode _ => .unknownNode
  | .unknownEndpoint .. => .unknownNode
  | .unknownKind .. => .unknownKind
  | .noOutput .. => .socketMismatch
  | .noInput .. => .socketMismatch
  | .occupied .. => .socketOccupied
  | .cycle .. => .cycle
  | .fixedFields .. => .graph
  | .noConnection _ => .graph
  | .malformedPayload _ => .graph
  | .noOutputSocket _ => .socketMismatch
  | .noFreeInput .. => .socketMismatch

end GraphFault

/-- Why a piece of work on a rule fails. -/
inductive Fault where
  | graph (fault : GraphFault)
  | unknownType (id kind subtype : Json)
  | tree (fault : TreeFault)
  | readiness (fault : ReadinessFault)
  | api (fault : ApiFault)
  | invalid (issues : List Issue)
  | notANode (typeName : String)
  | unknownSubtype (value : Json) (kind : Kind)
  | fixedField (name : String)
  | noSuchSetter
  | missingField
  | missingSubtype
  | unusableSubtype
  | noKey
  | noNumber
  | reservedName
  | unknownSetting (name : String)
  | unwritableTime
  | request (fault : RequestFault)
  /-- A value is nested too deep to be read or written. -/
  | tooDeep
  /-- A whole number has too many digits to be written. -/
  | tooManyDigits
  /-- A text with half of a pair on its own is printed or sent. -/
  | strayHalf
  deriving DecidableEq

namespace Fault

def ofEdit : EditFault → Fault
  | .graph fault => .graph fault
  | .invalid issues => .invalid issues
  | .noKey => .noKey
  | .noNumber => .noNumber
  | .reservedName => .reservedName

def ofAssembly : AssemblyFault → Fault
  | .noId => .missingField
  | .noKey => .noKey
  | .noSubtype => .missingSubtype
  | .unknownSubtype value kind => .unknownSubtype value kind

def ofNode : NodeFault → Fault
  | .reservedName => .reservedName
  | .fixedField name => .fixedField name
  | .noSuchSetter => .noSuchSetter
  | .invalid issues => .invalid issues

def ofCompile : CompileFault → Fault
  | .unknownType id kind subtype => .unknownType id kind subtype
  | .unusableSubtype => .unusableSubtype
  | .missingField => .missingField
  | .invalid issues => .invalid issues

def ofWrite : Json.WriteFault → Fault
  | .tooDeep => .tooDeep
  | .tooManyDigits => .tooManyDigits

/-- The family of a fault, if it belongs to one. -/
def family? : Fault → Option FaultFamily
  | .graph fault => some fault.family
  | .unknownType .. => some .unknownKind
  | .tree fault => some (if fault.isIncomplete then .incompleteGraph else .compilation)
  | .readiness (.noConditions _) => some .noConditions
  | .readiness (.noActions _) => some .noActions
  | .readiness (.windowInverted ..) => some .validityWindow
  | .api _ => some .api
  | _ => none

/-- The word for a kind in the name of its closed list of subtypes. -/
def subtypeList : Kind → String
  | .condition => "ConditionSubtype"
  | .action => "ActionSubtype"
  | .logical => "LogicalSubtype"

/-- The words of a fault, if it has any. -/
def message? : Fault → Option Json
  | .graph fault => some (.str fault.message)
  | .unknownType id kind subtype =>
    some (.str (s!"Node '{id.plain}' has an unrecognized type ({kind.plain}/{subtype.plain}); " ++
      "the rule was not compiled"))
  | .tree fault => some (.str fault.message)
  | .readiness fault => some (.str fault.message)
  | .api fault => some fault.message
  | .notANode typeName => some (.str s!"Expected a RuleNode, got {typeName}")
  | .unknownSubtype value kind =>
    some (.str s!"{value.shown} is not a valid {subtypeList kind}")
  | .fixedField name => some (.str s!"Node '{name}' cannot be changed")
  | .unknownSetting name => some (.str s!"\"Settings\" object has no field \"{name}\"")
  | .request fault => fault.message?.map .str
  | .tooManyDigits => Json.WriteFault.tooManyDigits.message?.map .str
  | _ => none

/-- What goes with the words of a fault. -/
def details : Fault → Fields
  | .graph fault => fault.details
  | .unknownType id kind subtype =>
    [("node_id", id), ("kind", kind), ("subtype", subtype)]
  | .tree fault => fault.details
  | .readiness fault => fault.details
  | .api fault => fault.details
  | _ => []

/-- The issues with the data that a fault is about. -/
def issues : Fault → List Issue
  | .invalid issues => issues
  | .api fault => fault.issues
  | _ => []

end Fault
end Promotion
