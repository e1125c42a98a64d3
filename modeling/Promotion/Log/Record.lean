import Promotion.Calendar.Count
import Promotion.Log.Line
import Promotion.Log.Template

/-! Log records, and their form as one line of JSON. -/
namespace Promotion

/-- What goes into the placeholders of a message: several values, or one that stands for itself. -/
inductive LogArguments where
  | several (values : List Json)
  | single (value : Json)

/-- Why a record has no line. -/
inductive LogFault where
  | notATime
  | time (fault : CountFault)
  | blocked
  | message (template : String) (fault : TemplateFault)
  | unwritable (fault : Json.WriteFault)
  | namelessFailure
  | failureWithoutParts
  | failureWithoutOrder
  | failureCutShort
  deriving DecidableEq, Repr

/-- The failure that a record tells of: its type and message, or a value in its place. -/
inductive LogFailure where
  | none
  | raised (type message : Json)
  | nameless (value : Json)
  | unusable (fault : LogFault)

namespace LogFailure

/-- The failure that a value stands for. Only a list has parts in order, and its first has to be
empty because a value has no name. -/
def ofJson (value : Json) : LogFailure :=
  if !value.truthy then .none
  else match value with
    | .arr (type :: parts) =>
      if type.truthy then .unusable .namelessFailure
      else match parts with
        | [] => .unusable .failureCutShort
        | value :: _ => .nameless value
    | .str _ => .unusable .namelessFailure
    | .obj _ => .unusable .failureWithoutOrder
    | _ => .unusable .failureWithoutParts

end LogFailure

structure LogRecord where
  level : Json
  logger : Json
  message : Json
  arguments : LogArguments
  created : Json
  failure : LogFailure
  file : Json
  line : Json
  function : Json
  /-- Whether something stands in the place of the way to make the message. -/
  blocked : Bool
  extra : Fields

namespace LogArguments

/-- The values for a message; a single object that is not empty stands for itself. -/
def ofList : List Json → LogArguments
  | [.obj (field :: fields)] => .single (.obj (field :: fields))
  | values => .several values

/-- Whether there is nothing to put in. -/
def isEmpty : LogArguments → Bool
  | several values => values.isEmpty
  | single value => !value.truthy

/-- The values for placeholders; those that are an array or object by themselves can be looked up
in it. -/
def supply : LogArguments → Supply
  | several values => ⟨values, none⟩
  | single (.arr items) => ⟨[.arr items], some (.arr items)⟩
  | single (.obj fields) => ⟨[.obj fields], some (.obj fields)⟩
  | single value => ⟨[value], none⟩

end LogArguments

namespace LogRecord

/-- The text of a value as it stands. -/
def plainText (limits : Json.Limits) (value : Json) : Except LogFault String :=
  (value.textWithin limits Json.plain).mapError .unwritable

/-- The message with its values put in. Without values its placeholders stay. -/
def messageText (r : LogRecord) (limits : Json.Limits) : Except LogFault String := do
  if r.blocked then throw .blocked
  let template ← plainText limits r.message
  if r.arguments.isEmpty then pure template
  else (Piece.fillAll limits template r.arguments.supply).mapError (.message template)

/-- The microseconds of a number of seconds; truth values count as numbers. -/
def micros? : Json → Except LogFault Int
  | .int n => .ok (n * 1000000)
  | .bool b => .ok (if b then 1000000 else 0)
  | .float x => if x.isFinite then .ok (Calendar.microsOfSeconds x) else .error (.time .tooLarge)
  | _ => .error .notATime

def timeText (r : LogRecord) : Except LogFault String := do
  let micros ← micros? r.created
  match Calendar.timeOfMicros micros with
  | .ok t => pure t.logText
  | .error fault => .error (.time fault)

/-- The part of the line that tells of a failure. -/
def failureFields (r : LogRecord) (limits : Json.Limits) : Except LogFault Fields :=
  let field (type message : Json) : Fields :=
    [("exception", .obj [("type", type), ("message", message)])]
  match r.failure with
  | .none => .ok []
  | .raised type message => .ok (field type message)
  | .nameless value =>
    if value.truthy then do pure (field .null (.str (← plainText limits value)))
    else .ok (field .null .null)
  | .unusable fault => .error fault

/-- The fields of the line of a record, in order. -/
def fields (r : LogRecord) (limits : Json.Limits) (requestId : Json) : Except LogFault Fields := do
  let time ← r.timeText
  let message ← r.messageText limits
  let failure ← r.failureFields limits
  pure ([("timestamp", .str time), ("level", r.level), ("logger", r.logger),
      ("message", .str message)] ++
    (if requestId.truthy then [("request_id", requestId)] else []) ++ failure ++
    [("file", r.file), ("line", r.line), ("function", r.function)] ++
    (if r.extra.isEmpty then [] else [("extra", .obj r.extra)]))

/-- A record as one line of JSON. -/
def jsonLine (r : LogRecord) (limits : Json.Limits) (requestId : Json) :
    Except LogFault String := do
  let fields ← r.fields limits requestId
  ((Json.obj fields).textWithin limits fun x => String.ofList (x.write .line)).mapError .unwritable

/-- The names that belong to a record and never stand among its further attributes. -/
def reserved : List String :=
  ["name", "msg", "args", "levelname", "levelno", "pathname", "filename", "module", "lineno",
    "funcName", "created", "msecs", "relativeCreated", "thread", "threadName", "processName",
    "process", "taskName", "getMessage", "exc_info", "exc_text", "stack_info"]

/-- Sets an attribute. The names of a record's own parts set these parts. -/
def set (r : LogRecord) (name : String) (value : Json) : LogRecord :=
  match name with
  | "levelname" => { r with level := value }
  | "name" => { r with logger := value }
  | "msg" => { r with message := value }
  | "args" => { r with arguments := .single value }
  | "created" => { r with created := value }
  | "pathname" => { r with file := value }
  | "lineno" => { r with line := value }
  | "funcName" => { r with function := value }
  | "getMessage" => { r with blocked := true }
  | "exc_info" => { r with failure := .ofJson value }
  | name => if reserved.contains name then r else { r with extra := r.extra.put name value }

end LogRecord
end Promotion
