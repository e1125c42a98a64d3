import Promotion.Check.Field

/-! Connections: links from an output of one node to an input of another. -/
namespace Promotion

structure Connection where
  source : String
  output : String
  target : String
  input : String
  deriving DecidableEq, Repr

namespace Connection

def fields (c : Connection) : Fields :=
  [("source", .str c.source), ("source_output", .str c.output), ("target", .str c.target),
    ("target_input", .str c.input)]

def payload (c : Connection) : Json := .obj c.fields

def ofFields (fields : Fields) : Checked Connection :=
  Connection.mk
    <$> Check.required fields "source" Check.text
    <*> Check.required fields "source_output" Check.text
    <*> Check.required fields "target" Check.text
    <*> Check.required fields "target_input" Check.text

/-- A connection from data; further fields are left aside. -/
def ofJson : Json → Checked Connection := Check.model ofFields

/-- A connection from four values, each of which has to be text. -/
def ofValues (source output target input : Json) : Checked Connection :=
  ofFields [("source", source), ("source_output", output), ("target", target),
    ("target_input", input)]

@[simp] theorem ofJson_payload (c : Connection) : ofJson c.payload = .valid c := rfl

end Connection
end Promotion
