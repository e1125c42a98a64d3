import Promotion.Graph.Connection

/-! Which nodes can be reached along connections. Every connection is followed once at most. -/
namespace Promotion.Connection

/-- The connections that start at a node. -/
def leaving (id : String) (connections : List Connection) : List Connection :=
  connections.filter fun c => c.source == id

/-- The connections that start elsewhere. -/
def elsewhere (id : String) (connections : List Connection) : List Connection :=
  connections.filter fun c => !(c.source == id)

theorem length_leaving_add_length_elsewhere (id : String) (connections : List Connection) :
    (leaving id connections).length + (elsewhere id connections).length = connections.length := by
  induction connections with
  | nil => rfl
  | cons c cs ih =>
    simp only [leaving, elsewhere] at ih
    by_cases h : c.source == id <;> simp [leaving, elsewhere, h] <;> omega

/-- Searches for a goal from pending ids, along connections that were not followed yet. -/
def search (goal : String) : (pending : List String) → (untried : List Connection) → Bool
  | [], _ => false
  | id :: pending, untried =>
    if id = goal then true
    else search goal ((leaving id untried).map target ++ pending) (elsewhere id untried)
termination_by pending untried => pending.length + untried.length
decreasing_by
  have := length_leaving_add_length_elsewhere id untried
  simp only [List.length_append, List.length_map, List.length_cons]
  omega

/-- Whether there is a way from one id to another along connections; no step is a way too. -/
def reaches (connections : List Connection) (start goal : String) : Bool :=
  search goal [start] connections

end Promotion.Connection
