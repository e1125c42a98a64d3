import Promotion.Client.Endpoint

/-! Counts of what was done: compilations, the sizes of the graphs compiled, and requests. -/
namespace Promotion

structure Metrics where
  compiled : Nat
  failed : Nat
  nodeCounts : List Nat
  calls : List (Endpoint × Outcome)
  deriving DecidableEq, Repr

namespace Metrics

def fresh : Metrics := ⟨0, 0, [], []⟩

/-- A graph with a number of nodes was compiled. -/
def countCompiled (m : Metrics) (nodes : Nat) : Metrics :=
  { m with compiled := m.compiled + 1, nodeCounts := m.nodeCounts ++ [nodes] }

/-- A graph was not compiled. -/
def countFailed (m : Metrics) : Metrics := { m with failed := m.failed + 1 }

/-- A request was made. -/
def countCall (m : Metrics) (endpoint : Endpoint) (outcome : Outcome) : Metrics :=
  { m with calls := m.calls ++ [(endpoint, outcome)] }

/-- The sizes up to which graphs are counted together. -/
def sizeBounds : List Nat := [1, 2, 5, 10, 25, 50, 100, 250, 500]

def compilations (m : Metrics) : List (String × Nat) :=
  [("promo_compiler_compilations_total\x7bstatus=success\x7d", m.compiled),
    ("promo_compiler_compilations_total\x7bstatus=error\x7d", m.failed),
    ("promo_compiler_duration_seconds_count\x7b\x7d", m.compiled + m.failed)]

def sizes (m : Metrics) : List (String × Nat) :=
  (sizeBounds.map fun bound =>
    ("promo_compiler_nodes_count_bucket\x7ble=" ++ toString bound ++ ".0\x7d",
      (m.nodeCounts.filter (· ≤ bound)).length)) ++
  [("promo_compiler_nodes_count_bucket\x7ble=+Inf\x7d", m.nodeCounts.length),
    ("promo_compiler_nodes_count_count\x7b\x7d", m.nodeCounts.length),
    ("promo_compiler_nodes_count_sum\x7b\x7d", m.nodeCounts.foldr (· + ·) 0)]

def callLabels (endpoint : Endpoint) : String :=
  "endpoint=" ++ endpoint.word ++ ",method=" ++ endpoint.method.word

def requests (m : Metrics) : List (String × Nat) :=
  Endpoint.all.flatMap fun endpoint =>
    ("promo_api_request_duration_seconds_count\x7b" ++ callLabels endpoint ++ "\x7d",
      (m.calls.filter fun call => call.1 = endpoint).length) ::
    Outcome.all.map fun outcome =>
      ("promo_api_requests_total\x7b" ++ callLabels endpoint ++ ",outcome=" ++ outcome.word ++
        "\x7d", m.calls.count (endpoint, outcome))

/-- All samples that are not zero. -/
def samples (m : Metrics) : List (String × Nat) :=
  (m.compilations ++ m.sizes ++ m.requests).filter fun sample => sample.2 != 0

end Metrics
end Promotion
