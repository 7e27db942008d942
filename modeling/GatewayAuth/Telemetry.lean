import GatewayAuth.Decimal
import GatewayAuth.Sorted
import GatewayAuth.Table

/-!
# `GatewayAuth.Telemetry` — counted events and their exposition as text

## Contents
- `Target`, `Observation`: what is observed: cache hits, remote responses, failed creations of backends.
- `statusBucket`: status codes by class, so that the number of series stays small.
- `exposition`: the lines of all counters after a list of events.
-/

namespace GatewayAuth

/-- The remote party that a response came from. -/
inductive Target where
  | system
  | backend
  deriving DecidableEq, Repr

/-- The label of a target. -/
def Target.label : Target → String
  | system => "system"
  | backend => "backend"

/-- One observed event. -/
inductive Observation where
  | cacheHit
  | response (target : Target) (endpoint : String) (status : Nat)
  | creationFailed (destination : String)
  deriving DecidableEq, Repr

namespace Telemetry

/-- The class of a status code. -/
def statusBucket (status : Nat) : String :=
  if 200 ≤ status ∧ status ≤ 299 then "2xx"
  else if 300 ≤ status ∧ status ≤ 399 then "3xx"
  else if 400 ≤ status ∧ status ≤ 499 then "4xx"
  else if 500 ≤ status ∧ status ≤ 599 then "5xx"
  else "other"

/-- A counter: its name and its labels in order. -/
structure Series where
  name : String
  labels : List (String × String)
  deriving DecidableEq, Repr

/-- The series that an event counts in. -/
def seriesOf : Observation → List Series
  | .cacheHit => [⟨"authorizer_cache_hits_total", [("cache", "system")]⟩]
  | .response target endpoint status =>
    let labels := [("target", target.label), ("endpoint", endpoint)]
    [⟨"authorizer_remote_responses_total", labels ++ [("status", statusBucket status)]⟩,
      ⟨"authorizer_remote_response_duration_seconds_count", labels⟩]
  | .creationFailed destination =>
    [⟨"authorizer_backend_creation_failures_total", [("destination", destination)]⟩]

/-- The counts of all series after a list of events. -/
def counts (events : List Observation) : Table Series Nat :=
  (events.flatMap seriesOf).foldl (fun t s => t.alter s fun n => n.getD 0 + 1) .empty

/-- How a character stands in a label's value. -/
def labelChar : Char → List Char
  | '\\' => ['\\', '\\']
  | '"' => ['\\', '"']
  | '\n' => ['\\', 'n']
  | c => [c]

/-- A label with its value in quotes. -/
def labelText (label : String × String) : String :=
  label.1 ++ "=\"" ++ String.ofList (label.2.toList.flatMap labelChar) ++ "\""

/-- The line of a series. -/
def line (s : Series) (n : Nat) : String :=
  s.name ++ "\x7b" ++ ",".intercalate (s.labels.map labelText) ++ "\x7d " ++ Decimal.ofNat n

/-- The lines of all series in text order. -/
def exposition (events : List Observation) : List String :=
  Sorted.sortTexts ((counts events).toList.map fun e => line e.1 e.2)

end Telemetry

end GatewayAuth
