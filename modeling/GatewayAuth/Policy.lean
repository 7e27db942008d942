import GatewayAuth.Error

/-!
# `GatewayAuth.Policy` — what a buffered backend answers during an outage

Closed: the failure reaches the caller. Open: an unavailable backend authorizes the request, and its usage is
buffered. A denial is an answer and no outage, so no policy overrides it.
-/

namespace GatewayAuth

/-- The policy for outages. -/
inductive FailurePolicy where
  | opened
  | closed
  deriving DecidableEq, Repr, Inhabited

namespace FailurePolicy

/-- The name of a policy, as settings give it. -/
def name : FailurePolicy → String
  | opened => "open"
  | closed => "closed"

/-- The policy with the given name. -/
def ofName? (s : String) : Option FailurePolicy :=
  if s = "open" then some opened else if s = "closed" then some closed else none

/-- Whether the policy authorizes a request whose call failed with `e`. -/
def allows : FailurePolicy → BackendError → Bool
  | closed, _ => false
  | opened, e => e.isUnavailable

/-- Each policy is found by its name. -/
theorem ofName?_name (p : FailurePolicy) : ofName? p.name = some p := by
  cases p <;> decide

theorem allows_eq_true_iff {p : FailurePolicy} {e : BackendError} :
    p.allows e = true ↔ p = opened ∧ e.isUnavailable = true := by
  cases p <;> simp [allows]

end FailurePolicy

end GatewayAuth
