import GatewayAuth.Error
import GatewayAuth.Redaction
import GatewayAuth.Text.Quoted
import GatewayAuth.Wire

/-!
# `GatewayAuth.Manager.Request` — what a gateway asks of its manager

## Contents
- `ConfigRequest`: which configuration is wanted, with the token that gives access to it.
- `AuthRequest`: who wants to use how much of a service; `AuthRequest.toWire` is its wire form.
- `AuthResponse.ofWire`: the answer to it.
-/

namespace GatewayAuth

/-! ## Configurations -/

/-- Which configuration is wanted. -/
structure ConfigRequest where
  accessToken : String
  service : String
  environment : String
  deriving DecidableEq, Repr, Inhabited

namespace ConfigRequest

/-- The names of the fields that are missing. -/
def missing (r : ConfigRequest) : List String :=
  ([("access token", r.accessToken), ("service id", r.service),
    ("environment", r.environment)].filter fun e => e.2 = "").map (·.1)

/-- All three fields are required; white space counts as content. -/
def validate (r : ConfigRequest) : Except AuthorizerError Unit :=
  if r.missing.isEmpty then .ok ()
  else .error (.invalidRequest ("missing " ++ ", ".intercalate r.missing))

/-- A request as diagnostics show it, with the token masked. -/
def describe (r : ConfigRequest) : String :=
  "SystemRequest \x7b access_token: " ++ Text.quote (Redaction.mask r.accessToken) ++
    ", service_id: " ++ Text.quote r.service ++
    ", environment: " ++ Text.quote r.environment ++ " \x7d"

/-- A request is accepted just if no field is empty. -/
theorem validate_eq_ok_iff {r : ConfigRequest} :
    r.validate = .ok () ↔ r.accessToken ≠ "" ∧ r.service ≠ "" ∧ r.environment ≠ "" := by
  unfold validate missing
  by_cases h1 : r.accessToken = "" <;> by_cases h2 : r.service = "" <;>
    by_cases h3 : r.environment = "" <;> simp [h1, h2, h3]

end ConfigRequest

/-! ## Authorizations -/

/-- Who wants to use how much of a service. -/
structure AuthRequest where
  credential : Credential
  service : String
  transactions : List Transaction
  deriving DecidableEq, Repr, Inhabited

/-- The wire form of a request: its first transaction, and the wish to be told the code of a rejection. -/
def AuthRequest.toWire (r : AuthRequest) : Except AuthorizerError Wire.Request :=
  match r.transactions with
  | [] => .error .emptyTransaction
  | first :: _ =>
    .ok ⟨r.credential, r.service, [first], Table.empty.insert Wire.rejectionReasonExtension "1"⟩

/-- The answer that a caller gets. -/
def AuthResponse.ofWire (r : Wire.Response) : AuthResponse :=
  ⟨r.authorized, r.errorCode, r.rejectionReason, r.raw⟩

/-- The outcome of a backend call as the outcome for the caller: a failure carries a response that never
authorizes, with the body if there was one. -/
def AuthResponse.ofCall : Except BackendError Wire.Response → Except AuthorizerError AuthResponse
  | .ok r => .ok (.ofWire r)
  | .error e => .error (.backendCall e ⟨false, none, none, e.raw?⟩)

end GatewayAuth
