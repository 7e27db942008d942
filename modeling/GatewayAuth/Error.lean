import GatewayAuth.Decimal

/-!
# `GatewayAuth.Error` — causes of failure and their wording

## Contents
- `BackendError`, `SystemError`: why a call on a backend or on a control plane did not succeed.
- `AuthorizerError`: why a call on the manager failed, with the cause inside.
- `message`: the wording of each; `phase`: the label under which a failure is counted.
-/

namespace GatewayAuth

/-! ## Backend calls -/

/-- Why a call on a backend failed. -/
inductive BackendError where
  /-- No response came back. -/
  | transport (text : String)
  /-- A response with an undocumented status; the body is kept if it could be read. -/
  | unexpectedStatus (status : Nat) (raw : Option String)
  /-- The request has no wire form. -/
  | invalidRequest (text : String)
  deriving DecidableEq, Repr

namespace BackendError

/-- The wording of a backend error. -/
def message : BackendError → String
  | transport text => "Transport error: " ++ text
  | unexpectedStatus status _ => "Unexpected status " ++ Decimal.ofNat status ++ " from backend"
  | invalidRequest text => "Invalid backend request: " ++ text

/-- The body that came with the failure. -/
def raw? : BackendError → Option String
  | unexpectedStatus _ raw => raw
  | _ => none

/-- Whether the backend could not answer at all. -/
def isUnavailable : BackendError → Bool
  | transport _ => true
  | unexpectedStatus status _ => 500 ≤ status
  | invalidRequest _ => false

end BackendError

/-! ## Control-plane calls -/

/-- Why a configuration could not be fetched. -/
inductive SystemError where
  /-- No response came back. -/
  | transport (text : String)
  /-- A response without success; the body is kept for diagnosis. -/
  | unexpectedStatus (status : Nat) (body : String)
  /-- The body is no proxy configuration. -/
  | decode (text : String)
  deriving DecidableEq, Repr

/-- The wording of a control-plane error. -/
def SystemError.message : SystemError → String
  | transport text => "Transport error: " ++ text
  | unexpectedStatus status _ => "Unexpected status " ++ Decimal.ofNat status ++ " from control plane"
  | decode text => "Decode error: " ++ text

/-- What a configuration was fetched for. -/
inductive FetchPhase where
  /-- To answer a request, without a cache. -/
  | remote
  /-- To answer a request that missed the cache. -/
  | cacheFill
  /-- To renew an entry of the cache. -/
  | refresh
  deriving DecidableEq, Repr

/-- The label of a phase. -/
def FetchPhase.label : FetchPhase → String
  | remote => "remote_fetch"
  | cacheFill => "cache_fill"
  | refresh => "refresh"

/-! ## Manager calls -/

/-- The answer to an authorization, as the manager gives it. -/
structure AuthResponse where
  authorized : Bool
  errorCode : Option String
  rejectedReason : Option String
  raw : Option String
  deriving DecidableEq, Repr

instance : Inhabited AuthResponse := ⟨⟨false, none, none, none⟩⟩

/-- Why a call on the manager failed. -/
inductive AuthorizerError where
  | invalidRequest (text : String)
  | emptyTransaction
  | remoteFetch (phase : FetchPhase) (source : SystemError)
  /-- A failed backend call, with what is known of the answer. -/
  | backendCall (source : BackendError) (response : AuthResponse)
  | backendCreation (destination reason : String)
  | clientBuild (target reason : String)
  | config (text : String)
  deriving DecidableEq, Repr

namespace AuthorizerError

/-- The wording of a failure. -/
def message : AuthorizerError → String
  | invalidRequest text => "Invalid request: " ++ text
  | emptyTransaction => "Cannot process empty transaction"
  | remoteFetch phase source =>
    "Cannot get system config (" ++ phase.label ++ "): " ++ source.message
  | backendCall source _ => "Error calling AuthRep: " ++ source.message
  | backendCreation destination reason =>
    "Unable to create cached backend for " ++ destination ++ ": " ++ reason
  | clientBuild target reason => "Unable to build client for " ++ target ++ ": " ++ reason
  | config text => "Configuration error: " ++ text

/-- The label of the phase in which a call failed. -/
def phase : AuthorizerError → String
  | invalidRequest _ => "validation"
  | emptyTransaction => "translation"
  | remoteFetch phase _ => phase.label
  | backendCall _ _ => "backend_call"
  | backendCreation _ _ => "backend_creation"
  | clientBuild _ _ => "client_build"
  | config _ => "config"

/-- The wording of the cause, where there is one. -/
def cause? : AuthorizerError → Option String
  | remoteFetch _ source => some source.message
  | backendCall source _ => some source.message
  | _ => none

end AuthorizerError

end GatewayAuth
