import GatewayAuth.Http.Backend
import GatewayAuth.Http.System
import GatewayAuth.Remote

/-!
# `GatewayAuth.Http.Remote` — what a manager asks for, over HTTP

## Contents
- `build`: whether a client can be had.
- `check`, `reportTo`, `fetch`: single calls over a connection, with what is observed of them.
- `messageOf`, `inputOf`, `observationsOf`: the request of any call of a manager, what its outcome means, and
  what is observed of it.
- `perform`: a call from its request to its end.
-/

namespace GatewayAuth.Http

/-- Build a client. For a buffered backend the reason names the destination. -/
def build : Client → Except AuthorizerError Unit
  | .system location token => (SystemClient.ofLocation location token).map fun _ => ()
  | .direct destination => (BackendClient.ofDestination destination).map fun _ => ()
  | .buffered destination =>
    match BackendClient.ofDestination destination with
    | .ok _ => .ok ()
    | .error e => .error (.backendCreation destination e.message)

/-! ## Single calls -/

/-- Check limits. -/
def check (connection : Connection) (client : BackendClient) (kind : QueryKind)
    (request : Wire.Request) : Except BackendError Wire.Response × List Observation :=
  match client.query? kind request with
  | .error e => (.error e, [])
  | .ok message =>
    let outcome := send connection message
    (answerOf outcome, observe .backend kind.endpoint outcome)

/-- Report a batch. -/
def reportTo (connection : Connection) (client : BackendClient) (batch : Wire.Batch) :
    Except BackendError Unit × List Observation :=
  let outcome := send connection (client.report batch)
  (acceptanceOf outcome, observe .backend reportEndpoint outcome)

/-- Fetch the latest configuration of a service. -/
def fetch (connection : Connection) (client : SystemClient) (service environment : String) :
    Except SystemError ProxyConfig × List Observation :=
  let outcome := send connection (client.latest service environment)
  (configOf outcome, observe .system latestEndpoint outcome)

/-! ## Calls of a manager -/

/-- The request that checks limits at a destination, or what is told if there is none. -/
def queryAt (destination : String) (kind : QueryKind) (request : Wire.Request) : Except Input Request :=
  match BackendClient.ofDestination destination with
  | .error e => .error (.answered (.error (.transport e.message)))
  | .ok client => (client.query? kind request).mapError fun e => .answered (.error e)

/-- The request that a call leads to, or what its actor is told if there is none. -/
def messageOf : RemoteCall → Except Input Request
  | .fetch location token service environment =>
    match SystemClient.ofLocation location token with
    | .error e => .error (.fetched (.error (.transport e.message)))
    | .ok client => .ok (client.latest service environment)
  | .authorize destination request => queryAt destination .authorize request
  | .authrep destination request => queryAt destination .authrep request
  | .report destination batch =>
    match BackendClient.ofDestination destination with
    | .error e => .error (.reported (.error (.transport e.message)))
    | .ok client => .ok (client.report batch)

/-- What the actor of a call is told of an outcome. -/
def inputOf : RemoteCall → Outcome → Input
  | .fetch _ _ _ _, outcome => .fetched (configOf outcome)
  | .authorize _ _, outcome => .answered (answerOf outcome)
  | .authrep _ _, outcome => .answered (answerOf outcome)
  | .report _ _, outcome => .reported (acceptanceOf outcome)

/-- What is observed of the outcome of a call. -/
def observationsOf : RemoteCall → Outcome → List Observation
  | .fetch _ _ _ _ => observe .system latestEndpoint
  | .authorize _ _ => observe .backend QueryKind.authorize.endpoint
  | .authrep _ _ => observe .backend QueryKind.authrep.endpoint
  | .report _ _ => observe .backend reportEndpoint

/-- What comes of a call. -/
structure Performed where
  input : Input
  /-- What was exchanged; nothing if no request was sent. -/
  exchanges : List Exchange
  observed : List Observation

/-- Make a call. -/
def perform (connection : Connection) (call : RemoteCall) : Performed :=
  match messageOf call with
  | .error input => ⟨input, [], []⟩
  | .ok message =>
    let outcome := send connection message
    ⟨inputOf call outcome, if message.isSendable then [⟨message, outcome⟩] else [],
      observationsOf call outcome⟩

end GatewayAuth.Http
