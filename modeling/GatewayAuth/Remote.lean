import GatewayAuth.Error
import GatewayAuth.ProxyConfig.Basic
import GatewayAuth.Telemetry
import GatewayAuth.Wire

/-!
# `GatewayAuth.Remote` — what the parts of a manager ask of the world outside

The manager and its parts are state machines: each of its actors is at some phase of its work, and a step
takes one actor to its next phase. What an actor waits for, and what it is told, is the vocabulary here.

## Contents
- `Actor`: the calls in progress and the background loops.
- `Client`, `RemoteCall`: clients that are built, and calls that are made with them.
- `Want`: what an actor waits for; `Input`: what a step tells it.
- `Progress`: what a step leads to.
-/

namespace GatewayAuth

/-- Who takes a step. -/
inductive Actor where
  /-- A call from outside, by its number. -/
  | call (id : Nat)
  /-- The flush loop of a buffered backend. -/
  | flushLoop (slot : Nat)
  /-- The loop that refreshes the configuration cache. -/
  | refreshLoop
  deriving DecidableEq, Repr

/-- A client to be built. -/
inductive Client where
  /-- For the control plane at a location, with an access token. -/
  | system (location token : String)
  /-- For a backend, with one round trip per call. -/
  | direct (destination : String)
  /-- For a backend, with usage buffered in between. -/
  | buffered (destination : String)
  deriving DecidableEq, Repr

/-- A call to the outside. -/
inductive RemoteCall where
  /-- Fetch the latest configuration of a service. -/
  | fetch (location token service environment : String)
  /-- Check limits. -/
  | authorize (destination : String) (request : Wire.Request)
  /-- Check limits and record usage. -/
  | authrep (destination : String) (request : Wire.Request)
  /-- Record accumulated usage. -/
  | report (destination : String) (batch : Wire.Batch)
  deriving DecidableEq, Repr

/-- What an actor waits for. -/
inductive Want where
  /-- Another actor, or nothing at all. -/
  | nothing
  /-- Its turn. -/
  | turn
  /-- A client. -/
  | client (c : Client)
  /-- The end of a call to the outside. -/
  | reply (c : RemoteCall)
  /-- An instant. -/
  | tick (due : Nat)
  deriving DecidableEq, Repr

/-- What a step tells its actor. -/
inductive Input where
  | turn
  | tick
  | built (result : Except AuthorizerError Unit)
  | fetched (result : Except SystemError ProxyConfig)
  | answered (result : Except BackendError Wire.Response)
  | reported (result : Except BackendError Unit)

/-- What a step leads to: the state after it, the result if it completes a task of its actor, and what can be
seen of it. -/
structure Progress (σ ω ε : Type) where
  state : σ
  result? : Option ω
  events : List ε

namespace Progress

variable {σ τ ω ε δ : Type}

/-- A step that only changes the state. -/
def quiet (state : σ) : Progress σ ω ε := ⟨state, none, []⟩

/-- A step that completes a task. -/
def done (state : σ) (result : ω) : Progress σ ω ε := ⟨state, some result, []⟩

/-- The same step with something to be seen. -/
def showing (p : Progress σ ω ε) (events : List ε) : Progress σ ω ε :=
  { p with events := p.events ++ events }

end Progress

end GatewayAuth
