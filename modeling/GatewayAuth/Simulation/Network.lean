import GatewayAuth.Http.Remote
import GatewayAuth.Simulation.Schedule

/-!
# `GatewayAuth.Simulation.Network` — a remote side behind a server

Clients are those of `GatewayAuth.Http`; every call takes no time, and the server answers it by what has been
exchanged before.

## Contents
- `NetworkSide`: a server with the history of its exchanges.
- `networked`: the network as the outside of a machine.
- `unreachable`: the connection over which every request fails.
-/

namespace GatewayAuth.Simulation

/-- A server, and what has happened so far. -/
structure NetworkSide where
  server : Http.Server
  /-- All exchanges, in order. -/
  exchanges : List Http.Exchange
  /-- What has been observed of the calls. -/
  observed : List Observation

namespace NetworkSide

/-- A server before the first request. -/
def new (server : Http.Server) : NetworkSide := ⟨server, [], []⟩

/-- Make a call. -/
def perform (s : NetworkSide) (call : RemoteCall) : Input × NetworkSide :=
  let p := Http.perform (s.server s.exchanges) call
  (p.input,
    { s with exchanges := s.exchanges ++ p.exchanges, observed := s.observed ++ p.observed })

end NetworkSide

/-- The network as the outside of a machine. -/
def networked : Outside NetworkSide Unit where
  build s client := (Http.build client, s)
  start s _ := (0, (), s)
  finish s call _ := s.perform call

/-- A connection over which nothing can be reached. -/
def unreachable : Http.Connection := fun _ => .failed "error sending request"

end GatewayAuth.Simulation
