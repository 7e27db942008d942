import GatewayAuth.Cache.Sweep
import GatewayAuth.Manager.Request
import GatewayAuth.Registry
import GatewayAuth.Retry

/-!
# `GatewayAuth.Manager.Basic` — the state of a manager

A manager answers three kinds of calls: fetch a configuration, authorize a request, shut down. Any number of
calls are in progress at the same time, beside the flush loops and the refresh loop.

## Contents
- `DispatchSettings`: how authorizations are dispatched, with the default of the flush interval.
- `Refresher`: what renews a cached configuration.
- `ManagerJob`, `RefreshLoop`, `Gate`: where calls, the refresh loop and the shutdown stand.
- `Manager`, `Manager.new`, and its tasks, results and events.
-/

namespace GatewayAuth

/-! ## Settings -/

/-- How authorizations are dispatched. -/
structure DispatchSettings where
  /-- Whether usage is buffered and reported in batches. -/
  buffered : Bool
  /-- Milliseconds between two flushes; zero stands for the default. -/
  flushEvery : Nat
  policy : FailurePolicy
  deriving DecidableEq, Repr

namespace DispatchSettings

/-- The default of `flushEvery`. -/
def defaultFlushEvery : Nat := 15000

/-- The same settings with the default in place of a zero. -/
def withDefaults (s : DispatchSettings) : DispatchSettings :=
  { s with flushEvery := if s.flushEvery = 0 then defaultFlushEvery else s.flushEvery }

/-- A duration of whole milliseconds, in the largest unit that it fills. -/
def durationText (ms : Nat) : String :=
  if ms = 0 then "0ns"
  else if ms < 1000 then Decimal.ofNat ms ++ "ms"
  else
    let places := ((Decimal.padded 3 (ms % 1000)).reverse.dropWhile (· = '0')).reverse
    Decimal.ofNat (ms / 1000) ++
      (if places.isEmpty then "" else "." ++ String.ofList places) ++ "s"

/-- The settings as diagnostics show them. -/
def describe (s : DispatchSettings) : String :=
  "BackendConfig \x7b enable_caching: " ++ (if s.buffered then "true" else "false") ++
    ", cache_flush_interval: " ++ durationText s.flushEvery ++
    ", failure_policy: " ++ Text.quote s.policy.name ++ " \x7d"

end DispatchSettings

/-! ## Where things stand -/

/-- What renews a cached configuration: the request that filled the entry, made again. -/
structure Refresher where
  location : String
  request : ConfigRequest
  retry : RetryPolicy
  deriving DecidableEq, Repr

/-- The client that a refresher needs. -/
def ConfigRequest.client (r : ConfigRequest) (location : String) : Client :=
  .system location r.accessToken

/-- The fetch that a request leads to. -/
def ConfigRequest.call (r : ConfigRequest) (location : String) : RemoteCall :=
  .fetch location r.accessToken r.service r.environment

/-- What a request is cached under. -/
def ConfigRequest.key (r : ConfigRequest) (location : String) : CacheKey := ⟨location, r.service⟩

/-- The cache of configurations. -/
abbrev ConfigCache := Cache ProxyConfig Refresher

/-- Where a call on the manager stands. -/
inductive ManagerJob where
  /-- A fetch whose request is about to be checked. -/
  | validating (location : String) (request : ConfigRequest)
  /-- About to read the cache. -/
  | looking (location : String) (request : ConfigRequest)
  /-- The client for a fetch is being built. -/
  | connecting (location : String) (request : ConfigRequest) (phase : FetchPhase)
  /-- A fetch is on its way. -/
  | fetching (location : String) (request : ConfigRequest) (phase : FetchPhase)
  /-- A fetched configuration is about to go into the cache. -/
  | storing (location : String) (request : ConfigRequest) (config : ProxyConfig)
  /-- An authorization whose request is about to be put in its wire form. -/
  | preparing (destination : String) (request : AuthRequest)
  /-- The buffered backend is being acquired. -/
  | acquiring (destination : String) (request : Wire.Request)
  /-- At work on the buffered backend. -/
  | authorizing (slot : Nat)
  /-- Answered; about to look whether the registry has been shut down meanwhile. -/
  | rechecking (slot : Nat) (answer : Except BackendError Wire.Response)
  /-- Answered; flushing what a shutdown may have missed. -/
  | flushing (slot : Nat) (answer : Except BackendError Wire.Response)
  /-- The direct client is being built. -/
  | opening (destination : String) (request : Wire.Request)
  /-- A direct call is on its way. -/
  | calling (destination : String) (request : Wire.Request)
  /-- A shutdown at the gate. -/
  | entering
  /-- A shutdown that waits for the flush loops. -/
  | drainingBackends
  /-- A shutdown that is about to stop the refresh loop. -/
  | stoppingRefresh
  /-- A shutdown that waits for the refresh loop. -/
  | joiningRefresh

/-- Where the refresh loop stands. -/
inductive RefreshLoop where
  /-- Waiting for the next tick or for the signal to stop. -/
  | idle (due : Nat)
  /-- In a sweep; the next tick is due then. While an entry is being renewed, `attempt` counts the present
  attempt from 1, and `connected` says whether its client has been built. -/
  | sweeping (due : Nat) (sweep : Sweep ProxyConfig Refresher) (attempt : Nat) (connected : Bool)
  | exited

/-- The passage of the shutdown: the first call goes through, later ones wait for it. -/
inductive Gate where
  | opened
  | running
  | closed
  deriving DecidableEq, Repr

/-- A manager. -/
structure Manager where
  cache : Option ConfigCache
  refreshLoop : RefreshLoop
  /-- Whether the refresh loop has been told to stop. -/
  stopRefreshing : Bool
  /-- The buffered backends; `none` if every authorization is a direct call. -/
  registry : Option Registry
  gate : Gate
  jobs : Table Nat ManagerJob

namespace Manager

/-- What a call asks for. -/
inductive Task where
  | fetch (location : String) (request : ConfigRequest)
  | authorize (destination : String) (request : AuthRequest)
  | shutdown
  deriving DecidableEq, Repr

/-- What a call comes to. -/
inductive Result where
  | fetched (config : Except AuthorizerError ProxyConfig)
  | answered (response : Except AuthorizerError AuthResponse)
  | stopped

/-- What can be seen of a step. -/
inductive Event where
  | cacheHit
  /-- No buffered backend could be had for a destination. -/
  | creationFailed (destination : String)
  /-- Something happened at the backend of a slot. -/
  | atSlot (slot : Nat) (event : BufferedBackend.Event)
  deriving DecidableEq, Repr

/-- A manager that starts at `now`. With a cache, its first sweep is one interval away. -/
def new (now : Nat) (limits : Option CacheLimits) (settings : DispatchSettings) : Manager :=
  let settings := settings.withDefaults
  let cache : Option ConfigCache := limits.map Cache.new
  { cache
    refreshLoop := match cache with
      | some c => .idle (now + c.limits.refreshInterval)
      | none => .exited
    stopRefreshing := false
    registry := if settings.buffered then some (.new settings.policy settings.flushEvery) else none
    gate := .opened
    jobs := .empty }

/-- Whether a shutdown has been completed. -/
def isShutDown (m : Manager) : Bool := m.gate == .closed

/-- The number of destinations with a buffered backend. -/
def backendCount (m : Manager) : Nat :=
  match m.registry with
  | some r => r.size
  | none => 0

end Manager

end GatewayAuth
