import GatewayAuth.Manager.Basic

/-!
# `GatewayAuth.Manager.Step` — the steps of a manager

## Contents
- `Manager.begin?`: how a call starts.
- `stepFetch`, `stepAuthorize`, `stepShutdown`: one step of each kind of call.
- `stepRefreshLoop`, `stepFlushLoop`: one step of the loops.
- `Manager.step`, `Manager.want`, `Manager.actors`: all of them together.

A step is taken at an instant `now`. It is `none` where the input is not what the actor waits for.
-/

namespace GatewayAuth.Manager

/-- The outcome of one step. -/
abbrev Step := Option (Progress Manager Result Event)

/-! ## Changes -/

/-- The same manager with a call at another phase. -/
def resume (m : Manager) (id : Nat) (job : ManagerJob) : Manager :=
  { m with jobs := m.jobs.insert id job }

/-- A step that leads a call to another phase. -/
def goOn (m : Manager) (id : Nat) (job : ManagerJob) : Step := some (.quiet (m.resume id job))

/-- A step that completes a call. -/
def finish (m : Manager) (id : Nat) (result : Result) : Step :=
  some (.done { m with jobs := m.jobs.erase id } result)

/-- The events of a registry, as events of its manager. -/
def ofRegistry : Registry.Event → Event
  | .atSlot slot e => .atSlot slot e

/-- Let a call start; `none` if its number is in use. -/
def begin? (m : Manager) (id : Nat) (task : Task) : Option Manager :=
  if m.jobs.contains id then none
  else
    match task with
    | .fetch location request => some (m.resume id (.validating location request))
    | .authorize destination request => some (m.resume id (.preparing destination request))
    | .shutdown => some (m.resume id .entering)

/-! ## Fetching a configuration -/

/-- One step of a fetch. -/
def stepFetch (m : Manager) (now id : Nat) : ManagerJob → Input → Step
  | .validating location request, .turn =>
    match request.validate with
    | .error e => m.finish id (.fetched (.error e))
    | .ok () =>
      match m.cache with
      | some _ => m.goOn id (.looking location request)
      | none => m.goOn id (.connecting location request .remote)
  | .looking location request, .turn =>
    match m.cache with
    | none => none
    | some cache =>
      match cache.get now (request.key location) with
      | (some config, cache) =>
        (({ m with cache := some cache } : Manager).finish id (.fetched (.ok config))).map
          (·.showing [.cacheHit])
      | (none, cache) =>
        ({ m with cache := some cache } : Manager).goOn id (.connecting location request .cacheFill)
  | .connecting location request phase, .built (.ok ()) =>
    m.goOn id (.fetching location request phase)
  | .connecting _ _ _, .built (.error e) => m.finish id (.fetched (.error e))
  | .fetching _ _ phase, .fetched (.error e) =>
    m.finish id (.fetched (.error (.remoteFetch phase e)))
  | .fetching location request phase, .fetched (.ok config) =>
    match phase with
    | .cacheFill => m.goOn id (.storing location request config)
    | _ => m.finish id (.fetched (.ok config))
  | .storing location request config, .turn =>
    match m.cache with
    | none => none
    | some cache =>
      let refresher : Refresher := ⟨location, request, ⟨cache.limits.retries⟩⟩
      let cache := cache.set now (request.key location) config refresher
      ({ m with cache := some cache } : Manager).finish id (.fetched (.ok config))
  | _, _ => none

/-! ## Authorizing a request -/

/-- Hand a task to the registry. -/
def withRegistry (m : Manager) (id : Nat) (task : Registry.Task) (job : ManagerJob) : Step :=
  match m.registry with
  | none => none
  | some r =>
    match r.begin? (.call id) task with
    | some r => ({ m with registry := some r } : Manager).goOn id job
    | none => none

/-- One step of the task that a call has handed to the registry; `after` says how the call goes on once the
task is completed. -/
def stepRegistry (m : Manager) (now id : Nat) (input : Input)
    (after : Manager → Registry.Result → Step) : Step :=
  match m.registry with
  | none => none
  | some r =>
    match r.step now (.call id) input with
    | none => none
    | some ⟨r, result?, events⟩ =>
      let m : Manager := { m with registry := some r }
      let events := events.map ofRegistry
      match result? with
      | none => some ⟨m, none, events⟩
      | some result => (after m result).map fun p => { p with events := events ++ p.events }

/-- How an authorization goes on after an attempt to acquire the buffered backend: with a job on it, or with
a direct call. -/
def afterAcquire (id : Nat) (destination : String) (request : Wire.Request) (m : Manager) :
    Registry.Result → Step
  | .acquired (.ok slot) => m.withRegistry id (.use slot (.authorize request)) (.authorizing slot)
  | .acquired (.error _) =>
    (m.goOn id (.opening destination request)).map (·.showing [.creationFailed destination])
  | _ => none

/-- How an authorization goes on after its job on the buffered backend. -/
def afterAuthorize (id slot : Nat) (m : Manager) : Registry.Result → Step
  | .used (.response answer) => m.goOn id (.rechecking slot answer)
  | _ => none

/-- How an authorization ends after its own flush. -/
def afterOwnFlush (id : Nat) (answer : Except BackendError Wire.Response) (m : Manager) :
    Registry.Result → Step
  | .used (.flushed _) => m.finish id (.answered (AuthResponse.ofCall answer))
  | _ => none

/-- One step of an authorization. -/
def stepAuthorize (m : Manager) (now id : Nat) : ManagerJob → Input → Step
  | .preparing destination request, .turn =>
    match request.toWire with
    | .error e => m.finish id (.answered (.error e))
    | .ok wire =>
      match m.registry with
      | some _ => m.withRegistry id (.acquire destination) (.acquiring destination wire)
      | none => m.goOn id (.opening destination wire)
  | .acquiring destination request, input =>
    m.stepRegistry now id input (afterAcquire id destination request)
  | .authorizing slot, input => m.stepRegistry now id input (afterAuthorize id slot)
  | .rechecking slot answer, .turn =>
    match m.registry with
    | some r =>
      if r.isShutDown then m.withRegistry id (.use slot .flush) (.flushing slot answer)
      else m.finish id (.answered (AuthResponse.ofCall answer))
    | none => none
  | .flushing _ answer, input => m.stepRegistry now id input (afterOwnFlush id answer)
  | .opening destination request, .built (.ok ()) => m.goOn id (.calling destination request)
  | .opening _ _, .built (.error e) => m.finish id (.answered (.error e))
  | .calling _ _, .answered answer => m.finish id (.answered (AuthResponse.ofCall answer))
  | _, _ => none

/-! ## Shutting down -/

/-- How a shutdown goes on once the flush loops have drained. -/
def afterDrain (id : Nat) (m : Manager) : Registry.Result → Step
  | .stopped => m.goOn id .stoppingRefresh
  | _ => none

/-- Whether the refresh loop has exited. -/
def refreshExited (m : Manager) : Bool :=
  match m.refreshLoop with
  | .exited => true
  | _ => false

/-- One step of a shutdown. -/
def stepShutdown (m : Manager) (now id : Nat) : ManagerJob → Input → Step
  | .entering, .turn =>
    match m.gate with
    | .closed => m.finish id .stopped
    | .running => none
    | .opened =>
      let m : Manager := { m with gate := .running }
      match m.registry with
      | some _ => m.withRegistry id .shutdown .drainingBackends
      | none => m.goOn id .stoppingRefresh
  | .drainingBackends, input => m.stepRegistry now id input (afterDrain id)
  | .stoppingRefresh, .turn =>
    match m.cache with
    | some _ => ({ m with stopRefreshing := true } : Manager).goOn id .joiningRefresh
    | none => ({ m with gate := .closed } : Manager).finish id .stopped
  | .joiningRefresh, .turn =>
    if m.refreshExited then ({ m with gate := .closed } : Manager).finish id .stopped else none
  | _, _ => none

/-! ## Loops -/

/-- The same manager with cache and refresh loop changed. -/
def withLoop (m : Manager) (cache : ConfigCache) (loop : RefreshLoop) : Step :=
  some (.quiet { m with cache := some cache, refreshLoop := loop })

/-- One step of the sweep that the refresh loop is in. -/
def stepSweep (m : Manager) (now : Nat) (cache : ConfigCache) (due : Nat)
    (sweep : Sweep ProxyConfig Refresher) (told : Sweep.Told ProxyConfig) : Step :=
  match sweep.step cache now told with
  | none => none
  | some (cache, .inl sweep) => m.withLoop cache (.sweeping due sweep 1 false)
  | some (cache, .inr _) => m.withLoop cache (.idle due)

/-- The next attempt to renew an entry after a failed one, or the end of attempts. -/
def retryOrFail (m : Manager) (now : Nat) (cache : ConfigCache) (due : Nat)
    (sweep : Sweep ProxyConfig Refresher) (retry : RetryPolicy) (attempt : Nat) : Step :=
  if attempt < retry.maxAttempts then m.withLoop cache (.sweeping due sweep (attempt + 1) false)
  else m.stepSweep now cache due sweep (.renewed none)

/-- One step of the refresh loop. With a tick overdue and the signal to stop given, either may come first. -/
def stepRefreshLoop (m : Manager) (now : Nat) (input : Input) : Step :=
  match m.cache with
  | none => none
  | some cache =>
    match m.refreshLoop, input with
    | .idle due, .tick =>
      if due ≤ now then
        let next := Registry.nextTick cache.limits.refreshInterval due now
        m.withLoop cache (.sweeping next .starting 1 false)
      else none
    | .idle _, .turn => if m.stopRefreshing then m.withLoop cache .exited else none
    | .sweeping due sweep attempt connected, input =>
      match sweep, input with
      | .refreshing _ _ _ _, .built (.ok ()) =>
        if connected then none else m.withLoop cache (.sweeping due sweep attempt true)
      | .refreshing _ refresher _ _, .built (.error _) =>
        if connected then none else m.retryOrFail now cache due sweep refresher.retry attempt
      | .refreshing _ refresher _ _, .fetched (.error _) =>
        if connected then m.retryOrFail now cache due sweep refresher.retry attempt else none
      | .refreshing _ _ _ _, .fetched (.ok config) =>
        if connected then m.stepSweep now cache due sweep (.renewed (some config)) else none
      | _, .turn => m.stepSweep now cache due sweep .turn
      | _, _ => none
    | _, _ => none

/-- One step of the flush loop of a slot. -/
def stepFlushLoop (m : Manager) (now slot : Nat) (input : Input) : Step :=
  match m.registry with
  | none => none
  | some r =>
    match r.step now (.flushLoop slot) input with
    | none => none
    | some p => some ⟨{ m with registry := some p.state }, none, p.events.map ofRegistry⟩

/-! ## All steps -/

/-- One step of an actor. -/
def step (m : Manager) (now : Nat) (actor : Actor) (input : Input) : Step :=
  match actor with
  | .flushLoop slot => m.stepFlushLoop now slot input
  | .refreshLoop => m.stepRefreshLoop now input
  | .call id =>
    match m.jobs.find? id with
    | none => none
    | some job =>
      match job with
      | .validating _ _ | .looking _ _ | .connecting _ _ _ | .fetching _ _ _ | .storing _ _ _ =>
        m.stepFetch now id job input
      | .entering | .drainingBackends | .stoppingRefresh | .joiningRefresh =>
        m.stepShutdown now id job input
      | _ => m.stepAuthorize now id job input

/-- What the refresh loop waits for. -/
def wantRefreshLoop (m : Manager) : Want :=
  match m.refreshLoop with
  | .exited => .nothing
  | .idle due => if m.stopRefreshing then .turn else .tick due
  | .sweeping _ (.refreshing _ refresher _ _) _ connected =>
    if connected then .reply (refresher.request.call refresher.location)
    else .client (refresher.request.client refresher.location)
  | .sweeping _ _ _ _ => .turn

/-- What the registry lets a call wait for. -/
def wantRegistry (m : Manager) (actor : Actor) : Want :=
  match m.registry with
  | some r => r.want actor
  | none => .nothing

/-- What an actor waits for. -/
def want (m : Manager) (actor : Actor) : Want :=
  match actor with
  | .flushLoop _ => m.wantRegistry actor
  | .refreshLoop => m.wantRefreshLoop
  | .call id =>
    match m.jobs.find? id with
    | none => .nothing
    | some (.connecting location request _) => .client (request.client location)
    | some (.fetching location request _) => .reply (request.call location)
    | some (.acquiring _ _) => m.wantRegistry actor
    | some (.authorizing _) => m.wantRegistry actor
    | some (.flushing _ _) => m.wantRegistry actor
    | some .drainingBackends => m.wantRegistry actor
    | some (.opening destination _) => .client (.direct destination)
    | some (.calling destination request) => .reply (.authrep destination request)
    | some .entering => if m.gate = .running then .nothing else .turn
    | some .joiningRefresh => if m.refreshExited then .turn else .nothing
    | some _ => .turn

/-- All actors, calls first. -/
def actors (m : Manager) : List Actor :=
  m.jobs.keys.map Actor.call ++
    (match m.registry with
      | some r => (List.range r.slots.length).map Actor.flushLoop
      | none => []) ++
    [.refreshLoop]

end GatewayAuth.Manager
