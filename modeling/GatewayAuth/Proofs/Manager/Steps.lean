import GatewayAuth.Manager.Step
import GatewayAuth.Proofs.Registry.Sound

/-!
# `GatewayAuth.Proofs.Manager.Steps` — what one step of a manager does

`Fetched` lists the steps of a fetch, `Called` those of all calls. Work that a call has handed to the registry is
one case of `Called` for as long as it goes on (`waited`), and one for each thing it can come to.

## Contents
- `Manager.system`: a manager and all that it can do.
- `Manager.backends`: its registry, or one without backends.
- `eq_resume_of_begin?`, `Fetched`, `Called`: how a call starts, and the cases of its steps.
- `Refreshed`: the cases of a step of the refresh loop.
- `Stepped`, `stepped_of_step`: the cases of a step of any actor.
-/

namespace GatewayAuth

/-- Whether a call is a fetch. -/
def ManagerJob.isFetch : ManagerJob → Bool
  | .validating _ _ => true
  | .looking _ _ => true
  | .connecting _ _ _ => true
  | .fetching _ _ _ => true
  | .storing _ _ _ => true
  | _ => false

/-- Whether a call waits for work that it has handed to the registry. -/
def ManagerJob.isAtRegistry : ManagerJob → Bool
  | .acquiring _ _ => true
  | .authorizing _ => true
  | .flushing _ _ => true
  | .drainingBackends => true
  | _ => false

namespace Manager

/-- A manager as a system of actors; tasks are given to calls only. -/
def system : System Manager Task Result Event :=
  ⟨fun m actor task =>
    match actor with
    | .call id => m.begin? id task
    | _ => none, want, step⟩

/-- What has happened at a manager. -/
abbrev Past := History Manager Task Result Event

/-- The registry of a manager; where there is none, one that is shut down and has no backends. -/
def backends (m : Manager) : Registry :=
  m.registry.getD { Registry.new .closed 0 with handles := none }

theorem backends_of_registry {m : Manager} {r : Registry} (h : m.registry = some r) :
    m.backends = r := by
  unfold backends
  rw [h]
  rfl

theorem backends_congr {m m' : Manager} (h : m'.registry = m.registry) :
    m'.backends = m.backends := by
  unfold backends
  rw [h]

variable {m : Manager} {now id : Nat} {input : Input} {p : Progress Manager Result Event}

/-! ## How a call starts -/

/-- The phase in which a call starts. -/
def Task.job : Task → ManagerJob
  | .fetch location request => .validating location request
  | .authorize d request => .preparing d request
  | .shutdown => .entering

theorem eq_resume_of_begin? {m' : Manager} {task : Task} (h : m.begin? id task = some m') :
    m.jobs.find? id = none ∧ m' = m.resume id task.job := by
  unfold begin? at h
  split at h
  · cases h
  · next hfree =>
    refine ⟨Table.contains_eq_false_iff.1 (Bool.not_eq_true _ ▸ hfree), ?_⟩
    cases task <;> cases h <;> rfl

/-! ## Steps of a fetch -/

/-- What a step of a fetch can be. -/
inductive Fetched (m : Manager) (now id : Nat) :
    ManagerJob → Input → Progress Manager Result Event → Prop where
  | invalid {location : String} {request : ConfigRequest} {e : AuthorizerError} :
      Fetched m now id (.validating location request) .turn
        (.done { m with jobs := m.jobs.erase id } (.fetched (.error e)))
  | cached {location : String} {request : ConfigRequest} :
      Fetched m now id (.validating location request) .turn
        (.quiet (m.resume id (.looking location request)))
  | uncached {location : String} {request : ConfigRequest} :
      Fetched m now id (.validating location request) .turn
        (.quiet (m.resume id (.connecting location request .remote)))
  | hit {location : String} {request : ConfigRequest} {cache cache' : ConfigCache}
      {config : ProxyConfig} (hcache : m.cache = some cache)
      (hget : cache.get now (request.key location) = (some config, cache')) :
      Fetched m now id (.looking location request) .turn
        ⟨{ m with cache := some cache', jobs := m.jobs.erase id }, some (.fetched (.ok config)),
          [.cacheHit]⟩
  | missed {location : String} {request : ConfigRequest} {cache cache' : ConfigCache}
      (hcache : m.cache = some cache)
      (hget : cache.get now (request.key location) = (none, cache')) :
      Fetched m now id (.looking location request) .turn
        (.quiet (({ m with cache := some cache' } : Manager).resume id
          (.connecting location request .cacheFill)))
  | connected {location : String} {request : ConfigRequest} {phase : FetchPhase} :
      Fetched m now id (.connecting location request phase) (.built (.ok ()))
        (.quiet (m.resume id (.fetching location request phase)))
  | notConnected {location : String} {request : ConfigRequest} {phase : FetchPhase}
      {e : AuthorizerError} :
      Fetched m now id (.connecting location request phase) (.built (.error e))
        (.done { m with jobs := m.jobs.erase id } (.fetched (.error e)))
  | fetchFailed {location : String} {request : ConfigRequest} {phase : FetchPhase}
      {e : SystemError} :
      Fetched m now id (.fetching location request phase) (.fetched (.error e))
        (.done { m with jobs := m.jobs.erase id } (.fetched (.error (.remoteFetch phase e))))
  | fetchedFill {location : String} {request : ConfigRequest} {config : ProxyConfig} :
      Fetched m now id (.fetching location request .cacheFill) (.fetched (.ok config))
        (.quiet (m.resume id (.storing location request config)))
  | fetchedDirect {location : String} {request : ConfigRequest} {phase : FetchPhase}
      {config : ProxyConfig} (hphase : phase ≠ .cacheFill) :
      Fetched m now id (.fetching location request phase) (.fetched (.ok config))
        (.done { m with jobs := m.jobs.erase id } (.fetched (.ok config)))
  | stored {location : String} {request : ConfigRequest} {config : ProxyConfig}
      {cache : ConfigCache} (hcache : m.cache = some cache) :
      Fetched m now id (.storing location request config) .turn
        (.done { m with
          cache := some (cache.set now (request.key location) config
            ⟨location, request, ⟨cache.limits.retries⟩⟩)
          jobs := m.jobs.erase id } (.fetched (.ok config)))

/-- Only a fetch takes the steps of one. -/
theorem Fetched.isFetch {job : ManagerJob} (h : Fetched m now id job input p) :
    job.isFetch = true := by
  cases h <;> rfl

theorem fetched_of_stepFetch {job : ManagerJob} (h : m.stepFetch now id job input = some p) :
    Fetched m now id job input p := by
  unfold stepFetch at h
  split at h
  · split at h
    · cases h; exact .invalid
    · split at h
      · cases h; exact .cached
      · cases h; exact .uncached
  · split at h
    · cases h
    · next cache hcache =>
      split at h
      · next config cache' hget => cases h; exact .hit hcache hget
      · next cache' hget => cases h; exact .missed hcache hget
  · cases h; exact .connected
  · cases h; exact .notConnected
  · cases h; exact .fetchFailed
  · split at h
    · cases h; exact .fetchedFill
    · next hphase => cases h; exact .fetchedDirect hphase
  · split at h
    · cases h
    · next cache hcache => cases h; exact .stored hcache
  · cases h

/-! ## Steps of a call -/

/-- What a step of a call can be. -/
inductive Called (m : Manager) (now id : Nat) :
    Input → Progress Manager Result Event → Prop where
  | fetched {job : ManagerJob} {input : Input} {p : Progress Manager Result Event}
      (hjob : m.jobs.find? id = some job) (step : Fetched m now id job input p) :
      Called m now id input p
  | malformed {d : String} {request : AuthRequest} {e : AuthorizerError}
      (hjob : m.jobs.find? id = some (.preparing d request)) (hwire : request.toWire = .error e) :
      Called m now id .turn (.done { m with jobs := m.jobs.erase id } (.answered (.error e)))
  | acquires {d : String} {request : AuthRequest} {wire : Wire.Request} {r r' : Registry}
      (hjob : m.jobs.find? id = some (.preparing d request)) (hwire : request.toWire = .ok wire)
      (hr : m.registry = some r) (free : r.jobs.find? (.call id) = none)
      (began : Registry.Began r (.call id) (.acquire d) r') :
      Called m now id .turn
        (.quiet (({ m with registry := some r' } : Manager).resume id (.acquiring d wire)))
  | goesDirect {d : String} {request : AuthRequest} {wire : Wire.Request}
      (hjob : m.jobs.find? id = some (.preparing d request)) (hwire : request.toWire = .ok wire)
      (hr : m.registry = none) :
      Called m now id .turn (.quiet (m.resume id (.opening d wire)))
  | waited {job : ManagerJob} {r : Registry} {input : Input}
      {q : Progress Registry Registry.Result Registry.Event}
      (hjob : m.jobs.find? id = some job) (hat : job.isAtRegistry = true)
      (hr : m.registry = some r) (work : Registry.Called r now (.call id) input q)
      (more : q.result? = none) :
      Called m now id input ⟨{ m with registry := some q.state }, none, q.events.map ofRegistry⟩
  | acquired {d : String} {wire : Wire.Request} {slot : Nat} {r r' : Registry} {input : Input}
      {q : Progress Registry Registry.Result Registry.Event}
      (hjob : m.jobs.find? id = some (.acquiring d wire)) (hr : m.registry = some r)
      (work : Registry.Called r now (.call id) input q)
      (last : q.result? = some (.acquired (.ok slot)))
      (free : q.state.jobs.find? (.call id) = none)
      (began : Registry.Began q.state (.call id) (.use slot (.authorize wire)) r') :
      Called m now id input
        ⟨({ m with registry := some r' } : Manager).resume id (.authorizing slot), none,
          q.events.map ofRegistry⟩
  | notAcquired {d : String} {wire : Wire.Request} {e : AuthorizerError} {r : Registry}
      {input : Input} {q : Progress Registry Registry.Result Registry.Event}
      (hjob : m.jobs.find? id = some (.acquiring d wire)) (hr : m.registry = some r)
      (work : Registry.Called r now (.call id) input q)
      (last : q.result? = some (.acquired (.error e))) :
      Called m now id input
        ⟨({ m with registry := some q.state } : Manager).resume id (.opening d wire), none,
          q.events.map ofRegistry ++ [.creationFailed d]⟩
  | answered {slot : Nat} {answer : Except BackendError Wire.Response} {r : Registry}
      {input : Input} {q : Progress Registry Registry.Result Registry.Event}
      (hjob : m.jobs.find? id = some (.authorizing slot)) (hr : m.registry = some r)
      (work : Registry.Called r now (.call id) input q)
      (last : q.result? = some (.used (.response answer))) :
      Called m now id input
        ⟨({ m with registry := some q.state } : Manager).resume id (.rechecking slot answer), none,
          q.events.map ofRegistry⟩
  | overtaken {slot : Nat} {answer : Except BackendError Wire.Response} {r r' : Registry}
      (hjob : m.jobs.find? id = some (.rechecking slot answer)) (hr : m.registry = some r)
      (closed : r.handles = none) (free : r.jobs.find? (.call id) = none)
      (began : Registry.Began r (.call id) (.use slot .flush) r') :
      Called m now id .turn
        (.quiet (({ m with registry := some r' } : Manager).resume id (.flushing slot answer)))
  | returned {slot : Nat} {answer : Except BackendError Wire.Response} {r : Registry}
      {handles : List Nat} (hjob : m.jobs.find? id = some (.rechecking slot answer))
      (hr : m.registry = some r) (opened : r.handles = some handles) :
      Called m now id .turn
        (.done { m with jobs := m.jobs.erase id } (.answered (AuthResponse.ofCall answer)))
  | flushed {slot : Nat} {answer : Except BackendError Wire.Response} {summary : FlushSummary}
      {r : Registry} {input : Input} {q : Progress Registry Registry.Result Registry.Event}
      (hjob : m.jobs.find? id = some (.flushing slot answer)) (hr : m.registry = some r)
      (work : Registry.Called r now (.call id) input q)
      (last : q.result? = some (.used (.flushed summary))) :
      Called m now id input
        ⟨{ m with registry := some q.state, jobs := m.jobs.erase id },
          some (.answered (AuthResponse.ofCall answer)), q.events.map ofRegistry⟩
  | opened {d : String} {wire : Wire.Request} (hjob : m.jobs.find? id = some (.opening d wire)) :
      Called m now id (.built (.ok ())) (.quiet (m.resume id (.calling d wire)))
  | notOpened {d : String} {wire : Wire.Request} {e : AuthorizerError}
      (hjob : m.jobs.find? id = some (.opening d wire)) :
      Called m now id (.built (.error e))
        (.done { m with jobs := m.jobs.erase id } (.answered (.error e)))
  | called {d : String} {wire : Wire.Request} {answer : Except BackendError Wire.Response}
      (hjob : m.jobs.find? id = some (.calling d wire)) :
      Called m now id (.answered answer)
        (.done { m with jobs := m.jobs.erase id } (.answered (AuthResponse.ofCall answer)))
  | followed (hjob : m.jobs.find? id = some .entering) (closed : m.gate = .closed) :
      Called m now id .turn (.done { m with jobs := m.jobs.erase id } .stopped)
  | drains {r r' : Registry} (hjob : m.jobs.find? id = some .entering) (opened : m.gate = .opened)
      (hr : m.registry = some r) (free : r.jobs.find? (.call id) = none)
      (began : Registry.Began r (.call id) .shutdown r') :
      Called m now id .turn
        (.quiet (({ m with gate := .running, registry := some r' } : Manager).resume id
          .drainingBackends))
  | drainsNothing (hjob : m.jobs.find? id = some .entering) (opened : m.gate = .opened)
      (hr : m.registry = none) :
      Called m now id .turn
        (.quiet (({ m with gate := .running } : Manager).resume id .stoppingRefresh))
  | drained {r : Registry} {input : Input}
      {q : Progress Registry Registry.Result Registry.Event}
      (hjob : m.jobs.find? id = some .drainingBackends) (hr : m.registry = some r)
      (work : Registry.Called r now (.call id) input q) (last : q.result? = some .stopped) :
      Called m now id input
        ⟨({ m with registry := some q.state } : Manager).resume id .stoppingRefresh, none,
          q.events.map ofRegistry⟩
  | stopsRefresh {cache : ConfigCache} (hjob : m.jobs.find? id = some .stoppingRefresh)
      (hcache : m.cache = some cache) :
      Called m now id .turn
        (.quiet (({ m with stopRefreshing := true } : Manager).resume id .joiningRefresh))
  | stopsNothing (hjob : m.jobs.find? id = some .stoppingRefresh) (hcache : m.cache = none) :
      Called m now id .turn
        (.done { m with gate := .closed, jobs := m.jobs.erase id } .stopped)
  | joined (hjob : m.jobs.find? id = some .joiningRefresh) (exited : m.refreshExited = true) :
      Called m now id .turn
        (.done { m with gate := .closed, jobs := m.jobs.erase id } .stopped)

/-- Only a call in progress takes steps. -/
theorem Called.has_job (step : Called m now id input p) : m.jobs.find? id ≠ none := by
  cases step <;> simp [*]

/-- A call at a fetch takes the steps of one. -/
theorem Called.fetched_of_isFetch {job : ManagerJob} (step : Called m now id input p)
    (hjob : m.jobs.find? id = some job) (hfetch : job.isFetch = true) :
    Fetched m now id job input p := by
  cases step with
  | fetched hjob' step =>
      rw [hjob] at hjob'
      cases hjob'
      exact step
  | waited hjob' hat =>
      rw [hjob] at hjob'
      cases hjob'
      -- no phase of a fetch is one at the registry
      cases job <;> simp only [ManagerJob.isFetch, ManagerJob.isAtRegistry, reduceCtorEq] at hat hfetch
  | malformed hjob' | acquires hjob' | goesDirect hjob' | acquired hjob' | notAcquired hjob'
  | answered hjob' | overtaken hjob' | returned hjob' | flushed hjob' | opened hjob'
  | notOpened hjob' | called hjob' | followed hjob' | drains hjob' | drainsNothing hjob'
  | drained hjob' | stopsRefresh hjob' | stopsNothing hjob' | joined hjob' =>
      rw [hjob] at hjob'
      cases hjob'
      cases hfetch

/-- What a task handed to the registry changes. -/
theorem exists_of_withRegistry {task : Registry.Task} {job : ManagerJob}
    (h : m.withRegistry id task job = some p) :
    ∃ r r', m.registry = some r ∧ r.jobs.find? (.call id) = none ∧
      Registry.Began r (.call id) task r' ∧
      p = .quiet (({ m with registry := some r' } : Manager).resume id job) := by
  unfold withRegistry at h
  split at h
  · cases h
  · next r hr =>
    split at h
    · next r' hbegin =>
      obtain ⟨free, began⟩ := Registry.began_of_begin? hbegin
      cases h
      exact ⟨r, r', hr, free, began, rfl⟩
    · cases h

/-- A step of the registry on behalf of a call, and how the call goes on with what it comes to. -/
theorem eq_of_stepRegistry {after : Manager → Registry.Result → Step}
    (h : m.stepRegistry now id input after = some p) :
    ∃ r q, m.registry = some r ∧ r.step now (.call id) input = some q ∧
      ((q.result? = none ∧
          p = ⟨{ m with registry := some q.state }, none, q.events.map ofRegistry⟩) ∨
        ∃ result p', q.result? = some result ∧
          after { m with registry := some q.state } result = some p' ∧
          p = { p' with events := q.events.map ofRegistry ++ p'.events }) := by
  unfold stepRegistry at h
  split at h
  · cases h
  · next r hr =>
    split at h
    · cases h
    · next r' result? events hstep =>
      refine ⟨r, ⟨r', result?, events⟩, hr, hstep, ?_⟩
      cases result? with
      | none => cases h; exact .inl ⟨rfl, rfl⟩
      | some result =>
          obtain ⟨p', hp', rfl⟩ := Option.map_eq_some_iff.1 h
          exact .inr ⟨result, p', rfl, hp', rfl⟩

/-- What a step of the registry on behalf of a call changes. -/
theorem exists_of_stepRegistry {after : Manager → Registry.Result → Step}
    (h : m.stepRegistry now id input after = some p) :
    ∃ r q, m.registry = some r ∧ Registry.Called r now (.call id) input q ∧
      ((q.result? = none ∧
          p = ⟨{ m with registry := some q.state }, none, q.events.map ofRegistry⟩) ∨
        ∃ result p', q.result? = some result ∧
          after { m with registry := some q.state } result = some p' ∧
          p = { p' with events := q.events.map ofRegistry ++ p'.events }) := by
  obtain ⟨r, q, hr, hstep, hp⟩ := eq_of_stepRegistry h
  exact ⟨r, q, hr, Registry.called_of_stepCall hstep, hp⟩

theorem called_of_stepAuthorize {job : ManagerJob} (hjob : m.jobs.find? id = some job)
    (h : m.stepAuthorize now id job input = some p) : Called m now id input p := by
  unfold stepAuthorize at h
  split at h
  · next d request =>
    split at h
    · next e hwire => cases h; exact .malformed hjob hwire
    · next wire hwire =>
      split at h
      · obtain ⟨r, r', hr, free, began, rfl⟩ := exists_of_withRegistry h
        exact .acquires hjob hwire hr free began
      · next hr => cases h; exact .goesDirect hjob hwire hr
  · next d wire =>
    obtain ⟨r, q, hr, work, ⟨more, rfl⟩ | ⟨result, p', last, hafter, rfl⟩⟩ :=
      exists_of_stepRegistry h
    · exact .waited hjob rfl hr work more
    · unfold afterAcquire at hafter
      split at hafter
      · next slot =>
        -- the work at the slot starts in the registry that the acquisition has left
        obtain ⟨r₁, r', hr₁, free, began, rfl⟩ := exists_of_withRegistry hafter
        cases hr₁
        show Called m now id input ⟨_, _, q.events.map ofRegistry ++ []⟩
        rw [List.append_nil]
        exact .acquired hjob hr work last free began
      · next e =>
        cases hafter
        exact .notAcquired hjob hr work last
      · cases hafter
  · next slot =>
    obtain ⟨r, q, hr, work, ⟨more, rfl⟩ | ⟨result, p', last, hafter, rfl⟩⟩ :=
      exists_of_stepRegistry h
    · exact .waited hjob rfl hr work more
    · unfold afterAuthorize at hafter
      split at hafter
      · next answer =>
        cases hafter
        show Called m now id input ⟨_, _, q.events.map ofRegistry ++ []⟩
        rw [List.append_nil]
        exact .answered hjob hr work last
      · cases hafter
  · next slot answer =>
    split at h
    · next r hr =>
      split at h
      · next hdown =>
        obtain ⟨r₁, r', hr₁, free, began, rfl⟩ := exists_of_withRegistry h
        rw [hr] at hr₁
        cases hr₁
        exact .overtaken hjob hr (Option.isNone_iff_eq_none.1 hdown) free began
      · next hup =>
        cases h
        obtain ⟨handles, hhandles⟩ := Option.ne_none_iff_exists'.1
          fun hnone => hup (Option.isNone_iff_eq_none.2 hnone)
        exact .returned hjob hr hhandles
    · cases h
  · next slot answer =>
    obtain ⟨r, q, hr, work, ⟨more, rfl⟩ | ⟨result, p', last, hafter, rfl⟩⟩ :=
      exists_of_stepRegistry h
    · exact .waited hjob rfl hr work more
    · unfold afterOwnFlush at hafter
      split at hafter
      · next summary =>
        cases hafter
        show Called m now id input ⟨_, _, q.events.map ofRegistry ++ []⟩
        rw [List.append_nil]
        exact .flushed hjob hr work last
      · cases hafter
  · cases h; exact .opened hjob
  · cases h; exact .notOpened hjob
  · cases h; exact .called hjob
  · cases h

theorem called_of_stepShutdown {job : ManagerJob} (hjob : m.jobs.find? id = some job)
    (h : m.stepShutdown now id job input = some p) : Called m now id input p := by
  unfold stepShutdown at h
  split at h
  · split at h
    · next closed => cases h; exact .followed hjob closed
    · cases h
    · next opened =>
      dsimp only at h
      split at h
      · obtain ⟨r, r', hr, free, began, rfl⟩ := exists_of_withRegistry h
        exact .drains hjob opened hr free began
      · next hr => cases h; exact .drainsNothing hjob opened hr
  · obtain ⟨r, q, hr, work, ⟨more, rfl⟩ | ⟨result, p', last, hafter, rfl⟩⟩ :=
      exists_of_stepRegistry h
    · exact .waited hjob rfl hr work more
    · unfold afterDrain at hafter
      split at hafter
      · cases hafter
        show Called m now id input ⟨_, _, q.events.map ofRegistry ++ []⟩
        rw [List.append_nil]
        exact .drained hjob hr work last
      · cases hafter
  · split at h
    · next cache hcache => cases h; exact .stopsRefresh hjob hcache
    · next hcache => cases h; exact .stopsNothing hjob hcache
  · split at h
    · next exited => cases h; exact .joined hjob exited
    · cases h
  · cases h

/-! ## Steps of the refresh loop -/

/-- Where the refresh loop stands after a step of its sweep. -/
def afterSweep (due : Nat) : Sweep ProxyConfig Refresher ⊕ SweepSummary → RefreshLoop
  | .inl sweep => .sweeping due sweep 1 false
  | .inr _ => .idle due

/-- What a step of the refresh loop can be: the beginning of a sweep, the end of the loop, another stage of the attempt
to renew an entry, or a step of the sweep, which is told what the control plane has answered if that is what the loop
was told. -/
inductive Refreshed (m : Manager) (now : Nat) : Input → ConfigCache → RefreshLoop → Prop where
  | ticked {cache : ConfigCache} {due : Nat} (hcache : m.cache = some cache)
      (idle : m.refreshLoop = .idle due) (hdue : due ≤ now) :
      Refreshed m now .tick cache
        (.sweeping (Registry.nextTick cache.limits.refreshInterval due now) .starting 1 false)
  | told {cache : ConfigCache} {due : Nat} (hcache : m.cache = some cache)
      (idle : m.refreshLoop = .idle due) (stop : m.stopRefreshing = true) :
      Refreshed m now .turn cache .exited
  | attempted {cache : ConfigCache} {due attempt attempt' : Nat} {connected connected' : Bool}
      {sweep : Sweep ProxyConfig Refresher} {input : Input} (hcache : m.cache = some cache)
      (hloop : m.refreshLoop = .sweeping due sweep attempt connected)
      (refreshing : ∃ key refresher rest summary, sweep = .refreshing key refresher rest summary) :
      Refreshed m now input cache (.sweeping due sweep attempt' connected')
  | swept {cache cache' : ConfigCache} {due attempt : Nat} {connected : Bool}
      {sweep : Sweep ProxyConfig Refresher} {told : Sweep.Told ProxyConfig} {input : Input}
      {out : Sweep ProxyConfig Refresher ⊕ SweepSummary} (hcache : m.cache = some cache)
      (hloop : m.refreshLoop = .sweeping due sweep attempt connected)
      (hstep : sweep.step cache now told = some (cache', out))
      (hrenewed : ∀ config, told = .renewed (some config) →
        connected = true ∧ input = .fetched (.ok config)) :
      Refreshed m now input cache' (afterSweep due out)

theorem exists_of_stepSweep {cache : ConfigCache} {due : Nat}
    {sweep : Sweep ProxyConfig Refresher} {told : Sweep.Told ProxyConfig}
    (h : m.stepSweep now cache due sweep told = some p) :
    ∃ cache' out, sweep.step cache now told = some (cache', out) ∧
      p = .quiet { m with cache := some cache', refreshLoop := afterSweep due out } := by
  unfold stepSweep at h
  split at h
  · cases h
  · next cache' sweep' hstep => cases h; exact ⟨cache', .inl sweep', hstep, rfl⟩
  · next cache' summary hstep => cases h; exact ⟨cache', .inr summary, hstep, rfl⟩

/-- The refresh loop changes cache and refresh loop only. -/
theorem refreshed_of_stepRefreshLoop (h : m.stepRefreshLoop now input = some p) :
    ∃ cache loop, Refreshed m now input cache loop ∧
      p = .quiet { m with cache := some cache, refreshLoop := loop } := by
  unfold stepRefreshLoop at h
  split at h
  · cases h
  · next cache hcache =>
    -- an attempt that has failed is followed by another one, or by the end of the renewal
    have hretry : ∀ {due attempt : Nat} {connected : Bool} {sweep : Sweep ProxyConfig Refresher}
        {retry : RetryPolicy}, m.refreshLoop = .sweeping due sweep attempt connected →
        (∃ key refresher rest summary, sweep = .refreshing key refresher rest summary) →
        m.retryOrFail now cache due sweep retry attempt = some p →
        ∃ cache loop, Refreshed m now input cache loop ∧
          p = .quiet { m with cache := some cache, refreshLoop := loop } := by
      intro due attempt connected sweep retry hloop refreshing h
      unfold retryOrFail at h
      split at h
      · cases h
        exact ⟨_, _, .attempted hcache hloop refreshing, rfl⟩
      · obtain ⟨cache', out, hstep, rfl⟩ := exists_of_stepSweep h
        exact ⟨_, _, .swept hcache hloop hstep (fun _ h => nomatch h), rfl⟩
    split at h
    · next due idle =>
      split at h
      · next hdue => cases h; exact ⟨_, _, .ticked hcache idle hdue, rfl⟩
      · cases h
    · next due idle =>
      split at h
      · next stop => cases h; exact ⟨_, _, .told hcache idle stop, rfl⟩
      · cases h
    · next due sweep attempt connected hloop =>
      split at h
      · split at h
        · cases h
        · cases h; exact ⟨_, _, .attempted hcache hloop ⟨_, _, _, _, rfl⟩, rfl⟩
      · split at h
        · cases h
        · exact hretry hloop ⟨_, _, _, _, rfl⟩ h
      · split at h
        · exact hretry hloop ⟨_, _, _, _, rfl⟩ h
        · cases h
      · split at h
        · next config hconnected =>
          obtain ⟨cache', out, hstep, rfl⟩ := exists_of_stepSweep h
          refine ⟨_, _, .swept hcache hloop hstep fun config' hconfig => ?_, rfl⟩
          cases hconfig
          exact ⟨hconnected, rfl⟩
        · cases h
      · obtain ⟨cache', out, hstep, rfl⟩ := exists_of_stepSweep h
        exact ⟨_, _, .swept hcache hloop hstep (fun _ h => nomatch h), rfl⟩
      · cases h
    · cases h

/-! ## All steps -/

/-- What a step of any actor can be. -/
inductive Stepped (m : Manager) (now : Nat) :
    Actor → Input → Progress Manager Result Event → Prop where
  | called {id : Nat} {input : Input} {p : Progress Manager Result Event}
      (step : Called m now id input p) : Stepped m now (.call id) input p
  | looped {slot : Nat} {r : Registry} {input : Input}
      {q : Progress Registry Registry.Result Registry.Event}
      (hr : m.registry = some r) (work : Registry.Looped r now slot input q) :
      Stepped m now (.flushLoop slot) input
        ⟨{ m with registry := some q.state }, none, q.events.map ofRegistry⟩
  | refreshed {input : Input} {cache : ConfigCache} {loop : RefreshLoop}
      (work : Refreshed m now input cache loop) :
      Stepped m now .refreshLoop input
        (.quiet { m with cache := some cache, refreshLoop := loop })

/-- Every step is one of these cases. -/
theorem stepped_of_step {actor : Actor} (h : m.step now actor input = some p) :
    Stepped m now actor input p := by
  unfold step at h
  split at h
  · next slot =>
    unfold stepFlushLoop at h
    split at h
    · cases h
    · next r hr =>
      split at h
      · cases h
      · next q hstep =>
        cases h
        exact .looped hr (Registry.looped_of_stepLoop hstep)
  · obtain ⟨cache, loop, work, rfl⟩ := refreshed_of_stepRefreshLoop h
    exact .refreshed work
  · next id =>
    split at h
    · cases h
    · next job hjob =>
      refine .called ?_
      -- the phases of a fetch, of a shutdown and of an authorization
      split at h
      all_goals first
        | exact .fetched hjob (fetched_of_stepFetch h)
        | exact called_of_stepShutdown hjob h
        | exact called_of_stepAuthorize hjob h

end Manager

end GatewayAuth
