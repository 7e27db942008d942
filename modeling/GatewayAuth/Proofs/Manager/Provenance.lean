import GatewayAuth.Proofs.Cache.Entries
import GatewayAuth.Proofs.Manager.Coherent

/-!
# `GatewayAuth.Proofs.Manager.Provenance` — where a configuration comes from

The cache keeps configurations by location and service. An entry is filled by the fetch of one call and renewed with
the request of that call, and every call for the same service at the same location shares it, whatever environment it
asks for and whatever token it has. `Traced` follows configurations through fills, renewals, expiries and evictions:
each of them has been supplied by the control plane, for a request of the run with the location and the service that it
is kept under.

## Contents
- `Asked`, `Supplied`, `Sourced`: the requests of a run, and what the control plane has answered to them.
- `Called.fetched_or_beside`: the steps of calls that are not fetches leave the cache alone.
- `Traced`, `traced_of_run`: the invariant.
- `config_supplied`: where the configuration that a call returns comes from.
- `shared`: a run in which a call returns the configuration of another environment.
-/

namespace GatewayAuth.Manager

/-! ## Requests and answers -/

/-- A call has asked for a configuration. -/
def Asked (h : Past) (location : String) (request : ConfigRequest) : Prop :=
  ∃ id, .began (.call id) (.fetch location request) ∈ h

/-- The outside has answered a call with a configuration. -/
def Supplied (h : Past) (call : RemoteCall) (config : ProxyConfig) : Prop :=
  ∃ m now actor p, .stepped m now actor (.fetched (.ok config)) p ∈ h ∧ m.want actor = .reply call

/-- A configuration has been supplied for a request that belongs under a key. -/
def Sourced (h : Past) (key : CacheKey) (config : ProxyConfig) : Prop :=
  ∃ request, request.service = key.service ∧ Asked h key.location request ∧
    Supplied h (request.call key.location) config

/-- A refresher repeats a request that belongs under a key. -/
def Bound (h : Past) (key : CacheKey) (refresher : Refresher) : Prop :=
  refresher.request.key refresher.location = key ∧ Asked h refresher.location refresher.request

variable {m : Manager} {h : Past} {now id : Nat} {actor : Actor} {input : Input}
  {p : Progress Manager Result Event} {location : String} {request : ConfigRequest}
  {config : ProxyConfig} {key : CacheKey}

theorem Asked.cons (hasked : Asked h location request)
    (moment : Moment Manager Task Result Event) : Asked (moment :: h) location request := by
  obtain ⟨id, hmem⟩ := hasked
  exact ⟨id, List.mem_cons_of_mem _ hmem⟩

theorem Supplied.cons {call : RemoteCall} (hsupplied : Supplied h call config)
    (moment : Moment Manager Task Result Event) : Supplied (moment :: h) call config := by
  obtain ⟨m, now, actor, p, hmem, hwant⟩ := hsupplied
  exact ⟨m, now, actor, p, List.mem_cons_of_mem _ hmem, hwant⟩

theorem Sourced.cons (hsourced : Sourced h key config)
    (moment : Moment Manager Task Result Event) : Sourced (moment :: h) key config := by
  obtain ⟨request, hservice, hasked, hsupplied⟩ := hsourced
  exact ⟨request, hservice, hasked.cons moment, hsupplied.cons moment⟩

theorem Bound.cons {refresher : Refresher} (hbound : Bound h key refresher)
    (moment : Moment Manager Task Result Event) : Bound (moment :: h) key refresher :=
  ⟨hbound.1, hbound.2.cons moment⟩

/-- Who is told a configuration has been supplied with it. -/
theorem supplied_now {call : RemoteCall} (hwant : m.want actor = .reply call) (h : Past) :
    Supplied (.stepped m now actor (.fetched (.ok config)) p :: h) call config :=
  ⟨m, now, actor, p, List.mem_cons_self, hwant⟩

/-! ## Steps beside the cache -/

/-- A step of a call is one of a fetch, or has nothing to do with configurations. -/
theorem Called.fetched_or_beside (step : Called m now id input p) :
    (∃ job, m.jobs.find? id = some job ∧ Fetched m now id job input p) ∨
      p.state.cache = m.cache ∧ p.state.refreshLoop = m.refreshLoop ∧
        (∀ job, p.state.jobs.find? id = some job → job.isFetch = false) ∧
        ∀ config, p.result? ≠ some (.fetched config) := by
  have herase : ∀ {jobs : Table Nat ManagerJob} (job : ManagerJob),
      (jobs.erase id).find? id = some job → job.isFetch = false := by
    intro jobs job hjob
    rw [Table.find?_erase_self] at hjob
    cases hjob
  have hanswered : ∀ (answer : Except AuthorizerError AuthResponse)
      (config : Except AuthorizerError ProxyConfig),
      some (Result.answered answer) ≠ some (.fetched config) := fun _ _ h => nomatch h
  have hstopped : ∀ config : Except AuthorizerError ProxyConfig,
      some Result.stopped ≠ some (.fetched config) := fun _ h => nomatch h
  have hmore : ∀ config : Except AuthorizerError ProxyConfig,
      (none : Option Result) ≠ some (.fetched config) := fun _ h => nomatch h
  have hinsert : ∀ {jobs : Table Nat ManagerJob} {mine : ManagerJob}, mine.isFetch = false →
      ∀ job, (jobs.insert id mine).find? id = some job → job.isFetch = false := by
    intro jobs mine hmine job hjob
    rw [Table.find?_insert_self] at hjob
    cases hjob
    exact hmine
  cases step with
  | fetched hjob step => exact .inl ⟨_, hjob, step⟩
  | @waited mine r _ q hjob hat hr work more =>
      refine .inr ⟨rfl, rfl, fun job hjob' => ?_, hmore⟩
      have hjob' : m.jobs.find? id = some job := hjob'
      rw [hjob] at hjob'
      cases hjob'
      cases mine <;> first | rfl | cases hat
  | malformed | returned | flushed | notOpened | called =>
      exact .inr ⟨rfl, rfl, herase, hanswered _⟩
  | followed | stopsNothing | joined => exact .inr ⟨rfl, rfl, herase, hstopped⟩
  | _ => exact .inr ⟨rfl, rfl, hinsert rfl, hmore⟩

/-! ## The invariant -/

/-- Whatever a cache, its sweep and the calls that fill it have in hand stems from a fetch for a request that belongs
where it is. -/
structure Traced (h : Past) (m : Manager) : Prop where
  cache : ∀ cache, m.cache = some cache → cache.Fit (Sourced h) (Bound h)
  sweep : ∀ due sweep attempt connected, m.refreshLoop = .sweeping due sweep attempt connected →
    sweep.Fit (Sourced h) (Bound h)
  stored : ∀ id location request config, m.jobs.find? id = some (.storing location request config) →
    Supplied h (request.call location) config

/-- What a cache holds, seen a moment later. -/
theorem Traced.cache_cons (ht : Traced h m) (moment : Moment Manager Task Result Event)
    {cache : ConfigCache} (hcache : m.cache = some cache) :
    cache.Fit (Sourced (moment :: h)) (Bound (moment :: h)) :=
  (ht.cache cache hcache).imp (fun _ _ hi => hi.cons moment) fun _ _ hr => hr.cons moment

/-- What a sweep has in hand, seen a moment later. -/
theorem Traced.sweep_cons (ht : Traced h m) (moment : Moment Manager Task Result Event)
    {due attempt : Nat} {connected : Bool} {sweep : Sweep ProxyConfig Refresher}
    (hloop : m.refreshLoop = .sweeping due sweep attempt connected) :
    sweep.Fit (Sourced (moment :: h)) (Bound (moment :: h)) :=
  (ht.sweep due sweep attempt connected hloop).imp (fun _ _ hi => hi.cons moment)
    fun _ _ hr => hr.cons moment

/-- A moment that changes neither cache nor sweep, and leads nobody to store anything. -/
theorem Traced.of_beside (ht : Traced h m) {m' : Manager}
    (moment : Moment Manager Task Result Event) (hcache : m'.cache = m.cache)
    (hloop : m'.refreshLoop = m.refreshLoop)
    (hjobs : ∀ id location request config, m'.jobs.find? id = some (.storing location request config) →
      m.jobs.find? id = some (.storing location request config)) : Traced (moment :: h) m' := by
  refine ⟨?_, ?_, ?_⟩
  · intro cache hc
    rw [hcache] at hc
    exact ht.cache_cons moment hc
  · intro due sweep attempt connected hl
    rw [hloop] at hl
    exact ht.sweep_cons moment hl
  · intro id location request config hjob
    have hbefore := ht.stored id location request config (hjobs id location request config hjob)
    exact hbefore.cons moment

/-- **A step of the refresh loop keeps the invariant.** A renewed configuration has been supplied for the request of the
refresher, which belongs under the key that it is stored under. -/
theorem Refreshed.traced {cache : ConfigCache} {loop : RefreshLoop}
    (work : Refreshed m now input cache loop) (ht : Traced h m)
    (p : Progress Manager Result Event) :
    Traced (.stepped m now .refreshLoop input p :: h)
      { m with cache := some cache, refreshLoop := loop } := by
  have hstored : ∀ id location request config,
      m.jobs.find? id = some (.storing location request config) →
        Supplied (.stepped m now .refreshLoop input p :: h) (request.call location) config :=
    fun id location request config hjob => (ht.stored id location request config hjob).cons _
  cases work with
  | ticked hcache idle hdue =>
      refine ⟨?_, ?_, hstored⟩
      · intro cache hc
        cases hc
        exact ht.cache_cons _ hcache
      · intro due sweep attempt connected hl
        cases hl
        trivial
  | told hcache idle stop =>
      refine ⟨?_, ?_, hstored⟩
      · intro cache hc
        cases hc
        exact ht.cache_cons _ hcache
      · intro due sweep attempt connected hl
        cases hl
  | attempted hcache hloop =>
      refine ⟨?_, ?_, hstored⟩
      · intro cache hc
        cases hc
        exact ht.cache_cons _ hcache
      · intro due sweep attempt connected hl
        cases hl
        exact ht.sweep_cons _ hloop
  | @swept cache cache' due attempt connected sweep told input out hcache hloop hstep hrenewed =>
      have hfit := Sweep.fit_of_step hstep
        (ht.cache_cons (.stepped m now .refreshLoop input p) hcache) (ht.sweep_cons _ hloop) ?_
      · refine ⟨?_, ?_, hstored⟩
        · intro cache hc
          cases hc
          exact hfit.1
        · intro due' sweep' attempt' connected' hl
          cases out with
          | inl next =>
              cases hl
              exact hfit.2 _ rfl
          | inr summary => cases hl
      · -- a refresher that is told a configuration has waited for the fetch of its own request
        rintro key refresher rest summary config rfl rfl
        obtain ⟨rfl, rfl⟩ := hrenewed config rfl
        obtain ⟨⟨rfl, hasked⟩, -⟩ := ht.sweep _ _ _ _ hloop
        refine ⟨refresher.request, rfl, hasked.cons _, supplied_now ?_ h⟩
        show m.wantRefreshLoop = _
        unfold wantRefreshLoop
        simp only [hloop, if_true]
        rfl

/-- A call that waits for a fetch waits for the fetch of its own request. -/
theorem want_of_fetching {phase : FetchPhase}
    (hjob : m.jobs.find? id = some (.fetching location request phase)) :
    m.want (.call id) = .reply (request.call location) := by
  simp only [want, hjob]

/-- What a fetch leaves in the cache is fit to be there: what it stores has been supplied for its own request, and the
refresher that goes with it repeats that request. -/
theorem Fetched.cache_fit {job : ManagerJob} (step : Fetched m now id job input p)
    (hjob : m.jobs.find? id = some job) (hc : Coherent h m) (ht : Traced h m) (cache : ConfigCache)
    (hcache : p.state.cache = some cache) :
    cache.Fit (Sourced (.stepped m now (.call id) input p :: h))
      (Bound (.stepped m now (.call id) input p :: h)) := by
  cases step with
  | hit hbefore hget | missed hbefore hget =>
      cases hcache
      exact ((ht.cache_cons _ hbefore).get hget).1
  | @stored location request config before hbefore =>
      cases hcache
      -- the call was asked for this request when it began
      obtain ⟨task, htask, rfl, -⟩ := hc.fits id _ hjob
      have hasked : Asked h location request := ⟨id, History.mem_of_task? htask⟩
      refine (ht.cache_cons _ hbefore).set ?_ ?_ now
      · exact ⟨request, rfl, hasked.cons _, (ht.stored id location request config hjob).cons _⟩
      · exact ⟨rfl, hasked.cons _⟩
  | _ => exact ht.cache_cons _ hcache

/-- A fetch that is about to store a configuration has just been supplied with it. -/
theorem Fetched.supplied_of_storing {job : ManagerJob} (step : Fetched m now id job input p)
    (hjob : m.jobs.find? id = some job)
    (hstoring : p.state.jobs.find? id = some (.storing location request config)) :
    Supplied (.stepped m now (.call id) input p :: h) (request.call location) config := by
  cases step with
  | fetchedFill =>
      rw [Progress.quiet, jobs_resume, Table.find?_insert_self] at hstoring
      cases hstoring
      exact supplied_now (want_of_fetching hjob) h
  | cached | uncached | missed | connected =>
      rw [Progress.quiet, jobs_resume, Table.find?_insert_self] at hstoring
      cases hstoring
  | _ => simp [Progress.done] at hstoring

/-- **A step of a call keeps the invariant.** -/
theorem Called.traced (step : Called m now id input p) (hc : Coherent h m) (ht : Traced h m) :
    Traced (.stepped m now (.call id) input p :: h) p.state := by
  have hothers : ∀ other, other ≠ id → p.state.jobs.find? other = m.jobs.find? other :=
    fun other hne => (Stepped.called step).others fun e => hne (Actor.call.inj e).symm
  rcases step.fetched_or_beside with ⟨job, hjob, fetched⟩ | ⟨hcache, hloop, hbeside, -⟩
  · refine ⟨fetched.cache_fit hjob hc ht, ?_, ?_⟩
    · intro due sweep attempt connected hl
      have hloop : p.state.refreshLoop = m.refreshLoop := by cases fetched <;> rfl
      rw [hloop] at hl
      exact ht.sweep_cons _ hl
    · intro other location request config hstoring
      by_cases hother : other = id
      · subst hother
        exact fetched.supplied_of_storing hjob hstoring
      · rw [hothers other hother] at hstoring
        exact (ht.stored other location request config hstoring).cons _
  · refine ht.of_beside _ hcache hloop fun other location request config hstoring => ?_
    by_cases hother : other = id
    · subst hother
      cases hbeside _ hstoring
    · rw [← hothers other hother]
      exact hstoring

/-- A manager as it starts. -/
theorem traced_new (now : Nat) (limits : Option CacheLimits) (settings : DispatchSettings) :
    Traced [] (new now limits settings) := by
  refine ⟨?_, ?_, ?_⟩
  · intro cache hcache
    obtain ⟨limits', -, rfl⟩ := Option.map_eq_some_iff.1 hcache
    exact Cache.fit_new limits'
  · intro due sweep attempt connected hloop
    unfold new at hloop
    dsimp only at hloop
    split at hloop <;> cases hloop
  · intro id location request config hjob
    cases hjob

/-- **Every configuration can be traced in every reachable state.** -/
theorem traced_of_run {limits : Option CacheLimits} {settings : DispatchSettings}
    (run : Run system (.new now limits settings) h m) : Traced h m := by
  induction run with
  | start => exact traced_new now limits settings
  | @begins h m m' actor task run hbegin ih =>
      cases actor with
      | flushLoop slot => cases hbegin
      | refreshLoop => cases hbegin
      | call id =>
          obtain ⟨-, rfl⟩ := eq_resume_of_begin? hbegin
          refine ih.of_beside _ rfl rfl fun other location request config hstoring => ?_
          rw [jobs_resume, Table.find?_insert] at hstoring
          split at hstoring
          · cases task <;> cases hstoring
          · exact hstoring
  | @steps h m now actor input p run hstep ih =>
      cases stepped_of_step hstep with
      | called step => exact step.traced (coherent_of_run run) ih
      | looped hr work => exact ih.of_beside _ rfl rfl fun _ _ _ _ hjob => hjob
      | refreshed work => exact work.traced ih _

/-! ## What a call returns -/

/-- **Where a configuration comes from.** Whatever the order of steps, when a call returns a configuration, the control
plane has supplied it, by then, at the same location and for the same service, with the token and the environment of a
request that was made in the run; and unless the cache has been hit, this is the request of the call itself. -/
theorem config_supplied {start : Nat} {limits : Option CacheLimits} {settings : DispatchSettings}
    (run : Run system (.new start limits settings) h m)
    (hstep : system.step m now (.call id) input = some p)
    (htask : h.task? (.call id) = some (.fetch location request))
    (hresult : p.result? = some (.fetched (.ok config))) :
    ∃ request', request'.service = request.service ∧ Asked h location request' ∧
      Supplied (.stepped m now (.call id) input p :: h) (request'.call location) config ∧
      (request' = request ∨ p.events = [.cacheHit]) := by
  have hc := coherent_of_run run
  have ht := traced_of_run run
  have hasked : Asked h location request := ⟨id, History.mem_of_task? htask⟩
  have step : Stepped m now (.call id) input p := stepped_of_step hstep
  cases step with
  | called step =>
      rcases step.fetched_or_beside with ⟨job, hjob, fetched⟩ | ⟨-, -, -, hno⟩
      · obtain ⟨task, htask', hfits⟩ := hc.fits id job hjob
        rw [htask] at htask'
        cases htask'
        cases fetched with
        | hit hcache hget =>
            cases hresult
            obtain ⟨heq, -⟩ := hfits
            cases heq
            -- the entry has its configuration from whoever filled or renewed it
            obtain ⟨request', hservice, hasked', hsupplied⟩ :=
              ((ht.cache _ hcache).get hget).2 config rfl
            exact ⟨request', hservice, hasked', hsupplied.cons _, .inr rfl⟩
        | fetchedDirect hphase =>
            cases hresult
            obtain ⟨heq, -⟩ := hfits
            cases heq
            exact ⟨request, rfl, hasked, supplied_now (want_of_fetching hjob) h, .inl rfl⟩
        | stored hcache =>
            cases hresult
            obtain ⟨heq, -⟩ := hfits
            cases heq
            exact ⟨request, rfl, hasked, (ht.stored id _ _ _ hjob).cons _, .inl rfl⟩
        | _ => cases hresult
      · exact absurd hresult (hno _)

/-! ## An entry that is shared -/

/-- The configuration in a result. -/
def Result.config? : Result → Option ProxyConfig
  | .fetched (.ok config) => some config
  | _ => none

theorem exists_config_of_isSome {result? : Option Result}
    (hsome : (result?.bind Result.config?).isSome = true) :
    ∃ config, result? = some (.fetched (.ok config)) := by
  obtain ⟨config, hconfig⟩ := Option.isSome_iff_exists.1 hsome
  obtain ⟨result, hresult, hconfig⟩ := Option.bind_eq_some_iff.1 hconfig
  cases result with
  | fetched answer =>
      cases answer with
      | ok config' => exact ⟨config', hresult⟩
      | error e => cases hconfig
  | answered answer => cases hconfig
  | stopped => cases hconfig

/-- What has not been supplied so far. -/
theorem not_supplied_of_all {call : RemoteCall}
    (hall : h.all (fun moment => match moment with
      | .stepped m _ actor (.fetched (.ok _)) _ => m.want actor != .reply call
      | _ => true) = true) (config : ProxyConfig) : ¬ Supplied h call config := by
  rintro ⟨m, now, actor, p, hmem, hwant⟩
  have hne : (m.want actor != .reply call) = true := List.all_eq_true.1 hall _ hmem
  rw [hwant, bne_self_eq_false] at hne
  cases hne

/-- A request for the configuration of one service, with a token and for an environment. -/
def wanting (token environment : String) : ConfigRequest := ⟨token, "42", environment⟩

/-- A manager with a cache. -/
def cachingManager : Manager := .new 0 (some ⟨10, 0, 60000, 300000⟩) ⟨false, 15000, .closed⟩

/-- A call is supplied with the configuration of one environment and stores it. Then another call asks for that of
another environment, with another token, and is about to look into the cache. -/
def shared : List (Move Task) :=
  [.begin (.call 0) (.fetch "cp" (wanting "alpha" "production")), .step 0 (.call 0) .turn,
    .step 0 (.call 0) .turn, .step 0 (.call 0) (.built (.ok ())),
    .step 5 (.call 0) (.fetched (.ok { (default : ProxyConfig) with environment := "production" })),
    .step 5 (.call 0) .turn,
    .begin (.call 1) (.fetch "cp" (wanting "beta" "staging")), .step 9 (.call 1) .turn]

/-- The step at which it finds the entry of the first call. -/
def sharedHit : Progress Manager Result Event :=
  ((system.play cachingManager shared).2.step 9 (.call 1) .turn).get (by decide +kernel)

theorem step_eq_sharedHit :
    system.step (system.play cachingManager shared).2 9 (.call 1) .turn = some sharedHit :=
  (Option.some_get _).symm

theorem config_supplied_shared :
    ∃ config request', sharedHit.result? = some (.fetched (.ok config)) ∧ request'.service = "42" ∧
      Asked (system.play cachingManager shared).1 "cp" request' ∧
      Supplied (.stepped (system.play cachingManager shared).2 9 (.call 1) .turn sharedHit ::
        (system.play cachingManager shared).1) (request'.call "cp") config := by
  have htask : (system.play cachingManager shared).1.task? (.call 1) =
      some (.fetch "cp" (wanting "beta" "staging")) := by decide +kernel
  obtain ⟨config, hresult⟩ : ∃ config, sharedHit.result? = some (.fetched (.ok config)) :=
    exists_config_of_isSome (by decide +kernel)
  obtain ⟨request', hservice, hasked, hsupplied, -⟩ := config_supplied
    (system.run_play cachingManager shared) step_eq_sharedHit htask hresult
  exact ⟨config, request', hresult, hservice, hasked, hsupplied⟩

/-- **A call may be answered with the configuration of another environment.** It asks for one environment with its token,
and is answered with the configuration of another; no configuration has ever been supplied for what it asks for. -/
theorem config_of_other_environment :
    let past := (system.play cachingManager (shared ++ [.step 9 (.call 1) .turn])).1
    past.outcomes.map (fun o => (o.1, o.2.config?.map ProxyConfig.environment)) =
        [(.fetch "cp" (wanting "beta" "staging"), some "production"),
          (.fetch "cp" (wanting "alpha" "production"), some "production")] ∧
      ∀ config, ¬ Supplied past ((wanting "beta" "staging").call "cp") config :=
  ⟨by decide +kernel, not_supplied_of_all (by decide +kernel)⟩

end GatewayAuth.Manager
