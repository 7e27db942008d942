import GatewayAuth.Proofs.Cache.Capacity
import GatewayAuth.Proofs.Manager.Provenance

/-!
# `GatewayAuth.Proofs.Manager.Lookup` — a call for a configuration does exactly one thing

A call for a configuration is turned away, or it is answered from the cache, or it fetches. Which of these it does is
settled by what it asks for and by one look into the cache; from then on the call has one way to go, whatever others do
to the cache in the meantime. So each of its steps adds to what it has done before, and the counts of hits and misses
in the cache are those of the calls that have hit and missed.

## Contents
- `Tending`, `tended`: a manager whose cache is also set, purged and renewed from outside, but not read.
- `LookStepped`, `lookStepped_of_step`: the cases of a step of a call for a configuration.
- `Inert`, `MissedAt`, `Missed`, `On`: what a call has done when it comes to a phase; `On.stepped`.
- `Hit`, `Miss`, `OneThing`: what it has done in the end.
- `Looking`, `looking_of_run`: the invariant of each call.
- `toldClient?`, `toldFetch?`, `Tallies`, `tallies_of_run`: what calls have been told, and the counts of the cache.
- `LooksUp`, `looksUp_of_run`: what calls for configurations do.
-/

namespace GatewayAuth

/-! ## One look into a cache -/

namespace Cache

variable {ι ρ : Type} {c c' : Cache ι ρ} {now : Nat} {key : CacheKey}

/-- A read that finds an item uses its entry, counts a hit, and does nothing else. -/
theorem eq_of_get_some {item : ι} (hget : c.get now key = (some item, c')) :
    ∃ e, c.entries.find? key = some e ∧ now < e.deadline ∧ e.item = item ∧
      c' = { c with
        entries := c.entries.insert key { e with lastUsed := now }
        stats := { c.stats with hits := c.stats.hits + 1 } } := by
  obtain ⟨e, he, hitem, hlive⟩ := get_eq_some hget
  have hnot := isExpired_eq_false_iff.2 hlive
  refine ⟨e, he, hlive, hitem, ?_⟩
  unfold get at hget
  simp only [he, hnot, Bool.false_eq_true, if_false] at hget
  exact (Prod.mk.inj hget).2.symm

/-- A read that finds nothing counts a miss, and takes out the entry of its key if there was one, which had expired. -/
theorem of_get_none (hget : c.get now key = (none, c')) :
    (∀ e, c.entries.find? key = some e → e.deadline ≤ now) ∧ c'.entries.find? key = none ∧
      (∀ key', key' ≠ key → c'.entries.find? key' = c.entries.find? key') ∧
      c'.stats.misses = c.stats.misses + 1 ∧ c'.stats.hits = c.stats.hits := by
  have hgone := get_eq_none hget
  unfold get at hget
  split at hget
  · next e he =>
    split at hget
    · next hexpired =>
      cases hget
      refine ⟨fun e' he' => ?_, hgone, fun key' hne => ?_, rfl, rfl⟩
      · rw [he] at he'
        cases he'
        exact of_decide_eq_true hexpired
      · exact (Table.find?_erase _ _ _).trans (if_neg (Ne.symm hne))
    · cases hget
  · next hnone =>
    cases hget
    refine ⟨fun e he => ?_, hgone, fun _ _ => rfl, rfl, rfl⟩
    rw [hnone] at he
    cases he

end Cache

namespace Manager

/-! ## A cache that is tended from outside -/

/-- What someone may do to the cache of a manager, without reading it: set and remove entries, and take the steps of
sweeps. -/
inductive Tending where
  | set (now : Nat) (key : CacheKey) (config : ProxyConfig) (refresher : Refresher)
  | remove (key : CacheKey)
  | collect (now : Nat)
  | store (now : Nat) (key : CacheKey) (config : ProxyConfig)
  | close (summary : SweepSummary)

/-- The cache afterwards. -/
def Tending.apply (cache : ConfigCache) : Tending → ConfigCache
  | set now key config refresher => cache.set now key config refresher
  | remove key => (cache.remove key).2
  | collect now => (cache.startSweep now).1
  | store now key config => (cache.storeRefreshed now key config).2
  | close summary => cache.finishSweep summary

/-- A manager as a system of actors, with its cache in the hands of others as well. What they do to it comes under the
name of the refresh loop, which is given no other tasks. -/
def tended : System Manager (Task ⊕ Tending) Result Event :=
  ⟨fun m actor task =>
    match actor, task with
    | .call id, .inl task => m.begin? id task
    | .refreshLoop, .inr tending => m.cache.map fun cache => { m with cache := some (tending.apply cache) }
    | _, _ => none, want, step⟩

/-- What has happened at such a manager. -/
abbrev TendedPast := History Manager (Task ⊕ Tending) Result Event

variable {m m' : Manager} {h steps : TendedPast} {now start id : Nat} {actor : Actor} {input : Input}
  {p : Progress Manager Result Event} {location : String} {request : ConfigRequest}
  {job : ManagerJob} {cache cache' : ConfigCache} {key : CacheKey}
  {moment : Moment Manager (Task ⊕ Tending) Result Event}

/-- What can happen at the start of a task. -/
theorem begins_or_tends {task : Task ⊕ Tending} (hbegin : tended.begin? m actor task = some m') :
    (∃ id asked, actor = .call id ∧ task = .inl asked ∧ m.jobs.find? id = none ∧
        m' = m.resume id asked.job) ∨
      ∃ tending cache, actor = .refreshLoop ∧ task = .inr tending ∧ m.cache = some cache ∧
        m' = { m with cache := some (tending.apply cache) } := by
  simp only [tended] at hbegin
  split at hbegin
  · next id asked =>
    obtain ⟨hfree, rfl⟩ := eq_resume_of_begin? hbegin
    exact .inl ⟨id, asked, rfl, rfl, hfree, rfl⟩
  · next tending =>
    obtain ⟨cache, hcache, rfl⟩ := Option.map_eq_some_iff.1 hbegin
    exact .inr ⟨tending, cache, rfl, rfl, hcache, rfl⟩
  · cases hbegin

/-! ## The steps of a call for a configuration -/

/-- The cases of a step of a call for a configuration, at a manager with a cache. -/
inductive LookStepped (m : Manager) (cache : ConfigCache) (now id : Nat) :
    ManagerJob → Input → Progress Manager Result Event → Prop where
  | invalid {location : String} {request : ConfigRequest} {e : AuthorizerError}
      (hinvalid : request.validate = .error e) :
      LookStepped m cache now id (.validating location request) .turn
        (.done { m with jobs := m.jobs.erase id } (.fetched (.error e)))
  | checked {location : String} {request : ConfigRequest} (hvalid : request.validate = .ok ()) :
      LookStepped m cache now id (.validating location request) .turn
        (.quiet (m.resume id (.looking location request)))
  | hit {location : String} {request : ConfigRequest} {cache' : ConfigCache} {config : ProxyConfig}
      (hget : cache.get now (request.key location) = (some config, cache')) :
      LookStepped m cache now id (.looking location request) .turn
        ⟨{ m with cache := some cache', jobs := m.jobs.erase id }, some (.fetched (.ok config)),
          [.cacheHit]⟩
  | missed {location : String} {request : ConfigRequest} {cache' : ConfigCache}
      (hget : cache.get now (request.key location) = (none, cache')) :
      LookStepped m cache now id (.looking location request) .turn
        (.quiet (({ m with cache := some cache' } : Manager).resume id
          (.connecting location request .cacheFill)))
  | connected {location : String} {request : ConfigRequest} {phase : FetchPhase} :
      LookStepped m cache now id (.connecting location request phase) (.built (.ok ()))
        (.quiet (m.resume id (.fetching location request phase)))
  | notConnected {location : String} {request : ConfigRequest} {phase : FetchPhase}
      {e : AuthorizerError} :
      LookStepped m cache now id (.connecting location request phase) (.built (.error e))
        (.done { m with jobs := m.jobs.erase id } (.fetched (.error e)))
  | fetchFailed {location : String} {request : ConfigRequest} {phase : FetchPhase} {e : SystemError} :
      LookStepped m cache now id (.fetching location request phase) (.fetched (.error e))
        (.done { m with jobs := m.jobs.erase id } (.fetched (.error (.remoteFetch phase e))))
  | fetchedFill {location : String} {request : ConfigRequest} {config : ProxyConfig} :
      LookStepped m cache now id (.fetching location request .cacheFill) (.fetched (.ok config))
        (.quiet (m.resume id (.storing location request config)))
  | fetchedDirect {location : String} {request : ConfigRequest} {phase : FetchPhase}
      {config : ProxyConfig} (hphase : phase ≠ .cacheFill) :
      LookStepped m cache now id (.fetching location request phase) (.fetched (.ok config))
        (.done { m with jobs := m.jobs.erase id } (.fetched (.ok config)))
  | stored {location : String} {request : ConfigRequest} {config : ProxyConfig} :
      LookStepped m cache now id (.storing location request config) .turn
        (.done { m with
          cache := some (cache.set now (request.key location) config
            ⟨location, request, ⟨cache.limits.retries⟩⟩)
          jobs := m.jobs.erase id } (.fetched (.ok config)))

theorem lookStepped_of_step (hstep : m.step now (.call id) input = some p)
    (hjob : m.jobs.find? id = some job) (hfetch : job.isFetch = true) (hcache : m.cache = some cache) :
    LookStepped m cache now id job input p := by
  have step : Called m now id input p := by
    cases stepped_of_step hstep with
    | called step => exact step
  have hchecks : ∀ {location request}, job = .validating location request →
      LookStepped m cache now id job input p := by
    rintro location request rfl
    unfold Manager.step at hstep
    simp only [hjob] at hstep
    unfold stepFetch at hstep
    cases input with
    | turn =>
        cases hvalid : request.validate with
        | error e =>
            simp only [hvalid] at hstep
            cases hstep
            exact .invalid hvalid
        | ok _ =>
            simp only [hvalid, hcache] at hstep
            cases hstep
            exact .checked hvalid
    | _ => cases hstep
  cases step.fetched_of_isFetch hjob hfetch with
  | invalid | cached | uncached => exact hchecks rfl
  | hit hcache' hget =>
      rw [hcache] at hcache'
      cases hcache'
      exact .hit hget
  | missed hcache' hget =>
      rw [hcache] at hcache'
      cases hcache'
      exact .missed hget
  | connected => exact .connected
  | notConnected => exact .notConnected
  | fetchFailed => exact .fetchFailed
  | fetchedFill => exact .fetchedFill
  | fetchedDirect hphase => exact .fetchedDirect hphase
  | stored hcache' =>
      rw [hcache] at hcache'
      cases hcache'
      exact .stored

theorem LookStepped.cached (step : LookStepped m cache now id job input p)
    (hcache : m.cache = some cache) : ∃ cache', p.state.cache = some cache' := by
  cases step with
  | hit | missed | stored => exact ⟨_, rfl⟩
  | _ => exact ⟨cache, hcache⟩

/-! ## What a call has done so far -/

/-- A step that nothing can be seen of, and that leaves the cache as it is. -/
def Inert : Moment Manager (Task ⊕ Tending) Result Event → Prop
  | .began _ _ => False
  | .stepped m _ _ _ p => p.events = [] ∧ p.state.cache = m.cache

/-- A look into the cache that does not find a key, or finds it expired. The entry of that key is gone afterwards; all
others are as they were. -/
def MissedAt (key : CacheKey) : Moment Manager (Task ⊕ Tending) Result Event → Prop
  | .began _ _ => False
  | .stepped m now _ _ p => p.events = [] ∧ ∃ cache cache', m.cache = some cache ∧
      p.state.cache = some cache' ∧ (∀ e, cache.entries.find? key = some e → e.deadline ≤ now) ∧
      cache'.entries.find? key = none ∧
      (∀ key', key' ≠ key → cache'.entries.find? key' = cache.entries.find? key') ∧
      cache'.stats.misses = cache.stats.misses + 1 ∧ cache'.stats.hits = cache.stats.hits

/-- A call has looked into the cache once, in vain, and has done nothing else there. -/
structure Missed (key : CacheKey) (steps : TendedPast) : Prop where
  events : steps.events = []
  looked : ∃ before look after, steps = after ++ look :: before ∧ MissedAt key look ∧
    ∀ step ∈ after ++ before, Inert step

/-- What a call for a configuration has done when it has come to a phase. -/
inductive On (location : String) (request : ConfigRequest) : TendedPast → ManagerJob → Prop where
  | validating : On location request [] (.validating location request)
  | looking {first : Moment Manager (Task ⊕ Tending) Result Event}
      (hvalid : request.validate = .ok ()) (hinert : Inert first)
      (hasked : tended.exchanges [first] = []) : On location request [first] (.looking location request)
  | connecting {steps : TendedPast} (hvalid : request.validate = .ok ()) (hlength : steps.length = 2)
      (missed : Missed (request.key location) steps) (hasked : tended.exchanges steps = []) :
      On location request steps (.connecting location request .cacheFill)
  | fetching {steps : TendedPast} (hvalid : request.validate = .ok ()) (hlength : steps.length = 3)
      (missed : Missed (request.key location) steps)
      (hasked : tended.exchanges steps = [(.client (request.client location), .built (.ok ()))]) :
      On location request steps (.fetching location request .cacheFill)
  | storing {steps : TendedPast} {config : ProxyConfig} (hvalid : request.validate = .ok ())
      (hlength : steps.length = 4) (missed : Missed (request.key location) steps)
      (hasked : tended.exchanges steps =
        [(.reply (request.call location), .fetched (.ok config)),
          (.client (request.client location), .built (.ok ()))]) :
      On location request steps (.storing location request config)

/-! ## What a call has done in the end -/

/-- A call that has been answered from the cache: it has found an entry that was not expired, and used it; nothing has
been asked of the outside. -/
structure Hit (key : CacheKey) (steps : TendedPast) (result : Except AuthorizerError ProxyConfig) :
    Prop where
  events : steps.events = [.cacheHit]
  asked : tended.exchanges steps = []
  found : ∃ look check, steps = [look, check] ∧ Inert check ∧
    ∃ m now id p cache e, look = .stepped m now (.call id) .turn p ∧ m.cache = some cache ∧
      cache.entries.find? key = some e ∧ now < e.deadline ∧ result = .ok e.item ∧
      p.state.cache = some { cache with
        entries := cache.entries.insert key { e with lastUsed := now }
        stats := { cache.stats with hits := cache.stats.hits + 1 } }

/-- A call that has been answered by the outside. One client has been built for it, and if that went well, one fetch has
been made, and never a second one. -/
inductive Miss (location : String) (request : ConfigRequest) :
    TendedPast → Except AuthorizerError ProxyConfig → Prop where
  | notBuilt {steps : TendedPast} {e : AuthorizerError} (missed : Missed (request.key location) steps)
      (hasked : tended.exchanges steps = [(.client (request.client location), .built (.error e))]) :
      Miss location request steps (.error e)
  | notFetched {steps : TendedPast} {e : SystemError} (missed : Missed (request.key location) steps)
      (hasked : tended.exchanges steps =
        [(.reply (request.call location), .fetched (.error e)),
          (.client (request.client location), .built (.ok ()))]) :
      Miss location request steps (.error (.remoteFetch .cacheFill e))
  /-- What it is answered is stored with its last step, for one time to live, with a refresher that makes this request
  again. -/
  | filled {steps : TendedPast} {config : ProxyConfig} {m : Manager} {cache : ConfigCache} {now id : Nat}
      {p : Progress Manager Result Event} (missed : Missed (request.key location) steps)
      (hasked : tended.exchanges (.stepped m now (.call id) .turn p :: steps) =
        [(.reply (request.call location), .fetched (.ok config)),
          (.client (request.client location), .built (.ok ()))])
      (hevents : p.events = []) (hcache : m.cache = some cache)
      (hset : p.state.cache = some (cache.set now (request.key location) config
        ⟨location, request, ⟨cache.limits.retries⟩⟩))
      (hstored : (cache.set now (request.key location) config
          ⟨location, request, ⟨cache.limits.retries⟩⟩).entries.find? (request.key location) =
        some ⟨config, ⟨location, request, ⟨cache.limits.retries⟩⟩, now + cache.limits.ttl, now⟩) :
      Miss location request (.stepped m now (.call id) .turn p :: steps) (.ok config)

/-- What a call for a configuration has done that has come to a result. -/
structure OneThing (location : String) (request : ConfigRequest) (steps : TendedPast)
    (result : Except AuthorizerError ProxyConfig) : Prop where
  /-- A request that is not valid is turned away with the first step, which changes nothing. -/
  invalid : ∀ e, request.validate = .error e → result = .error e ∧ tended.exchanges steps = [] ∧
    ∃ step, steps = [step] ∧ Inert step
  /-- A valid request is a hit, or it is a miss. -/
  valid : request.validate = .ok () →
    Hit (request.key location) steps result ∨ Miss location request steps result

/-! ## One step further -/

theorem Inert.events (hinert : Inert moment) : moment.events = [] := by
  cases moment with
  | began => cases hinert
  | stepped => exact hinert.1

theorem MissedAt.events (hmissed : MissedAt key moment) : moment.events = [] := by
  cases moment with
  | began => cases hmissed
  | stepped => exact hmissed.1

/-- A call that has just looked in vain. -/
theorem missed_of_look {look check : Moment Manager (Task ⊕ Tending) Result Event}
    (hlook : MissedAt key look) (hcheck : Inert check) : Missed key [look, check] := by
  constructor
  · show look.events ++ (check.events ++ []) = []
    rw [hlook.events, hcheck.events]
    rfl
  · refine ⟨[check], look, [], rfl, hlook, fun step hstep => ?_⟩
    cases List.mem_singleton.1 hstep
    exact hcheck

/-- An inert step of a call that has looked in vain. -/
theorem Missed.inert (missed : Missed key steps) (hinert : Inert moment) :
    Missed key (moment :: steps) := by
  obtain ⟨hnone, before, look, after, rfl, hlook, hrest⟩ := missed
  refine ⟨?_, before, look, moment :: after, rfl, hlook, ?_⟩
  · show moment.events ++ History.events _ = []
    rw [hinert.events, hnone]
    rfl
  · intro step hstep
    rcases List.mem_cons.1 hstep with rfl | hold
    · exact hinert
    · exact hrest step hold

/-- A valid request that has come to its end. -/
theorem OneThing.of_valid {result : Except AuthorizerError ProxyConfig}
    (hvalid : request.validate = .ok ())
    (hdone : Hit (request.key location) steps result ∨ Miss location request steps result) :
    OneThing location request steps result := by
  refine ⟨fun e he => ?_, fun _ => hdone⟩
  rw [hvalid] at he
  cases he

/-- What a call for a configuration waits for in its phases. -/
theorem On.want (on : On location request steps job) (hjob : m.jobs.find? id = some job) :
    tended.want m (.call id) = match job with
      | .connecting _ _ _ => .client (request.client location)
      | .fetching _ _ _ => .reply (request.call location)
      | _ => .turn := by
  cases on <;> simp only [tended, Manager.want, hjob]

/-- **A step of a call for a configuration takes it to the next phase, or to its end.** -/
theorem On.stepped (on : On location request steps job)
    (hjob : m.jobs.find? id = some job) (hcache : m.cache = some cache)
    (step : LookStepped m cache now id job input p) :
    (p.result? = none ∧ ∃ job', p.state.jobs.find? id = some job' ∧ job'.isFetch = true ∧
        On location request (.stepped m now (.call id) input p :: steps) job') ∨
      p.state.jobs.find? id = none ∧ ∃ result, p.result? = some (.fetched result) ∧
        OneThing location request (.stepped m now (.call id) input p :: steps) result := by
  have hwant := on.want hjob
  cases on with
  | validating =>
      cases step with
      | invalid hinvalid =>
          refine .inr ⟨Table.find?_erase_self _ _, _, rfl, ?_, ?_⟩
          · intro e he
            rw [hinvalid] at he
            cases he
            exact ⟨rfl, System.exchanges_of_turn hwant, _, rfl, rfl, rfl⟩
          · intro hvalid
            rw [hinvalid] at hvalid
            cases hvalid
      | checked hvalid =>
          exact .inl ⟨rfl, _, Table.find?_insert_self _ _ _, rfl,
            .looking hvalid ⟨rfl, rfl⟩ (System.exchanges_of_turn hwant)⟩
  | @looking first hvalid hinert hasked =>
      cases step with
      | hit hget =>
          obtain ⟨e, he, hlive, rfl, rfl⟩ := Cache.eq_of_get_some hget
          refine .inr ⟨Table.find?_erase_self _ _, _, rfl, .of_valid hvalid (.inl ?_)⟩
          constructor
          case events =>
            show [Event.cacheHit] ++ (first.events ++ []) = _
            rw [hinert.events]
            rfl
          case asked => exact (System.exchanges_of_turn hwant).trans hasked
          case found =>
            exact ⟨_, first, rfl, hinert, m, now, id, _, cache, e, rfl, hcache, he, hlive, rfl, rfl⟩
      | missed hget =>
          refine .inl ⟨rfl, _, Table.find?_insert_self _ _ _, rfl, ?_⟩
          refine .connecting hvalid rfl (missed_of_look ?_ hinert)
            ((System.exchanges_of_turn hwant).trans hasked)
          exact ⟨rfl, cache, _, hcache, rfl, Cache.of_get_none hget⟩
  | connecting hvalid hlength missed hasked =>
      cases step with
      | connected =>
          refine .inl ⟨rfl, _, Table.find?_insert_self _ _ _, rfl, ?_⟩
          refine .fetching hvalid (congrArg Nat.succ hlength) (missed.inert ⟨rfl, rfl⟩) ?_
          rw [System.exchanges_of_client hwant, hasked]
      | notConnected =>
          refine .inr ⟨Table.find?_erase_self _ _, _, rfl, .of_valid hvalid (.inr ?_)⟩
          refine .notBuilt (missed.inert ⟨rfl, rfl⟩) ?_
          rw [System.exchanges_of_client hwant, hasked]
  | fetching hvalid hlength missed hasked =>
      cases step with
      | fetchFailed =>
          refine .inr ⟨Table.find?_erase_self _ _, _, rfl, .of_valid hvalid (.inr ?_)⟩
          refine .notFetched (missed.inert ⟨rfl, rfl⟩) ?_
          rw [System.exchanges_of_reply hwant, hasked]
      | fetchedFill =>
          refine .inl ⟨rfl, _, Table.find?_insert_self _ _ _, rfl, ?_⟩
          refine .storing hvalid (congrArg Nat.succ hlength) (missed.inert ⟨rfl, rfl⟩) ?_
          rw [System.exchanges_of_reply hwant, hasked]
      | fetchedDirect hphase => exact absurd rfl hphase
  | storing hvalid hlength missed hasked =>
      cases step with
      | stored =>
          refine .inr ⟨Table.find?_erase_self _ _, _, rfl, .of_valid hvalid (.inr ?_)⟩
          exact .filled missed ((System.exchanges_of_turn hwant).trans hasked) rfl hcache rfl
            (Cache.find?_set_self _ _ _ _ _)

/-! ## Steps beside -/

/-- The counts of reads. -/
def readCounts (cache : ConfigCache) : Nat × Nat := (cache.stats.hits, cache.stats.misses)

theorem readCounts_store (cache : ConfigCache) (now : Nat) (key : CacheKey) (config : ProxyConfig) :
    readCounts (cache.storeRefreshed now key config).2 = readCounts cache := by
  unfold Cache.storeRefreshed
  split <;> rfl

/-- Who tends a cache does not read it. -/
theorem readCounts_apply (tending : Tending) (cache : ConfigCache) :
    readCounts (tending.apply cache) = readCounts cache := by
  cases tending with
  | store now key config => exact readCounts_store _ _ _ _
  | _ => rfl

/-- Nor does a sweep. -/
theorem readCounts_sweep {sweep : Sweep ProxyConfig Refresher} {told : Sweep.Told ProxyConfig}
    {out : Sweep ProxyConfig Refresher ⊕ SweepSummary}
    (hstep : sweep.step cache now told = some (cache', out)) : readCounts cache' = readCounts cache := by
  unfold Sweep.step at hstep
  split at hstep
  · cases hstep
    rfl
  · cases hstep
    rfl
  · cases hstep
    rfl
  · cases hstep
    exact readCounts_store _ _ _ _
  · cases hstep
    rfl
  · cases hstep

/-- What is no step of a call for a configuration does not read the cache, reports no hit, and leads to no such call. -/
theorem Stepped.beside (step : Stepped m now actor input p) (hcache : m.cache = some cache)
    (hnot : ∀ id job, actor = .call id → m.jobs.find? id = some job → job.isFetch = false) :
    (∃ cache', p.state.cache = some cache' ∧ readCounts cache' = readCounts cache) ∧
      p.events.count .cacheHit = 0 ∧
      ∀ id job, actor = .call id → p.state.jobs.find? id = some job → job.isFetch = false := by
  have hregistry : ∀ events : List Registry.Event, (events.map ofRegistry).count .cacheHit = 0 := by
    intro events
    refine List.count_eq_zero.2 fun hmem => ?_
    obtain ⟨e, -, heq⟩ := List.mem_map.1 hmem
    cases e
    cases heq
  cases step with
  | looped hr work => exact ⟨⟨cache, hcache, rfl⟩, hregistry _, nofun⟩
  | refreshed work =>
      refine ⟨⟨_, rfl, ?_⟩, rfl, nofun⟩
      cases work with
      | ticked hcache' | told hcache' | attempted hcache' =>
          rw [hcache] at hcache'
          cases hcache'
          rfl
      | swept hcache' hloop hstep =>
          rw [hcache] at hcache'
          cases hcache'
          exact readCounts_sweep hstep
  | @called id _ _ step =>
      rcases step.fetched_or_beside with ⟨job, hjob, hstep⟩ | ⟨hsame, -, hafter, -⟩
      · have hfetch := hstep.isFetch
        rw [hnot id job rfl hjob] at hfetch
        cases hfetch
      · refine ⟨⟨cache, hsame.trans hcache, rfl⟩, ?_, ?_⟩
        · cases step with
          | fetched hjob hstep =>
              have hfetch := hstep.isFetch
              rw [hnot id _ rfl hjob] at hfetch
              cases hfetch
          | notAcquired =>
              show (List.map ofRegistry _ ++ [Event.creationFailed _]).count .cacheHit = 0
              rw [List.count_append, hregistry]
              rfl
          | waited | acquired | answered | flushed | drained => exact hregistry _
          | _ => rfl
        · intro id' job hid hjob
          cases hid
          exact hafter job hjob

/-! ## The invariant -/

/-- Every call for a configuration has done what takes it to its phase. -/
structure Looking (h : TendedPast) (m : Manager) : Prop where
  cached : ∃ cache, m.cache = some cache
  on : ∀ id job, m.jobs.find? id = some job → job.isFetch = true → ∃ location request,
    h.task? (.call id) = some (.inl (.fetch location request)) ∧
      On location request (h.path (.call id)) job
  others : ∀ id job, m.jobs.find? id = some job → job.isFetch = false → ∀ location request,
    h.task? (.call id) ≠ some (.inl (.fetch location request))

theorem looking_new (start : Nat) (limits : CacheLimits) (settings : DispatchSettings) :
    Looking [] (new start (some limits) settings) :=
  ⟨⟨_, rfl⟩, fun _ _ hjob => (nomatch hjob), fun _ _ hjob => (nomatch hjob)⟩

theorem Looking.begins (looking : Looking h m) (hfree : m.jobs.find? id = none) (asked : Task) :
    Looking (.began (.call id) (.inl asked) :: h) (m.resume id asked.job) := by
  have hothers : ∀ {other}, other ≠ id →
      (m.resume id asked.job).jobs.find? other = m.jobs.find? other := fun hne =>
    (Table.find?_insert _ _ _ _).trans (if_neg (Ne.symm hne))
  have hmine : (m.resume id asked.job).jobs.find? id = some asked.job := Table.find?_insert_self _ _ _
  constructor
  case cached => exact looking.cached
  case on =>
    intro other job hjob hfetch
    by_cases hother : other = id
    · subst hother
      rw [hmine] at hjob
      cases hjob
      rw [History.task?_began, if_pos rfl, History.path_began_self]
      cases asked with
      | fetch location request => exact ⟨location, request, rfl, .validating⟩
      | authorize | shutdown => cases hfetch
    · have hne : Actor.call id ≠ .call other := fun heq => hother (Actor.call.inj heq).symm
      rw [hothers hother] at hjob
      rw [History.task?_began, if_neg hne, History.path_began_of_ne hne]
      exact looking.on other job hjob hfetch
  case others =>
    intro other job hjob hnot location request htask
    by_cases hother : other = id
    · subst hother
      rw [hmine] at hjob
      cases hjob
      rw [History.task?_began, if_pos rfl] at htask
      cases htask
      cases hnot
    · have hne : Actor.call id ≠ .call other := fun heq => hother (Actor.call.inj heq).symm
      rw [hothers hother] at hjob
      rw [History.task?_began, if_neg hne] at htask
      exact looking.others other job hjob hnot location request htask

theorem Looking.tends (looking : Looking h m) (tending : Tending) (cache : ConfigCache) :
    Looking (.began .refreshLoop (.inr tending) :: h) { m with cache := some cache } := by
  have hne : ∀ id, Actor.refreshLoop ≠ .call id := nofun
  refine ⟨⟨_, rfl⟩, fun id job hjob hfetch => ?_, looking.others⟩
  rw [History.path_began_of_ne (hne id)]
  exact looking.on id job hjob hfetch

/-- A step of one call leaves the others where they are. -/
theorem Looking.stepped (looking : Looking h m) (hstep : m.step now actor input = some p) :
    Looking (.stepped m now actor input p :: h) p.state := by
  obtain ⟨cache, hcache⟩ := looking.cached
  have step := stepped_of_step hstep
  by_cases hmine : ∃ id job, actor = .call id ∧ m.jobs.find? id = some job ∧ job.isFetch = true
  · obtain ⟨id, job, rfl, hjob, hfetch⟩ := hmine
    have hlook := lookStepped_of_step hstep hjob hfetch hcache
    obtain ⟨location, request, htask, on⟩ := looking.on id job hjob hfetch
    have hothers : ∀ {other}, other ≠ id → p.state.jobs.find? other = m.jobs.find? other :=
      fun hne => step.others fun heq => hne (Actor.call.inj heq).symm
    constructor
    case cached => exact hlook.cached hcache
    case on =>
      intro other job' hjob' hfetch'
      by_cases hother : other = id
      · subst hother
        rw [History.path_stepped_self]
        rcases on.stepped hjob hcache hlook with ⟨-, job₁, hjob₁, -, on'⟩ | ⟨hnone, -⟩
        · rw [hjob'] at hjob₁
          cases hjob₁
          exact ⟨location, request, htask, on'⟩
        · rw [hjob'] at hnone
          cases hnone
      · rw [hothers hother] at hjob'
        rw [History.path_stepped_of_ne fun heq => hother (Actor.call.inj heq).symm]
        exact looking.on other job' hjob' hfetch'
    case others =>
      intro other job' hjob' hnot
      by_cases hother : other = id
      · subst hother
        rcases on.stepped hjob hcache hlook with ⟨-, job₁, hjob₁, hfetch₁, -⟩ | ⟨hnone, -⟩
        · rw [hjob'] at hjob₁
          cases hjob₁
          rw [hfetch₁] at hnot
          cases hnot
        · rw [hjob'] at hnone
          cases hnone
      · rw [hothers hother] at hjob'
        exact looking.others other job' hjob' hnot
  · have hnot : ∀ id job, actor = .call id → m.jobs.find? id = some job → job.isFetch = false := by
      intro id job hactor hjob
      refine Bool.not_eq_true _ ▸ fun hfetch => hmine ⟨id, job, hactor, hjob, hfetch⟩
    obtain ⟨⟨cache', hcache', -⟩, -, hafter⟩ := step.beside hcache hnot
    constructor
    case cached => exact ⟨cache', hcache'⟩
    case on =>
      intro id job hjob hfetch
      have hother : actor ≠ .call id := by
        rintro rfl
        rw [hafter id job rfl hjob] at hfetch
        cases hfetch
      rw [step.others hother] at hjob
      rw [History.path_stepped_of_ne hother]
      exact looking.on id job hjob hfetch
    case others =>
      intro id job hjob hfetch
      by_cases hother : actor = .call id
      · subst hother
        cases hbefore : m.jobs.find? id with
        | none =>
            cases step with
            | called step => exact absurd hbefore step.has_job
        | some job₀ => exact looking.others id job₀ hbefore (hnot id job₀ rfl hbefore)
      · rw [step.others hother] at hjob
        exact looking.others id job hjob hfetch

/-- **In every run, every call for a configuration has done what takes it to its phase.** -/
theorem looking_of_run {limits : CacheLimits} {settings : DispatchSettings}
    (run : Run tended (.new start (some limits) settings) h m) : Looking h m := by
  induction run with
  | start => exact looking_new start limits settings
  | begins run hbegin ih =>
      rcases begins_or_tends hbegin with ⟨id, asked, rfl, rfl, hfree, rfl⟩ |
        ⟨tending, cache, rfl, rfl, hcache, rfl⟩
      · exact ih.begins hfree asked
      · exact ih.tends tending _
  | steps run hstep ih => exact ih.stepped hstep

/-! ## The counts -/

/-- What has come of it, if a call for a configuration is told at this moment of the client that it waits for. -/
def toldClient? : Moment Manager (Task ⊕ Tending) Result Event → Option (Except AuthorizerError Unit)
  | .stepped m _ (.call id) (.built result) _ =>
    match m.jobs.find? id with
    | some (.connecting _ _ _) => some result
    | _ => none
  | _ => none

/-- What has come of it, if a call for a configuration is told at this moment of the fetch that it waits for. -/
def toldFetch? : Moment Manager (Task ⊕ Tending) Result Event → Option (Except SystemError ProxyConfig)
  | .stepped m _ (.call id) (.fetched result) _ =>
    match m.jobs.find? id with
    | some (.fetching _ _ _) => some result
    | _ => none
  | _ => none

/-- Counts the calls that wait for a client. -/
def awaitsClient : ManagerJob → Nat
  | .connecting _ _ _ => 1
  | _ => 0

/-- Counts the calls that wait for a fetch. -/
def awaitsAnswer : ManagerJob → Nat
  | .fetching _ _ _ => 1
  | _ => 0

-- The zero of a sum is that of the core library, also where another one is in scope.
attribute [local instance (high)] Zero.ofOfNat0

/-- The calls in progress, each with its share. -/
def waiting (f : ManagerJob → Nat) (m : Manager) : Int := m.jobs.sumOf fun _ job => (f job : Int)

/-- A step of a call changes the share of that call. -/
theorem Called.waiting (step : Called m now id input p) (f : ManagerJob → Nat) :
    p.state.waiting f + ((m.jobs.find? id).elim 0 f : Nat) =
      m.waiting f + ((p.state.jobs.find? id).elim 0 f : Nat) := by
  have hcast : ∀ job? : Option ManagerJob,
      ((job?.elim 0 f : Nat) : Int) = job?.elim 0 fun job => (f job : Int) := by
    intro job?
    cases job? <;> rfl
  rw [hcast, hcast]
  unfold Manager.waiting
  rcases step.jobs with hsame | ⟨job, hinsert⟩ | herase
  · rw [hsame]
  · rw [hinsert, Table.find?_insert_self]
    exact Table.sumOf_insert _ _ _ _
  · rw [herase, Table.find?_erase_self]
    exact (Table.sumOf_erase _ _ _).trans (Int.add_zero _).symm

/-- The counts of the cache are those of the calls that have hit and missed, and every client that has been built for a
call has been used for one fetch; but for the calls in between. -/
structure Tallies (h : TendedPast) (m : Manager) : Prop where
  hits : ∀ cache, m.cache = some cache → h.events.count .cacheHit = cache.stats.hits
  clients : ∀ cache, m.cache = some cache →
    ((h.filterMap toldClient?).length : Int) + m.waiting awaitsClient = cache.stats.misses
  answers : ((h.filterMap toldFetch?).length : Int) + m.waiting awaitsAnswer =
    (h.filterMap toldClient?).countP Except.isOk

theorem filterMap_cons_toList {α β : Type} (f : α → Option β) (a : α) (l : List α) :
    (a :: l).filterMap f = (f a).toList ++ l.filterMap f := by
  cases hf : f a with
  | none => rw [List.filterMap_cons_none hf]; rfl
  | some b => rw [List.filterMap_cons_some hf]; rfl

/-- What a step of a call for a configuration adds to the counts. -/
theorem LookStepped.counts (step : LookStepped m cache now id job input p)
    (hjob : m.jobs.find? id = some job) (hcache : m.cache = some cache) :
    ∃ cache', p.state.cache = some cache' ∧
      p.events.count .cacheHit + cache.stats.hits = cache'.stats.hits ∧
      (toldClient? (.stepped m now (.call id) input p)).toList.length +
          (p.state.jobs.find? id).elim 0 awaitsClient + cache.stats.misses =
        awaitsClient job + cache'.stats.misses ∧
      (toldFetch? (.stepped m now (.call id) input p)).toList.length +
          (p.state.jobs.find? id).elim 0 awaitsAnswer =
        awaitsAnswer job +
          (toldClient? (.stepped m now (.call id) input p)).toList.countP Except.isOk := by
  cases step with
  | invalid | fetchFailed | fetchedDirect =>
      refine ⟨cache, hcache, ?_, ?_, ?_⟩ <;>
        simp [toldClient?, toldFetch?, awaitsClient, awaitsAnswer, Progress.done, hjob]
  | checked | fetchedFill =>
      refine ⟨cache, hcache, ?_, ?_, ?_⟩ <;>
        simp [toldClient?, toldFetch?, awaitsClient, awaitsAnswer, Progress.quiet, hjob]
  | notConnected =>
      refine ⟨cache, hcache, ?_, ?_, ?_⟩ <;>
        simp [toldClient?, toldFetch?, awaitsClient, awaitsAnswer, Progress.done, hjob, Except.isOk, Except.toBool]
  | connected =>
      refine ⟨cache, hcache, ?_, ?_, ?_⟩ <;>
        simp [toldClient?, toldFetch?, awaitsClient, awaitsAnswer, Progress.quiet, hjob, Except.isOk, Except.toBool]
  | hit hget =>
      obtain ⟨e, -, -, -, rfl⟩ := Cache.eq_of_get_some hget
      refine ⟨_, rfl, ?_, ?_, ?_⟩ <;> simp [toldClient?, toldFetch?, awaitsClient, awaitsAnswer, Nat.add_comm]
  | missed hget =>
      obtain ⟨-, -, -, hmisses, hhits⟩ := Cache.of_get_none hget
      refine ⟨_, rfl, ?_, ?_, ?_⟩ <;>
        simp [toldClient?, toldFetch?, awaitsClient, awaitsAnswer, Progress.quiet, hmisses, hhits, Nat.add_comm]
  | stored =>
      refine ⟨_, rfl, ?_, ?_, ?_⟩ <;>
        simp [toldClient?, toldFetch?, awaitsClient, awaitsAnswer, Progress.done, Cache.set]

/-- A step of a call for a configuration keeps the counts right. -/
theorem Tallies.looked (tallies : Tallies h m) (hjob : m.jobs.find? id = some job)
    (hcache : m.cache = some cache) (step : Called m now id input p)
    (hlook : LookStepped m cache now id job input p) :
    Tallies (.stepped m now (.call id) input p :: h) p.state := by
  obtain ⟨cache', hcache', hhits, hclients, hanswers⟩ := hlook.counts hjob hcache
  have hwaitsClient := step.waiting awaitsClient
  have hwaitsAnswer := step.waiting awaitsAnswer
  rw [hjob, Option.elim_some] at hwaitsClient hwaitsAnswer
  have hclientsBefore := tallies.clients cache hcache
  have hanswersBefore := tallies.answers
  constructor
  case hits =>
    intro cache₁ hcache₁
    rw [hcache'] at hcache₁
    cases hcache₁
    rw [History.events_stepped, List.count_append, tallies.hits cache hcache]
    exact hhits
  case clients =>
    intro cache₁ hcache₁
    rw [hcache'] at hcache₁
    cases hcache₁
    rw [filterMap_cons_toList, List.length_append]
    omega
  case answers =>
    rw [filterMap_cons_toList, filterMap_cons_toList, List.length_append, List.countP_append]
    omega

theorem awaitsClient_eq_zero (hnot : job.isFetch = false) : awaitsClient job = 0 := by
  cases job <;> first | rfl | cases hnot

theorem awaitsAnswer_eq_zero (hnot : job.isFetch = false) : awaitsAnswer job = 0 := by
  cases job <;> first | rfl | cases hnot

/-- What calls for configurations have no part in leaves the counts as they are. -/
theorem Tallies.beside (tallies : Tallies h m) (hcache : m.cache = some cache)
    (hstate : m'.cache = some cache') (hreads : readCounts cache' = readCounts cache)
    (hevents : moment.events.count .cacheHit = 0) (hclient : toldClient? moment = none)
    (hanswer : toldFetch? moment = none)
    (hclients : m'.waiting awaitsClient = m.waiting awaitsClient)
    (hanswers : m'.waiting awaitsAnswer = m.waiting awaitsAnswer) : Tallies (moment :: h) m' := by
  obtain ⟨hhits, hmisses⟩ := Prod.mk.inj hreads
  constructor
  case hits =>
    intro cache₁ hcache₁
    rw [hstate] at hcache₁
    cases hcache₁
    show (moment.events ++ h.events).count .cacheHit = _
    rw [List.count_append, hevents, Nat.zero_add, tallies.hits cache hcache, hhits]
  case clients =>
    intro cache₁ hcache₁
    rw [hstate] at hcache₁
    cases hcache₁
    rw [List.filterMap_cons_none hclient, hclients, tallies.clients cache hcache, hmisses]
  case answers =>
    rw [List.filterMap_cons_none hclient, List.filterMap_cons_none hanswer, hanswers]
    exact tallies.answers

/-- The step of an actor that is no call for a configuration is not one that such a call waits for. -/
theorem toldClient?_eq_none
    (hnot : ∀ id job, actor = .call id → m.jobs.find? id = some job → job.isFetch = false) :
    toldClient? (.stepped m now actor input p) = none := by
  unfold toldClient?
  split
  · next heq =>
    cases heq
    split
    · next hjob => cases hnot _ _ rfl hjob
    · rfl
  · rfl

theorem toldFetch?_eq_none
    (hnot : ∀ id job, actor = .call id → m.jobs.find? id = some job → job.isFetch = false) :
    toldFetch? (.stepped m now actor input p) = none := by
  unfold toldFetch?
  split
  · next heq =>
    cases heq
    split
    · next hjob => cases hnot _ _ rfl hjob
    · rfl
  · rfl

/-- A step of an actor that is no call for a configuration leaves as many of those waiting as before. -/
theorem Stepped.waiting (step : Stepped m now actor input p) {f : ManagerJob → Nat}
    (hf : ∀ job, job.isFetch = false → f job = 0)
    (hnot : ∀ id job, actor = .call id → m.jobs.find? id = some job → job.isFetch = false)
    (hafter : ∀ id job, actor = .call id → p.state.jobs.find? id = some job → job.isFetch = false) :
    p.state.waiting f = m.waiting f := by
  have hshare : ∀ {job? : Option ManagerJob}, (∀ job, job? = some job → job.isFetch = false) →
      job?.elim 0 f = 0 := by
    intro job? hjob?
    cases job? with
    | none => rfl
    | some job => exact hf job (hjob? job rfl)
  cases step with
  | looped | refreshed => rfl
  | @called id _ _ step =>
      have hmoved := step.waiting f
      rw [hshare fun job => hnot id job rfl, hshare fun job => hafter id job rfl] at hmoved
      rwa [Int.natCast_zero, Int.add_zero, Int.add_zero] at hmoved

/-- A call that starts waits for nobody outside. -/
theorem waiting_resume (hfree : m.jobs.find? id = none) (asked : Task) {f : ManagerJob → Nat}
    (hf : f asked.job = 0) : (m.resume id asked.job).waiting f = m.waiting f := by
  have hadded := Table.sumOf_insert (fun _ job => (f job : Int)) m.jobs id asked.job
  rw [hfree, hf] at hadded
  exact (Int.add_zero _).symm.trans (hadded.trans (Int.add_zero _))

/-- **In every run, hits and misses are counted as they happen.** -/
theorem tallies_of_run {limits : CacheLimits} {settings : DispatchSettings}
    (run : Run tended (.new start (some limits) settings) h m) : Tallies h m := by
  induction run with
  | start =>
      constructor
      case hits =>
        intro cache hcache
        cases hcache
        rfl
      case clients =>
        intro cache hcache
        cases hcache
        rfl
      case answers => rfl
  | @begins h m m' actor task run hbegin ih =>
      rcases begins_or_tends hbegin with ⟨id, asked, rfl, rfl, hfree, rfl⟩ |
        ⟨tending, cache, rfl, rfl, hcache, rfl⟩
      · obtain ⟨cache, hcache⟩ := (looking_of_run run).cached
        refine ih.beside hcache (show (m.resume id asked.job).cache = some cache from hcache) rfl rfl rfl rfl ?_ ?_
        · exact waiting_resume hfree asked (by cases asked <;> rfl)
        · exact waiting_resume hfree asked (by cases asked <;> rfl)
      · exact ih.beside hcache rfl (readCounts_apply tending cache) rfl rfl rfl rfl rfl
  | @steps h m now actor input p run hstep ih =>
      obtain ⟨cache, hcache⟩ := (looking_of_run run).cached
      have step := stepped_of_step hstep
      by_cases hmine : ∃ id job, actor = .call id ∧ m.jobs.find? id = some job ∧ job.isFetch = true
      · obtain ⟨id, job, rfl, hjob, hfetch⟩ := hmine
        cases step with
        | called step => exact ih.looked hjob hcache step (lookStepped_of_step hstep hjob hfetch hcache)
      · have hnot : ∀ id job, actor = .call id → m.jobs.find? id = some job → job.isFetch = false := by
          intro id job hactor hjob
          exact Bool.not_eq_true _ ▸ fun hfetch => hmine ⟨id, job, hactor, hjob, hfetch⟩
        obtain ⟨⟨cache', hcache', hreads⟩, hevents, hafter⟩ := step.beside hcache hnot
        refine ih.beside hcache hcache' hreads ?_ (toldClient?_eq_none hnot) (toldFetch?_eq_none hnot) ?_ ?_
        · exact hevents
        · exact step.waiting (fun _ => awaitsClient_eq_zero) hnot hafter
        · exact step.waiting (fun _ => awaitsAnswer_eq_zero) hnot hafter

/-! ## What calls for configurations do -/

/-- A call for a configuration can go on from each of its phases, whatever comes of what it waits for. -/
theorem On.goesOn (on : On location request steps job) (hjob : m.jobs.find? id = some job)
    (hcache : m.cache = some cache) :
    (m.want (.call id) = .turn ∧ ∀ now, (m.step now (.call id) .turn).isSome = true) ∨
      (m.want (.call id) = .client (request.client location) ∧
        ∀ now built, (m.step now (.call id) (.built built)).isSome = true) ∨
      (m.want (.call id) = .reply (request.call location) ∧
        ∀ now fetched, (m.step now (.call id) (.fetched fetched)).isSome = true) := by
  have hwant := on.want hjob
  cases on with
  | validating =>
      refine .inl ⟨hwant, fun now => ?_⟩
      simp only [step, hjob, stepFetch, hcache]
      cases request.validate <;> rfl
  | looking =>
      refine .inl ⟨hwant, fun now => ?_⟩
      simp only [step, hjob, stepFetch, hcache]
      split <;> rfl
  | connecting =>
      refine .inr (.inl ⟨hwant, fun now built => ?_⟩)
      simp only [step, hjob]
      cases built <;> rfl
  | fetching =>
      refine .inr (.inr ⟨hwant, fun now fetched => ?_⟩)
      simp only [step, hjob]
      cases fetched <;> rfl
  | storing =>
      refine .inl ⟨hwant, fun now => ?_⟩
      simp only [step, hjob, stepFetch, hcache]
      rfl

theorem On.length_lt (on : On location request steps job) : steps.length < 5 := by
  cases on with
  | validating => exact Nat.succ_pos 4
  | looking => exact Nat.lt_add_of_pos_right (Nat.succ_pos 3)
  | connecting _ hlength | fetching _ hlength | storing _ hlength =>
      rw [hlength]
      decide

/-- A call that was given a request for a configuration is in a phase of it. -/
theorem Looking.on_of_task (looking : Looking h m)
    (htask : h.task? (.call id) = some (.inl (.fetch location request)))
    (hjob : m.jobs.find? id = some job) :
    job.isFetch = true ∧ On location request (h.path (.call id)) job := by
  cases hfetch : job.isFetch with
  | false => exact absurd htask (looking.others id job hjob hfetch location request)
  | true =>
      obtain ⟨location', request', htask', on⟩ := looking.on id job hjob hfetch
      rw [htask] at htask'
      cases htask'
      exact ⟨rfl, on⟩

/-- What calls for configurations do at a manager with a cache. -/
structure LooksUp (h : TendedPast) (m : Manager) : Prop where
  /-- A call that comes to a result has done one thing. -/
  completes : ∀ id location request now input p result,
    h.task? (.call id) = some (.inl (.fetch location request)) →
      tended.step m now (.call id) input = some p → p.result? = some result →
        ∃ outcome, result = .fetched outcome ∧
          OneThing location request (.stepped m now (.call id) input p :: h.path (.call id)) outcome
  /-- Until then it can go on, whatever comes of the client or of the fetch that it waits for. -/
  goesOn : ∀ id location request,
    h.task? (.call id) = some (.inl (.fetch location request)) → m.jobs.find? id ≠ none →
      (tended.want m (.call id) = .turn ∧ ∀ now, (tended.step m now (.call id) .turn).isSome = true) ∨
        (tended.want m (.call id) = .client (request.client location) ∧
          ∀ now built, (tended.step m now (.call id) (.built built)).isSome = true) ∨
        (tended.want m (.call id) = .reply (request.call location) ∧
          ∀ now fetched, (tended.step m now (.call id) (.fetched fetched)).isSome = true)
  /-- It takes five steps at most. -/
  ends : ∀ id location request,
    h.task? (.call id) = some (.inl (.fetch location request)) → m.jobs.find? id ≠ none →
      (h.path (.call id)).length < 5
  /-- The hits of the cache are those that have been reported. -/
  hits : ∀ cache, m.cache = some cache → h.events.count .cacheHit = cache.stats.hits
  /-- While no call for a configuration is in progress, its misses are the clients that such calls have been built. -/
  misses : (∀ id job, m.jobs.find? id = some job → job.isFetch = false) →
    ∀ cache, m.cache = some cache → (h.filterMap toldClient?).length = cache.stats.misses
  /-- And there have been as many fetches as clients that could be built. -/
  fetches : (∀ id job, m.jobs.find? id = some job → job.isFetch = false) →
    (h.filterMap toldFetch?).length = (h.filterMap toldClient?).countP Except.isOk

/-- Nobody waits where no call for a configuration is in progress. -/
theorem waiting_eq_zero {f : ManagerJob → Nat} (hf : ∀ job, job.isFetch = false → f job = 0)
    (hnone : ∀ id job, m.jobs.find? id = some job → job.isFetch = false) : m.waiting f = 0 := by
  refine Table.sumOf_eq_zero fun id job hjob => ?_
  rw [hf job (hnone id job hjob)]
  rfl

/-- **A call for a configuration does exactly one thing.** In every run, whatever the order of the steps, whatever comes
of clients and fetches, and whoever else sets, purges and renews entries of the cache meanwhile: a request that is not
valid is turned away; a valid one is answered from the cache, or it misses, is built one client and makes one fetch at
most. The counts of hits and misses in the cache agree with what has been reported and with what has been asked of the
outside. -/
theorem looksUp_of_run {limits : CacheLimits} {settings : DispatchSettings}
    (run : Run tended (.new start (some limits) settings) h m) : LooksUp h m := by
  have looking := looking_of_run run
  have tallies := tallies_of_run run
  constructor
  case completes =>
    intro id location request now input p result htask hstep hresult
    obtain ⟨cache, hcache⟩ := looking.cached
    have step : Stepped m now (.call id) input p := stepped_of_step hstep
    have hin : m.jobs.find? id ≠ none := by
      cases step with
      | called step => exact step.has_job
    obtain ⟨job, hjob⟩ := Option.ne_none_iff_exists'.1 hin
    obtain ⟨hfetch, on⟩ := looking.on_of_task htask hjob
    rcases on.stepped hjob hcache (lookStepped_of_step hstep hjob hfetch hcache) with
      ⟨hmore, -⟩ | ⟨-, outcome, hresult', one⟩
    · rw [hresult] at hmore
      cases hmore
    · rw [hresult] at hresult'
      cases hresult'
      exact ⟨outcome, rfl, one⟩
  case goesOn =>
    intro id location request htask hin
    obtain ⟨cache, hcache⟩ := looking.cached
    obtain ⟨job, hjob⟩ := Option.ne_none_iff_exists'.1 hin
    exact (looking.on_of_task htask hjob).2.goesOn hjob hcache
  case ends =>
    intro id location request htask hin
    obtain ⟨job, hjob⟩ := Option.ne_none_iff_exists'.1 hin
    exact (looking.on_of_task htask hjob).2.length_lt
  case hits => exact tallies.hits
  case misses =>
    intro hnone cache hcache
    have hclients := tallies.clients cache hcache
    rw [waiting_eq_zero (fun _ => awaitsClient_eq_zero) hnone] at hclients
    omega
  case fetches =>
    intro hnone
    have hanswers := tallies.answers
    rw [waiting_eq_zero (fun _ => awaitsAnswer_eq_zero) hnone] at hanswers
    omega

/-- Someone takes entries out of the cache while calls are turned away, miss and hit it; two of those that miss are
supplied with nothing. -/
def allWays : List (Move (Task ⊕ Tending)) :=
  [.begin (.call 0) (.inl (.fetch "cp" (wanting "" "production"))), .step 0 (.call 0) .turn,
    .begin (.call 1) (.inl (.fetch "cp" (wanting "alpha" "production"))), .step 0 (.call 1) .turn,
    .step 0 (.call 1) .turn, .step 0 (.call 1) (.built (.ok ())),
    .begin .refreshLoop (.inr (.remove ⟨"cp", "42"⟩)),
    .step 5 (.call 1) (.fetched (.ok { (default : ProxyConfig) with environment := "production" })),
    .step 5 (.call 1) .turn,
    .begin (.call 2) (.inl (.fetch "cp" (wanting "beta" "staging"))), .step 9 (.call 2) .turn,
    .step 9 (.call 2) .turn,
    .begin (.call 3) (.inl (.fetch "other" (wanting "beta" "staging"))), .step 9 (.call 3) .turn,
    .step 9 (.call 3) .turn, .step 9 (.call 3) (.built (.error (.clientBuild "other" "refused"))),
    .begin .refreshLoop (.inr (.remove ⟨"cp", "42"⟩)),
    .begin (.call 4) (.inl (.fetch "cp" (wanting "beta" "staging"))), .step 12 (.call 4) .turn,
    .step 12 (.call 4) .turn, .step 12 (.call 4) (.built (.ok ())),
    .step 12 (.call 4) (.fetched (.error (.transport "refused")))]

theorem looksUp_allWays :
    LooksUp (tended.play cachingManager allWays).1 (tended.play cachingManager allWays).2 ∧
      ((tended.play cachingManager allWays).1.events,
        ((tended.play cachingManager allWays).1.filterMap toldClient?).map Except.isOk,
        ((tended.play cachingManager allWays).1.filterMap toldFetch?).map Except.isOk,
        (tended.play cachingManager allWays).2.cache.map readCounts) =
      ([.cacheHit], [true, false, true], [false, true], some (1, 3)) :=
  ⟨looksUp_of_run (tended.run_play cachingManager allWays), by decide +kernel⟩

end Manager

end GatewayAuth
