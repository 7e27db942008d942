import GatewayAuth.Proofs.Cache.Operations
import GatewayAuth.Proofs.Run

/-!
# `GatewayAuth.Proofs.Cache.Shared` — a cache that many use at the same time

Reads, writes and removals take the lock of a cache once each. A sweep takes it once to collect its work and once for
every item that it writes back, and it runs its refreshers without it. `SharedCache.system` interleaves any number of
them; a refresher that touches the cache itself is one more call beside the sweep that runs it.

## Contents
- `SharedCache`: a cache with all that is at work on it; `SharedCache.system`.
- `Stepped`: the cases of a step; `stepped_of_step`, `Stepped.others`, `Stepped.limits`.
- `EntryFrom`, `Stepped.entryFrom`: where the entry under a key comes from; `Stepped.cache_of_writing`,
  `Stepped.find?_of_storing`: what the two that write it make of it.
-/

namespace GatewayAuth

/-- Where a call on a shared cache stands. -/
inductive CacheJob (ρ : Type) where
  | reading (key : CacheKey)
  | writing (key : CacheKey) (item : ProxyConfig) (refresher : ρ)
  | removing (key : CacheKey)
  /-- A sweep that is about to look at the clock. -/
  | waking
  /-- A sweep; what it collects, it collects as of `clock`. -/
  | sweeping (clock : Nat) (sweep : Sweep ProxyConfig ρ)

/-- A cache and the calls in progress on it. -/
structure SharedCache (ρ : Type) where
  cache : Cache ProxyConfig ρ
  jobs : Table Actor (CacheJob ρ)

namespace SharedCache

/-- What a call asks for. -/
inductive Task (ρ : Type) where
  | get (key : CacheKey)
  | set (key : CacheKey) (item : ProxyConfig) (refresher : ρ)
  | remove (key : CacheKey)
  | sweep

/-- What a call comes to. -/
inductive Result where
  | found (item? : Option ProxyConfig)
  | stored
  | removed (found : Bool)
  | swept (summary : SweepSummary)

variable {ρ : Type}

/-- The phase in which a call starts. -/
def Task.job : Task ρ → CacheJob ρ
  | get key => .reading key
  | set key item refresher => .writing key item refresher
  | remove key => .removing key
  | sweep => .waking

/-- An empty cache with nobody at it. -/
def new (limits : CacheLimits) : SharedCache ρ := ⟨.new limits, .empty⟩

/-- The same cache with a call at another phase. -/
def resume (c : SharedCache ρ) (actor : Actor) (job : CacheJob ρ) : SharedCache ρ :=
  { c with jobs := c.jobs.insert actor job }

/-- A cache after a call. -/
def leave (c : SharedCache ρ) (actor : Actor) (cache : Cache ProxyConfig ρ) : SharedCache ρ :=
  ⟨cache, c.jobs.erase actor⟩

/-- Let a call start; `none` if its number is in use. -/
def begin? (c : SharedCache ρ) (actor : Actor) (task : Task ρ) : Option (SharedCache ρ) :=
  if c.jobs.contains actor then none else some (c.resume actor task.job)

/-- What a sweep is told: its turn, or what its refresher has come to. -/
def told? : Input → Option (Sweep.Told ProxyConfig)
  | .turn => some .turn
  | .fetched (.ok item) => some (.renewed (some item))
  | .fetched (.error _) => some (.renewed none)
  | .built (.error _) => some (.renewed none)
  | _ => none

/-- The instant that a step of a sweep goes by: what it collects, it collects as of the clock it has looked at. -/
def instant (clock now : Nat) : Sweep ProxyConfig ρ → Nat
  | .starting => clock
  | _ => now

/-- One step of a call. -/
def step (c : SharedCache ρ) (now : Nat) (actor : Actor) (input : Input) :
    Option (Progress (SharedCache ρ) Result Empty) :=
  match c.jobs.find? actor, input with
  | some (.reading key), .turn =>
    let (item?, cache) := c.cache.get now key
    some (.done (c.leave actor cache) (.found item?))
  | some (.writing key item refresher), .turn =>
    some (.done (c.leave actor (c.cache.set now key item refresher)) .stored)
  | some (.removing key), .turn =>
    let (found, cache) := c.cache.remove key
    some (.done (c.leave actor cache) (.removed found))
  | some .waking, .turn => some (.quiet (c.resume actor (.sweeping now .starting)))
  | some (.sweeping clock sweep), input =>
    match told? input with
    | none => none
    | some told =>
      match sweep.step c.cache (instant clock now sweep) told with
      | none => none
      | some (cache, .inl sweep) =>
        some (.quiet (({ c with cache } : SharedCache ρ).resume actor (.sweeping clock sweep)))
      | some (cache, .inr summary) => some (.done (c.leave actor cache) (.swept summary))
  | _, _ => none

/-- What a call waits for. -/
def want (c : SharedCache ρ) (actor : Actor) : Want :=
  match c.jobs.find? actor with
  | none => .nothing
  | some (.sweeping _ (.refreshing _ _ _ _)) => .nothing
  | some _ => .turn

/-- A shared cache as a system of actors; tasks are given to calls only. -/
def system : System (SharedCache ρ) (Task ρ) Result Empty :=
  ⟨fun c actor task =>
    match actor with
    | .call _ => c.begin? actor task
    | _ => none, want, step⟩

/-- What has happened at a shared cache. -/
abbrev Past (ρ : Type) := History (SharedCache ρ) (Task ρ) Result Empty

variable {c c' : SharedCache ρ} {now : Nat} {actor : Actor} {input : Input}
  {p : Progress (SharedCache ρ) Result Empty} {key : CacheKey}

/-! ## The cases of a step -/

theorem exists_resume_of_begin? {task : Task ρ} (h : system.begin? c actor task = some c') :
    ∃ id, actor = .call id ∧ c.jobs.find? actor = none ∧ c' = c.resume actor task.job := by
  cases actor with
  | flushLoop slot => cases h
  | refreshLoop => cases h
  | call id =>
      have h : c.begin? (.call id) task = some c' := h
      unfold begin? at h
      split at h
      · cases h
      · next hfree =>
        cases h
        exact ⟨id, rfl, Table.contains_eq_false_iff.1 (Bool.not_eq_true _ ▸ hfree), rfl⟩

/-- What a step of a call can be. -/
inductive Stepped (c : SharedCache ρ) (now : Nat) (actor : Actor) :
    Input → Progress (SharedCache ρ) Result Empty → Prop where
  | read {key : CacheKey} {item? : Option ProxyConfig} {cache : Cache ProxyConfig ρ}
      (job : c.jobs.find? actor = some (.reading key)) (hget : c.cache.get now key = (item?, cache)) :
      Stepped c now actor .turn (.done (c.leave actor cache) (.found item?))
  | wrote {key : CacheKey} {item : ProxyConfig} {refresher : ρ}
      (job : c.jobs.find? actor = some (.writing key item refresher)) :
      Stepped c now actor .turn (.done (c.leave actor (c.cache.set now key item refresher)) .stored)
  | removed {key : CacheKey} (job : c.jobs.find? actor = some (.removing key)) :
      Stepped c now actor .turn
        (.done (c.leave actor (c.cache.remove key).2) (.removed (c.cache.remove key).1))
  | woke (job : c.jobs.find? actor = some .waking) :
      Stepped c now actor .turn (.quiet (c.resume actor (.sweeping now .starting)))
  | collected {clock : Nat} (job : c.jobs.find? actor = some (.sweeping clock .starting)) :
      Stepped c now actor .turn
        (.quiet (({ c with cache := (c.cache.startSweep clock).1 } : SharedCache ρ).resume actor
          (.sweeping clock (.next (c.cache.startSweep clock).2.2 (c.cache.startSweep clock).2.1))))
  | renewed {clock : Nat} {key : CacheKey} {refresher : ρ} {rest : List (CacheKey × ρ)}
      {summary : SweepSummary} {item : ProxyConfig}
      (job : c.jobs.find? actor = some (.sweeping clock (.refreshing key refresher rest summary))) :
      Stepped c now actor (.fetched (.ok item))
        (.quiet (c.resume actor (.sweeping clock (.storing key item rest summary))))
  | failed {clock : Nat} {key : CacheKey} {refresher : ρ} {rest : List (CacheKey × ρ)}
      {summary : SweepSummary} {input : Input}
      (job : c.jobs.find? actor = some (.sweeping clock (.refreshing key refresher rest summary)))
      (told : told? input = some (.renewed none)) :
      Stepped c now actor input (.quiet (c.resume actor
        (.sweeping clock (.next { summary with failed := summary.failed + 1 } rest))))
  | stored {clock : Nat} {key : CacheKey} {item : ProxyConfig} {rest : List (CacheKey × ρ)}
      {summary summary' : SweepSummary}
      (job : c.jobs.find? actor = some (.sweeping clock (.storing key item rest summary))) :
      Stepped c now actor .turn
        (.quiet (({ c with cache := (c.cache.storeRefreshed now key item).2 } : SharedCache ρ).resume
          actor (.sweeping clock (.next summary' rest))))
  | closed {clock : Nat} {summary : SweepSummary}
      (job : c.jobs.find? actor = some (.sweeping clock (.closing summary))) :
      Stepped c now actor .turn
        (.done (c.leave actor (c.cache.finishSweep summary)) (.swept summary))

theorem eq_turn_of_told? {input : Input} (h : told? input = some .turn) : input = .turn := by
  unfold told? at h
  split at h <;> first | rfl | cases h

theorem eq_fetched_of_told? {input : Input} {item : ProxyConfig}
    (h : told? input = some (.renewed (some item))) : input = .fetched (.ok item) := by
  unfold told? at h
  split at h <;> cases h
  rfl

/-- Every step is one of these cases. -/
theorem stepped_of_step (h : c.step now actor input = some p) : Stepped c now actor input p := by
  unfold step at h
  split at h
  · next key job => cases h; exact .read job rfl
  · next key item refresher job => cases h; exact .wrote job
  · next key job => cases h; exact .removed job
  · next job => cases h; exact .woke job
  · next clock sweep job =>
    split at h
    · cases h
    · next told htold =>
      cases sweep with
      | starting =>
          -- at each phase a sweep goes on with its turn only, or with what its refresher came to
          cases told with
          | renewed item? => cases h
          | turn => cases eq_turn_of_told? htold; cases h; exact .collected job
      | refreshing key refresher rest summary =>
          cases told with
          | turn => cases h
          | renewed item? =>
              cases item? with
              | none => cases h; exact .failed job htold
              | some item => cases eq_fetched_of_told? htold; cases h; exact .renewed job
      | storing key item rest summary =>
          cases told with
          | renewed item? => cases h
          | turn => cases eq_turn_of_told? htold; cases h; exact .stored job
      | closing summary =>
          cases told with
          | renewed item? => cases h
          | turn => cases eq_turn_of_told? htold; cases h; exact .closed job
  · cases h

theorem find?_resume (c : SharedCache ρ) (actor : Actor) (job : CacheJob ρ) :
    (c.resume actor job).jobs.find? actor = some job :=
  Table.find?_insert_self _ _ _

theorem find?_leave (c : SharedCache ρ) (actor : Actor) (cache : Cache ProxyConfig ρ) :
    (c.leave actor cache).jobs.find? actor = none :=
  Table.find?_erase_self _ _

/-- A step leaves the jobs of other actors alone. -/
theorem Stepped.others (h : Stepped c now actor input p) {other : Actor} (hne : other ≠ actor) :
    p.state.jobs.find? other = c.jobs.find? other := by
  have hne' : actor ≠ other := Ne.symm hne
  cases h with
  | read | wrote | removed | closed =>
      exact (Table.find?_erase _ _ _).trans (if_neg hne')
  | woke | collected | renewed | failed | stored =>
      exact (Table.find?_insert _ _ _ _).trans (if_neg hne')

theorem Stepped.limits (h : Stepped c now actor input p) :
    p.state.cache.limits = c.cache.limits := by
  cases h with
  | @read key item? cache job hget =>
      have hlimits := Cache.limits_get c.cache now key
      rw [hget] at hlimits
      exact hlimits
  | stored job => exact Cache.limits_storeRefreshed _ _ _ _
  | _ => rfl

theorem limits_of_run {limits : CacheLimits} {h : Past ρ} (run : Run system (.new limits) h c) :
    c.cache.limits = limits.withDefaults := by
  induction run with
  | start => rfl
  | begins run hbegin ih =>
      obtain ⟨id, -, -, rfl⟩ := exists_resume_of_begin? hbegin
      exact ih
  | steps run hstep ih => exact (stepped_of_step hstep).limits.trans ih

/-! ## Where an entry comes from -/

/-- Where the entry that there is under a key after a step comes from: it was there before, or it has been set, or
renewed. -/
inductive EntryFrom (c : SharedCache ρ) (now : Nat) (actor : Actor) (key : CacheKey) :
    CacheEntry ProxyConfig ρ → Prop where
  | kept {e e' : CacheEntry ProxyConfig ρ} (hfind : c.cache.entries.find? key = some e)
      (alike : e.Alike e') : EntryFrom c now actor key e'
  | set {item : ProxyConfig} {refresher : ρ}
      (job : c.jobs.find? actor = some (.writing key item refresher)) :
      EntryFrom c now actor key ⟨item, refresher, now + c.cache.limits.ttl, now⟩
  | renewed {e : CacheEntry ProxyConfig ρ} {clock : Nat} {item : ProxyConfig}
      {rest : List (CacheKey × ρ)} {summary : SweepSummary}
      (job : c.jobs.find? actor = some (.sweeping clock (.storing key item rest summary)))
      (hfind : c.cache.entries.find? key = some e) :
      EntryFrom c now actor key { e with item, deadline := now + c.cache.limits.ttl }

theorem Stepped.entryFrom (h : Stepped c now actor input p) {e' : CacheEntry ProxyConfig ρ}
    (he : p.state.cache.entries.find? key = some e') : EntryFrom c now actor key e' := by
  cases h with
  | read job hget =>
      obtain ⟨e, hfind, alike⟩ := Cache.alike_of_get hget he
      exact .kept hfind alike
  | @wrote key' item refresher job =>
      by_cases hkey : key' = key
      · subst hkey
        have he : (c.cache.set now key' item refresher).entries.find? key' = some e' := he
        rw [Cache.find?_set_self] at he
        cases he
        exact .set job
      · -- entries of other keys may have given way, but none has changed
        exact .kept (Cache.find?_of_set_of_ne hkey he) (.refl _)
  | removed job => exact .kept (Cache.find?_of_remove he) (.refl _)
  | collected job => exact .kept (Cache.find?_startSweep.1 he).1 (.refl _)
  | @stored clock key' item rest summary summary' job =>
      have he : (c.cache.storeRefreshed now key' item).2.entries.find? key = some e' := he
      rw [Cache.find?_storeRefreshed] at he
      by_cases hkey : key' = key
      · subst hkey
        rw [if_pos rfl] at he
        obtain ⟨e, hfind, rfl⟩ := Option.map_eq_some_iff.1 he
        exact .renewed job hfind
      · rw [if_neg hkey] at he
        exact .kept he (.refl _)
  | woke | renewed | failed | closed => exact .kept he (.refl _)

/-- What a set makes of a cache. -/
theorem Stepped.cache_of_writing (h : Stepped c now actor input p) {item : ProxyConfig}
    {refresher : ρ} (job : c.jobs.find? actor = some (.writing key item refresher)) :
    p.state.cache = c.cache.set now key item refresher := by
  cases h with
  | wrote job' =>
      rw [job] at job'
      cases job'
      rfl
  | _ => simp_all only [Option.some.injEq, reduceCtorEq]

/-- What is set is there. -/
theorem Stepped.find?_of_writing (h : Stepped c now actor input p) {item : ProxyConfig}
    {refresher : ρ} (job : c.jobs.find? actor = some (.writing key item refresher)) :
    p.state.cache.entries.find? key = some ⟨item, refresher, now + c.cache.limits.ttl, now⟩ := by
  rw [h.cache_of_writing job]
  exact Cache.find?_set_self _ _ _ _ _

/-- What is renewed goes to the entry that there is, with a fresh time to live, and nowhere else. -/
theorem Stepped.find?_of_storing (h : Stepped c now actor input p) {clock : Nat}
    {item : ProxyConfig} {rest : List (CacheKey × ρ)} {summary : SweepSummary}
    (job : c.jobs.find? actor = some (.sweeping clock (.storing key item rest summary))) :
    p.state.cache.entries.find? key = (c.cache.entries.find? key).map
      fun e => { e with item, deadline := now + c.cache.limits.ttl } := by
  cases h with
  | stored job' =>
      rw [job] at job'
      cases job'
      exact (Cache.find?_storeRefreshed _ _ _ _ _).trans (if_pos rfl)
  | _ => simp_all only [Option.some.injEq, reduceCtorEq, CacheJob.sweeping.injEq, and_false]

/-- What is renewed without an entry to go to goes nowhere. -/
theorem Stepped.cache_of_storing (h : Stepped c now actor input p) {clock : Nat}
    {item : ProxyConfig} {rest : List (CacheKey × ρ)} {summary : SweepSummary}
    (job : c.jobs.find? actor = some (.sweeping clock (.storing key item rest summary)))
    (hnone : c.cache.entries.find? key = none) : p.state.cache = c.cache := by
  cases h with
  | stored job' =>
      rw [job] at job'
      cases job'
      exact Cache.storeRefreshed_eq_self hnone _ _
  | _ => simp_all only [Option.some.injEq, reduceCtorEq, CacheJob.sweeping.injEq, and_false]

end SharedCache

end GatewayAuth
