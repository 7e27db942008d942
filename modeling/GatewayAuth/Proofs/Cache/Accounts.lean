import GatewayAuth.Proofs.Cache.Capacity
import GatewayAuth.Proofs.Cache.Sweeping

/-!
# `GatewayAuth.Proofs.Cache.Accounts` — where entries go, and how it is counted

What comes into a cache by sets of new keys is stored, or it has been evicted, has expired, or has been removed. A
sweep takes entries out when it starts and adds their number to the counts of the cache when it ends; in between the
number is in the summary that it carries. So the balance holds at every moment if the summaries of sweeps in progress
are added to the counts, and the counts are right on their own when there are none. The balance of refreshers is kept
in the same way.

## Contents
- `adds`, `takesAway`, `reads`, `asksToRead`, `skippedAt`: what a history tells of the calls on a cache.
- `Cache.size_get`, `Cache.size_set_add`, `Cache.size_remove`, `Cache.size_startSweep`: what an operation takes out.
- `Stepped.sumOf`: sums over the calls in progress; `CacheJob.dropped`, `CacheJob.invocations`: their shares.
- `Balanced`, `Balanced.stepped`, `balanced_of_run`: the balance at every moment.
- `Accounts`, `accounts_of_run`: the counts of a cache where no sweep is in progress.
-/

namespace GatewayAuth

-- The zero of a sum is that of the core library, also where another one is in scope.
attribute [local instance (high)] Zero.ofOfNat0

variable {ι ρ : Type}

/-! ## What an operation takes out -/

namespace Cache

/-- The entries that are stored, that have been evicted, and that have been counted as expired. -/
def accounted (c : Cache ι ρ) : Int := c.size + c.stats.evictions + c.stats.expired

/-- The refreshers that have been counted as successful, and as failed. -/
def renewals (c : Cache ι ρ) : Int := c.stats.refreshes + c.stats.refreshFailures

/-- The reads that have been counted. -/
def answered (c : Cache ι ρ) : Int := c.stats.hits + c.stats.misses

/-- What a read takes out is expired. -/
theorem accounted_get (c : Cache ι ρ) (now : Nat) (key : CacheKey) :
    (c.get now key).2.accounted = c.accounted := by
  unfold get
  split
  · next e he =>
    have hthere := Table.contains_eq_true_iff.2 ⟨e, he⟩
    split
    · have hsize := Table.size_erase c.entries key
      rw [if_pos hthere] at hsize
      simp only [accounted, size]
      omega
    · have hsize := Table.size_insert c.entries key { e with lastUsed := now }
      rw [if_pos hthere] at hsize
      simp only [accounted, size, hsize]
  · rfl

/-- Every read is a hit or a miss. -/
theorem answered_get (c : Cache ι ρ) (now : Nat) (key : CacheKey) :
    (c.get now key).2.answered = c.answered + 1 := by
  unfold get answered
  split
  · split <;> dsimp only <;> omega
  · dsimp only
    omega

theorem renewals_get (c : Cache ι ρ) (now : Nat) (key : CacheKey) :
    (c.get now key).2.renewals = c.renewals := by
  unfold get
  split
  · split <;> rfl
  · rfl

/-- What a set takes out is evicted, and it adds an entry if the key is new. -/
theorem accounted_set {c : Cache ι ρ} (hmax : 0 < c.limits.maxSize) (now : Nat) (key : CacheKey)
    (item : ι) (refresher : ρ) :
    (c.set now key item refresher).accounted =
      c.accounted + if c.entries.contains key then 0 else 1 := by
  have hsize : (c.set now key item refresher).size =
      min (c.entriesWith now key item refresher).size c.limits.maxSize := size_set hmax
  have hvictims : (victims c.limits.maxSize (c.entriesWith now key item refresher) key).length =
      (c.entriesWith now key item refresher).size - c.limits.maxSize :=
    length_victims (Table.contains_insert_self _ _ _) hmax
  have hevictions : (c.set now key item refresher).stats.evictions = c.stats.evictions +
      ((c.entriesWith now key item refresher).size - c.limits.maxSize) := by
    rw [← hvictims]
    rfl
  have hexpired : (c.set now key item refresher).stats.expired = c.stats.expired := rfl
  have hwith : (c.entriesWith now key item refresher).size =
      if c.entries.contains key then c.size else c.size + 1 := Table.size_insert _ _ _
  unfold accounted
  rw [hexpired]
  cases hcontains : c.entries.contains key with
  | true =>
      rw [hcontains, if_pos rfl] at hwith
      rw [if_pos rfl]
      omega
  | false =>
      rw [hcontains, if_neg Bool.false_ne_true] at hwith
      rw [if_neg Bool.false_ne_true]
      omega

theorem accounted_remove (c : Cache ι ρ) (key : CacheKey) :
    (c.remove key).2.accounted + (if (c.remove key).1 then 1 else 0) = c.accounted := by
  have hsize : (c.remove key).2.size + (if (c.remove key).1 then 1 else 0) = c.size :=
    Table.size_erase c.entries key
  have hstats : (c.remove key).2.stats = c.stats := rfl
  unfold accounted
  rw [hstats]
  split at hsize
  · next hthere =>
    rw [if_pos hthere]
    omega
  · next hgone =>
    rw [if_neg hgone]
    omega

/-- What a sweep takes out when it starts is in its summary. -/
theorem accounted_startSweep (c : Cache ι ρ) (now : Nat) :
    (c.startSweep now).1.accounted + (c.startSweep now).2.2.expired = c.accounted := by
  have hle := size_startSweep_le c now
  have hexpired : (c.startSweep now).2.2.expired = c.size - (c.startSweep now).1.size := rfl
  have hstats : (c.startSweep now).1.stats = c.stats := rfl
  unfold accounted
  rw [hexpired, hstats]
  omega

theorem accounted_storeRefreshed (c : Cache ι ρ) (now : Nat) (key : CacheKey) (item : ι) :
    (c.storeRefreshed now key item).2.accounted = c.accounted := by
  unfold accounted
  rw [size_storeRefreshed, stats_storeRefreshed]

theorem renewals_storeRefreshed (c : Cache ι ρ) (now : Nat) (key : CacheKey) (item : ι) :
    (c.storeRefreshed now key item).2.renewals = c.renewals := by
  unfold renewals
  rw [stats_storeRefreshed]

theorem answered_storeRefreshed (c : Cache ι ρ) (now : Nat) (key : CacheKey) (item : ι) :
    (c.storeRefreshed now key item).2.answered = c.answered := by
  unfold answered
  rw [stats_storeRefreshed]

theorem accounted_finishSweep (c : Cache ι ρ) (summary : SweepSummary) :
    (c.finishSweep summary).accounted = c.accounted + summary.expired := by
  unfold finishSweep accounted size
  dsimp only
  omega

theorem renewals_finishSweep (c : Cache ι ρ) (summary : SweepSummary) :
    (c.finishSweep summary).renewals = c.renewals + summary.refreshed + summary.failed := by
  unfold finishSweep renewals
  dsimp only
  omega

end Cache

/-! ## Shares of the calls in progress -/

theorem SweepSummary.expired_written (summary : SweepSummary) (there : Bool) :
    (summary.written there).expired = summary.expired := by
  unfold written
  split <;> rfl

/-- One more entry has been dealt with. -/
theorem SweepSummary.dealt_written (summary : SweepSummary) (there : Bool) :
    (summary.written there).refreshed + (summary.written there).failed +
        (summary.written there).skipped =
      summary.refreshed + summary.failed + summary.skipped + 1 := by
  unfold written
  split <;> dsimp only <;> omega

namespace Sweep

/-- Whether a sweep has run a refresher and has not counted yet what came of it. -/
def pending : Sweep ι ρ → Nat
  | .refreshing _ _ _ _ => 1
  | .storing _ _ _ _ => 1
  | _ => 0

/-- The refreshers that a sweep has run. -/
def invocations (sweep : Sweep ι ρ) : Nat :=
  sweep.summary.refreshed + sweep.summary.failed + sweep.summary.skipped + sweep.pending

end Sweep

namespace CacheJob

/-- The entries that a sweep in progress has dropped and not yet added to the counts of the cache. -/
def dropped : CacheJob ρ → Nat
  | .sweeping _ sweep => sweep.summary.expired
  | _ => 0

/-- The refreshers that a sweep in progress has run. -/
def invocations : CacheJob ρ → Nat
  | .sweeping _ sweep => sweep.invocations
  | _ => 0

/-- Counts the reads that have not come to their end. -/
def readings : CacheJob ρ → Nat
  | .reading _ => 1
  | _ => 0

end CacheJob

namespace SharedCache

/-! ## What a history tells -/

/-- Whether a key is set at this moment that was not stored. -/
def adds : Moment (SharedCache ρ) (Task ρ) Result Empty → Bool
  | .began _ _ => false
  | .stepped c _ actor _ _ =>
    match c.jobs.find? actor with
    | some (.writing key _ _) => !c.cache.entries.contains key
    | _ => false

/-- Whether a removal that has found its key comes to its end at this moment. -/
def takesAway : Moment (SharedCache ρ) (Task ρ) Result Empty → Bool
  | .began _ _ => false
  | .stepped _ _ _ _ p =>
    match p.result? with
    | some (.removed found) => found
    | _ => false

/-- Whether a read comes to its end at this moment. -/
def reads : Moment (SharedCache ρ) (Task ρ) Result Empty → Bool
  | .began _ _ => false
  | .stepped _ _ _ _ p =>
    match p.result? with
    | some (.found _) => true
    | _ => false

/-- Whether a read is asked for at this moment. -/
def asksToRead : Moment (SharedCache ρ) (Task ρ) Result Empty → Bool
  | .began _ (.get _) => true
  | _ => false

/-- How many entries a sweep has skipped that ends at this moment. -/
def skippedAt : Moment (SharedCache ρ) (Task ρ) Result Empty → Nat
  | .began _ _ => 0
  | .stepped _ _ _ _ p =>
    match p.result? with
    | some (.swept summary) => summary.skipped
    | _ => 0

variable {c c' : SharedCache ρ} {h : Past ρ} {now : Nat} {actor : Actor} {input : Input}
  {p : Progress (SharedCache ρ) Result Empty} {limits : CacheLimits} {job₀ : CacheJob ρ}

/-! ## The balance -/

/-- A quantity of a cache, together with the shares of the calls in progress. -/
def weigh (g : Cache ProxyConfig ρ → Int) (f : CacheJob ρ → Nat) (c : SharedCache ρ) : Int :=
  g c.cache + c.jobs.sumOf fun _ job => (f job : Int)

variable {g : Cache ProxyConfig ρ → Int} {f : CacheJob ρ → Nat}

theorem weigh_leave (job : c.jobs.find? actor = some job₀) (cache : Cache ProxyConfig ρ) :
    weigh g f (c.leave actor cache) = weigh g f c - g c.cache + g cache - f job₀ := by
  have hsum := Table.sumOf_erase (fun _ job => (f job : Int)) c.jobs actor
  rw [job, Option.elim_some] at hsum
  unfold weigh leave
  dsimp only
  omega

theorem weigh_resume (job : c.jobs.find? actor = some job₀) (cache : Cache ProxyConfig ρ)
    (job' : CacheJob ρ) :
    weigh g f (({ c with cache } : SharedCache ρ).resume actor job') =
      weigh g f c - g c.cache + g cache - f job₀ + f job' := by
  have hsum := Table.sumOf_insert (fun _ job => (f job : Int)) c.jobs actor job'
  rw [job, Option.elim_some] at hsum
  unfold weigh resume
  dsimp only
  omega

/-- A call that starts adds its share. -/
theorem weigh_begin (hfree : c.jobs.find? actor = none) (job : CacheJob ρ) :
    weigh g f (c.resume actor job) = weigh g f c + f job := by
  have hsum := Table.sumOf_insert (fun _ job => (f job : Int)) c.jobs actor job
  rw [hfree, Option.elim_none] at hsum
  unfold weigh resume
  dsimp only
  omega

/-- What is accounted for, with what sweeps in progress have dropped. -/
def accountedFor (c : SharedCache ρ) : Int := weigh Cache.accounted CacheJob.dropped c

/-- The refreshers that are counted, with those that sweeps in progress have run. -/
def refreshersRun (c : SharedCache ρ) : Int := weigh Cache.renewals CacheJob.invocations c

/-- The reads that are counted, with those in progress. -/
def readsAsked (c : SharedCache ρ) : Int := weigh Cache.answered CacheJob.readings c

/-- **A step adds to what is accounted for if it sets a new key, and takes from it if it is a removal.** -/
theorem CallStepped.accountedFor (step : CallStepped c now actor input p)
    (hmax : 0 < c.cache.limits.maxSize) :
    p.state.accountedFor + (takesAway (.stepped c now actor input p)).toNat =
      c.accountedFor + (adds (.stepped c now actor input p)).toNat := by
  unfold SharedCache.accountedFor
  cases step with
  | read job =>
      simp only [takesAway, adds, job, Progress.done, weigh_leave job, CacheJob.dropped,
        Cache.accounted_get]
      omega
  | @wrote key item refresher job =>
      simp only [takesAway, adds, job, Progress.done, weigh_leave job, CacheJob.dropped,
        Cache.accounted_set hmax]
      cases c.cache.entries.contains key with
      | true => simp
      | false => simp; omega
  | @removed key job =>
      have hcache := Cache.accounted_remove c.cache key
      simp only [takesAway, adds, job, Progress.done, weigh_leave job, CacheJob.dropped]
      cases hfound : (c.cache.remove key).1 <;> simp [hfound] at hcache ⊢ <;> omega
  | woke job =>
      simp only [takesAway, adds, job, Progress.quiet, weigh_resume job c.cache, CacheJob.dropped,
        Sweep.summary_starting]
      omega
  | @swept clock _ _ _ job step =>
      -- what a sweep drops is in its summary until it closes
      cases step with
      | collected =>
          have hcache := Cache.accounted_startSweep c.cache clock
          simp only [takesAway, adds, job, Progress.quiet, weigh_resume job, CacheJob.dropped,
            Sweep.summary_starting, Sweep.summary_next]
          omega
      | renewed =>
          simp only [takesAway, adds, job, Progress.quiet, weigh_resume job c.cache, CacheJob.dropped,
            Sweep.summary_refreshing, Sweep.summary_storing]
          omega
      | failed =>
          simp only [takesAway, adds, job, Progress.quiet, weigh_resume job c.cache, CacheJob.dropped,
            Sweep.summary_refreshing, Sweep.summary_next]
          omega
      | stored =>
          simp only [takesAway, adds, job, Progress.quiet, weigh_resume job, CacheJob.dropped,
            Sweep.summary_storing, Sweep.summary_next, Cache.accounted_storeRefreshed,
            SweepSummary.expired_written]
          omega
      | closed =>
          simp only [takesAway, adds, job, Progress.done, weigh_leave job, CacheJob.dropped,
            Sweep.summary_closing, Cache.accounted_finishSweep]
          omega

/-- A sweep that goes on has run another refresher, unless none is left. -/
theorem invoked?_next {summary : SweepSummary} {rest : List (CacheKey × ρ)} {clock : Nat}
    (job' : p.state.jobs.find? actor = some (.sweeping clock (.next summary rest))) :
    (invoked? (.stepped c now actor input p)).isSome.toNat =
      (.next summary rest : Sweep ProxyConfig ρ).pending := by
  cases rest <;> simp only [invoked?, job', Sweep.next] <;> rfl

/-- **A step adds to the refreshers that have been run if it goes on to one**, and takes from them what a sweep that
ends has skipped. -/
theorem CallStepped.refreshersRun (step : CallStepped c now actor input p) :
    p.state.refreshersRun + skippedAt (.stepped c now actor input p) =
      c.refreshersRun + (invoked? (.stepped c now actor input p)).isSome.toNat := by
  unfold SharedCache.refreshersRun
  cases step with
  | read job =>
      simp only [skippedAt, invoked?, Progress.done, weigh_leave job, CacheJob.invocations,
        Cache.renewals_get, find?_leave, Option.isSome_none, Bool.toNat_false]
      omega
  | wrote job =>
      have hcache : ∀ key item refresher, (c.cache.set now key item refresher).renewals =
        c.cache.renewals := fun _ _ _ => rfl
      simp only [skippedAt, invoked?, Progress.done, weigh_leave job, CacheJob.invocations, hcache,
        find?_leave, Option.isSome_none, Bool.toNat_false]
      omega
  | removed job =>
      have hcache : ∀ key, (c.cache.remove key).2.renewals = c.cache.renewals := fun _ => rfl
      simp only [skippedAt, invoked?, Progress.done, weigh_leave job, CacheJob.invocations, hcache,
        find?_leave, Option.isSome_none, Bool.toNat_false]
      omega
  | woke job =>
      simp only [skippedAt, invoked?, Progress.quiet, weigh_resume job c.cache, CacheJob.invocations,
        Sweep.invocations, Sweep.pending, Sweep.summary_starting, find?_resume, Option.isSome_none,
        Bool.toNat_false]
      omega
  | @swept clock _ _ _ job step =>
      -- the refresher that is run is pending, and counted when the sweep is done with its entry
      cases step with
      | collected =>
          have hcache : (c.cache.startSweep clock).1.renewals = c.cache.renewals := rfl
          rw [invoked?_next (find?_resume _ actor _)]
          simp only [skippedAt, Progress.quiet, weigh_resume job, CacheJob.invocations,
            Sweep.invocations, Sweep.pending, Sweep.summary_starting, Sweep.summary_next, hcache,
            Cache.startSweep_summary]
          omega
      | renewed =>
          simp only [skippedAt, invoked?, Progress.quiet, weigh_resume job c.cache,
            CacheJob.invocations, Sweep.invocations, Sweep.pending, Sweep.summary_refreshing,
            Sweep.summary_storing, find?_resume, Option.isSome_none, Bool.toNat_false]
          omega
      | failed =>
          rw [invoked?_next (find?_resume _ actor _)]
          simp only [skippedAt, Progress.quiet, weigh_resume job c.cache, CacheJob.invocations,
            Sweep.invocations, Sweep.summary_refreshing, Sweep.summary_next, Sweep.pending]
          omega
      | stored =>
          rw [invoked?_next (find?_resume _ actor _)]
          simp only [skippedAt, Progress.quiet, weigh_resume job, CacheJob.invocations,
            Sweep.invocations, Sweep.summary_storing, Sweep.summary_next, Sweep.pending,
            Cache.renewals_storeRefreshed, SweepSummary.dealt_written]
          omega
      | closed =>
          simp only [skippedAt, invoked?, Progress.done, weigh_leave job, CacheJob.invocations,
            Sweep.invocations, Sweep.summary_closing, Sweep.pending, find?_leave, Option.isSome_none,
            Bool.toNat_false, Cache.renewals_finishSweep]
          omega

/-- **A step counts a read if it completes one.** -/
theorem CallStepped.answered (step : CallStepped c now actor input p) :
    p.state.cache.answered = c.cache.answered + (reads (.stepped c now actor input p)).toNat := by
  cases step with
  | read job => exact Cache.answered_get _ _ _
  | wrote job | removed job | woke job => exact (Int.add_zero _).symm
  | swept job step =>
      cases step with
      | stored => exact (Cache.answered_storeRefreshed _ _ _ _).trans (Int.add_zero _).symm
      | collected | renewed | failed | closed => exact (Int.add_zero _).symm

/-- No read goes uncounted. -/
theorem CallStepped.readsAsked (step : CallStepped c now actor input p) :
    p.state.readsAsked = c.readsAsked := by
  have hanswered := step.answered
  unfold SharedCache.readsAsked
  cases step with
  | read job | wrote job | removed job =>
      simp only [reads, Progress.done, leave, Bool.toNat_true, Bool.toNat_false] at hanswered
      simp only [Progress.done, weigh_leave job, CacheJob.readings]
      omega
  | woke job =>
      simp only [Progress.quiet, weigh_resume job c.cache, CacheJob.readings]
      omega
  | swept job step =>
      cases step with
      | collected | stored =>
          simp only [reads, Progress.quiet, resume, Bool.toNat_false] at hanswered
          simp only [Progress.quiet, weigh_resume job, CacheJob.readings]
          omega
      | renewed | failed =>
          simp only [Progress.quiet, weigh_resume job c.cache, CacheJob.readings]
          omega
      | closed =>
          simp only [reads, Progress.done, leave, Bool.toNat_false] at hanswered
          simp only [Progress.done, weigh_leave job, CacheJob.readings]
          omega

/-- What a history tells is what the cache has counted, and what the calls in progress carry. -/
structure Balanced (h : Past ρ) (c : SharedCache ρ) : Prop where
  entries : (h.countP adds : Int) = c.accountedFor + h.countP takesAway
  refreshers : ((h.filterMap invoked?).length : Int) = c.refreshersRun + (h.map skippedAt).sum
  answered : (h.countP reads : Int) = c.cache.answered
  asked : (h.countP asksToRead : Int) = c.readsAsked

theorem countP_cons_toNat {α : Type} (q : α → Bool) (a : α) (l : List α) :
    (a :: l).countP q = l.countP q + (q a).toNat := by
  rw [List.countP_cons]
  cases q a <;> rfl

theorem length_filterMap_cons {α β : Type} (q : α → Option β) (a : α) (l : List α) :
    ((a :: l).filterMap q).length = (l.filterMap q).length + (q a).isSome.toNat := by
  cases hq : q a with
  | none => rw [List.filterMap_cons_none hq]; rfl
  | some b => rw [List.filterMap_cons_some hq]; rfl

/-- **A step keeps the balance.** -/
theorem Balanced.stepped (balanced : Balanced h c) (hmax : 0 < c.cache.limits.maxSize)
    (step : CallStepped c now actor input p) :
    Balanced (.stepped c now actor input p :: h) p.state := by
  obtain ⟨hentries, hrefreshers, hanswered, hasked⟩ := balanced
  constructor
  · have hstep := step.accountedFor hmax
    rw [countP_cons_toNat, countP_cons_toNat]
    omega
  · have hstep := step.refreshersRun
    rw [length_filterMap_cons, List.map_cons, List.sum_cons]
    omega
  · have hstep := step.answered
    rw [countP_cons_toNat]
    omega
  · rw [step.readsAsked, ← hasked]
    rfl

theorem maxSize_pos_of_run (run : Run system (.new limits) h c) : 0 < c.cache.limits.maxSize := by
  rw [limits_of_run run]
  exact limits.withDefaults_pos.1

/-- **The balance is kept in every run.** -/
theorem balanced_of_run (run : Run system (.new limits) h c) : Balanced h c := by
  induction run with
  | start => exact ⟨rfl, rfl, rfl, rfl⟩
  | @begins h c c' actor task run hbegin ih =>
      obtain ⟨id, rfl, hfree, rfl⟩ := exists_resume_of_begin? hbegin
      obtain ⟨hentries, hrefreshers, hanswered, hasked⟩ := ih
      have hweigh : ∀ {g : Cache ProxyConfig ρ → Int} {f : CacheJob ρ → Nat},
          weigh g f (c.resume (.call id) task.job) = weigh g f c + f task.job := weigh_begin hfree _
      constructor
      · have hjob : task.job.dropped = 0 := by cases task <;> rfl
        unfold accountedFor at hentries ⊢
        rw [hweigh, hjob]
        exact hentries.trans (congrArg (· + _) (Int.add_zero _).symm)
      · have hjob : task.job.invocations = 0 := by cases task <;> rfl
        unfold refreshersRun at hrefreshers ⊢
        rw [hweigh, hjob, List.map_cons, List.sum_cons, skippedAt, Nat.zero_add]
        exact hrefreshers.trans (congrArg (· + _) (Int.add_zero _).symm)
      · exact hanswered
      · have hjob : (asksToRead (.began (.call id) task : Moment (SharedCache ρ) _ _ _)).toNat =
            task.job.readings := by cases task <;> rfl
        unfold readsAsked at hasked ⊢
        rw [hweigh, countP_cons_toNat]
        omega
  | steps run hstep ih => exact ih.stepped (maxSize_pos_of_run run) (callStepped_of_step hstep)

/-! ## The accounts -/

/-- The counts of a shared cache that stands at `c` with the past `h`, where no sweep is in progress. -/
structure Accounts (h : Past ρ) (c : SharedCache ρ) : Prop where
  /-- What has come in is stored, or has been evicted, or has expired, or has been removed. -/
  entries : h.countP adds =
    c.cache.size + c.cache.stats.evictions + c.cache.stats.expired + h.countP takesAway
  /-- A step neither loses an entry nor counts one twice: what is stored, what has been evicted or has expired, and what
  sweeps in progress have dropped changes by sets of new keys and by removals only. -/
  exact : ∀ c₁ now actor input p, .stepped c₁ now actor input p ∈ h →
    p.state.accountedFor + (takesAway (.stepped c₁ now actor input p)).toNat =
      c₁.accountedFor + (adds (.stepped c₁ now actor input p)).toNat
  /-- Every read that has come to its end is a hit or a miss. -/
  answered : h.countP reads = c.cache.stats.hits + c.cache.stats.misses
  /-- So is every read that has been asked for, where none is in progress. -/
  asked : (∀ actor key, c.jobs.find? actor ≠ some (.reading key)) →
    h.countP asksToRead = c.cache.stats.hits + c.cache.stats.misses
  /-- Every refresher that has been run has succeeded, or has failed, or its entry was skipped. -/
  refreshers : (h.filterMap invoked?).length =
    c.cache.stats.refreshes + c.cache.stats.refreshFailures + (h.map skippedAt).sum

/-- Who carries nothing adds nothing. -/
theorem weigh_eq {g : Cache ProxyConfig ρ → Int} {f : CacheJob ρ → Nat}
    (hf : ∀ actor job, c.jobs.find? actor = some job → f job = 0) : weigh g f c = g c.cache := by
  unfold weigh
  rw [Table.sumOf_eq_zero fun actor job hjob => congrArg Nat.cast (hf actor job hjob)]
  exact Int.add_zero _

/-- **Every entry that leaves a cache is counted in exactly one way**, and so is every read and every refresher that is
run, in every run at a point where no sweep is in progress. -/
theorem accounts_of_run (run : Run system (.new limits) h c)
    (hidle : ∀ actor clock sweep, c.jobs.find? actor ≠ some (.sweeping clock sweep)) :
    Accounts h c := by
  obtain ⟨hentries, hrefreshers, hanswered, hasked⟩ := balanced_of_run run
  have hdropped : c.accountedFor = c.cache.accounted := weigh_eq fun actor job hjob => by
    cases job with
    | sweeping clock sweep => exact absurd hjob (hidle actor clock sweep)
    | _ => rfl
  have hrun : c.refreshersRun = c.cache.renewals := weigh_eq fun actor job hjob => by
    cases job with
    | sweeping clock sweep => exact absurd hjob (hidle actor clock sweep)
    | _ => rfl
  constructor
  case entries =>
    rw [hdropped] at hentries
    unfold Cache.accounted at hentries
    omega
  case exact =>
    intro c₁ now actor input p hmem
    obtain ⟨past, run, hstep⟩ := run.of_mem hmem
    exact (callStepped_of_step hstep).accountedFor (maxSize_pos_of_run run)
  case answered =>
    unfold Cache.answered at hanswered
    omega
  case asked =>
    intro hnone
    have hreading : c.readsAsked = c.cache.answered := weigh_eq fun actor job hjob => by
      cases job with
      | reading key => exact absurd hjob (hnone actor key)
      | _ => rfl
    rw [hreading] at hasked
    unfold Cache.answered at hasked
    omega
  case refreshers =>
    rw [hrun] at hrefreshers
    unfold Cache.renewals at hrefreshers
    omega

/-! ## A run -/

/-- Of three entries the first one is evicted, the second one is removed while a sweep has it in hand, and the third
one, whose refresher fails, expires and is dropped by a read. -/
def gone : List (Move (Task String)) :=
  prompt 0 0 (.set (service "42") (version 1) "alpha") ++
    prompt 10 1 (.set (service "43") (version 1) "beta") ++
    prompt 20 2 (.set (service "44") (version 1) "gamma") ++
    prompt 30 3 (.get (service "43")) ++ prompt 30 4 (.get (service "42")) ++
    prompt 80 5 .sweep ++ [.step 80 (.call 5) .turn] ++ prompt 85 6 (.remove (service "43")) ++
    [.step 90 (.call 5) (.fetched (.ok (version 2))), .step 90 (.call 5) .turn,
      .step 95 (.call 5) (.fetched (.error (.transport "timed out"))), .step 95 (.call 5) .turn] ++
    prompt 125 7 (.get (service "44"))

theorem accounts_gone :
    let run := system.play (.new smallLimits) gone
    run.2.cache.stats = ⟨1, 2, 1, 1, 0, 1⟩ ∧
      (run.1.countP adds, run.2.cache.size, run.1.countP takesAway) = (3, 0, 1) ∧
      ((run.1.filterMap invoked?).length, (run.1.map skippedAt).sum) = (2, 1) ∧
      Accounts run.1 run.2 := by
  refine ⟨by decide +kernel, by decide +kernel, by decide +kernel, ?_⟩
  refine accounts_of_run (system.run_play _ _) fun actor clock sweep hjob => ?_
  have hnobody : (system.play (.new smallLimits) gone).2.jobs.toList.length = 0 := by decide +kernel
  have hmem := Table.find?_eq_some_iff.1 hjob
  rw [List.length_eq_zero_iff.1 hnobody] at hmem
  cases hmem

end SharedCache

end GatewayAuth
