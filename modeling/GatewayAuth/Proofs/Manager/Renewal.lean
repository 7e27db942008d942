import GatewayAuth.Proofs.Cache.Sweeping
import GatewayAuth.Proofs.Manager.Isolation
import GatewayAuth.Proofs.Retry

/-!
# `GatewayAuth.Proofs.Manager.Renewal` — the attempts of a sweep

A sweep of the cache renews the entries that are due, one after the other, and makes the same attempts for each of them
as the retry policy makes for an operation: a client is built, and with it the configuration is fetched with the request
that has filled the entry. An attempt whose client cannot be built counts as one.

## Contents
- `Attempt`: what an attempt to renew an entry comes to, and what is asked of the world outside for it.
- `Renewing`, `renewing_of_stepRefreshLoop`: the steps of the refresh loop, attempts included.
- `filledBy?`, `filled_of_run`: which request has filled an entry.
- `SweepCourse`, `course_of_run`: how far a sweep has come.
- `sweep_attempts`: all that a sweep asks for.
-/

namespace GatewayAuth

/-- Whether the refresh loop is at work on an entry. -/
def RefreshLoop.renews : RefreshLoop → Bool
  | .sweeping _ (.refreshing _ _ _ _) _ _ => true
  | _ => false

/-- Whether a call is about to store a configuration. -/
def ManagerJob.stores : ManagerJob → Bool
  | .storing _ _ _ => true
  | _ => false

namespace Manager

/-! ## Attempts -/

/-- What an attempt to renew an entry comes to. -/
inductive Attempt where
  /-- The client cannot be built. -/
  | unbuilt (e : AuthorizerError)
  | unfetched (e : SystemError)
  | fetched (config : ProxyConfig)

namespace Attempt

/-- The outcome of an attempt. -/
def outcome : Attempt → Except AuthorizerError ProxyConfig
  | unbuilt e => .error e
  | unfetched e => .error (.remoteFetch .refresh e)
  | fetched config => .ok config

/-- Whether the client has been built. -/
def connects : Attempt → Bool
  | unbuilt _ => false
  | _ => true

/-- With what the attempt ends. -/
def answer : Attempt → Input
  | unbuilt e => .built (.error e)
  | unfetched e => .fetched (.error e)
  | fetched config => .fetched (.ok config)

/-- The client of a refresher, which has been built. -/
def client (refresher : Refresher) : Want × Input :=
  (.client (refresher.request.client refresher.location), .built (.ok ()))

/-- What is asked for an attempt, and what comes of it: a client, and with it the configuration. -/
def exchanges (refresher : Refresher) : Attempt → List (Want × Input)
  | unbuilt e => [(.client (refresher.request.client refresher.location), .built (.error e))]
  | unfetched e => [client refresher, (.reply (refresher.request.call refresher.location), .fetched (.error e))]
  | fetched config =>
    [client refresher, (.reply (refresher.request.call refresher.location), .fetched (.ok config))]

end Attempt

variable {m m' : Manager} {h : Past} {now : Nat} {input : Input} {p : Progress Manager Result Event}
  {cache : ConfigCache} {key : CacheKey} {refresher : Refresher} {rest : List (CacheKey × Refresher)}
  {summary : SweepSummary}

/-! ## Steps of the refresh loop -/

/-- Where the loop goes after an attempt with this outcome. -/
def afterAttempt (due : Nat) (key : CacheKey) (refresher : Refresher) (rest : List (CacheKey × Refresher))
    (summary : SweepSummary) (attempt : Nat) : Except AuthorizerError ProxyConfig → RefreshLoop
  | .ok config => .sweeping due (.storing key config rest summary) 1 false
  | .error _ =>
    if attempt < refresher.retry.maxAttempts then
      .sweeping due (.refreshing key refresher rest summary) (attempt + 1) false
    else .sweeping due (.next { summary with failed := summary.failed + 1 } rest) 1 false

/-- What a step of the refresh loop can be, seen from the attempts that it makes. -/
inductive Renewing (m : Manager) (now : Nat) (cache : ConfigCache) : Input → RefreshLoop → Prop where
  | ticked {due next : Nat} (idle : m.refreshLoop = .idle due) :
      Renewing m now cache .tick (.sweeping next .starting 1 false)
  | told {due : Nat} (idle : m.refreshLoop = .idle due) : Renewing m now cache .turn .exited
  | collected {due attempt : Nat} {connected : Bool}
      (hloop : m.refreshLoop = .sweeping due .starting attempt connected) :
      Renewing m now cache .turn
        (.sweeping due (.next (cache.startSweep now).2.2 (cache.startSweep now).2.1) 1 false)
  | connected {due attempt : Nat} {key : CacheKey} {refresher : Refresher} {rest : List (CacheKey × Refresher)}
      {summary : SweepSummary}
      (hloop : m.refreshLoop = .sweeping due (.refreshing key refresher rest summary) attempt false) :
      Renewing m now cache (.built (.ok ())) (.sweeping due (.refreshing key refresher rest summary) attempt true)
  | attempted {due attempt : Nat} {key : CacheKey} {refresher : Refresher} {rest : List (CacheKey × Refresher)}
      {summary : SweepSummary} (a : Attempt)
      (hloop : m.refreshLoop = .sweeping due (.refreshing key refresher rest summary) attempt a.connects) :
      Renewing m now cache a.answer (afterAttempt due key refresher rest summary attempt a.outcome)
  | stored {due attempt : Nat} {connected : Bool} {key : CacheKey} {item : ProxyConfig}
      {rest : List (CacheKey × Refresher)} {summary : SweepSummary} (summary' : SweepSummary)
      (hloop : m.refreshLoop = .sweeping due (.storing key item rest summary) attempt connected) :
      Renewing m now cache .turn (.sweeping due (.next summary' rest) 1 false)
  | closed {due attempt : Nat} {connected : Bool} {summary : SweepSummary}
      (hloop : m.refreshLoop = .sweeping due (.closing summary) attempt connected) :
      Renewing m now cache .turn (.idle due)

/-- The request with which a call fills the entry of a key at this moment. -/
def filling? (key : CacheKey) : Moment Manager Task Result Event → Option (String × ConfigRequest)
  | .stepped m _ (.call id) _ _ =>
    match m.jobs.find? id with
    | some (.storing location request _) => if request.key location = key then some (location, request) else none
    | _ => none
  | _ => none

/-- The request that has filled the entry of a key last, with its location. -/
def filledBy? (key : CacheKey) (h : Past) : Option (String × ConfigRequest) := h.findSome? (filling? key)

/-- A refresher repeats the request that has filled the entry of its key. -/
def Repeats (retries : UInt32) (h : Past) (key : CacheKey) (refresher : Refresher) : Prop :=
  refresher.retry = ⟨retries⟩ ∧ filledBy? key h = some (refresher.location, refresher.request)

/-- Every entry is renewed with the request that has filled it, and as often as the limits say. -/
structure Filled (limits : CacheLimits) (h : Past) (m : Manager) : Prop where
  within : ∀ cache, m.cache = some cache → cache.limits = limits
  repeats : ∀ cache, m.cache = some cache → cache.Fit (fun _ _ => True) (Repeats limits.retries h)

section Filling

variable {limits : CacheLimits} {moment : Moment Manager Task Result Event}

theorem filledBy?_cons_of_none (hnone : filling? key moment = none) : filledBy? key (moment :: h) = filledBy? key h :=
  List.findSome?_cons_of_isNone (by rw [hnone]; rfl)

theorem filledBy?_cons_of_some {filled : String × ConfigRequest} (hsome : filling? key moment = some filled) :
    filledBy? key (moment :: h) = some filled := by
  rw [filledBy?, List.findSome?_cons, hsome]

/-- A moment at which no entry is filled and the cache keeps its refreshers. -/
theorem Filled.beside (hf : Filled limits h m) (hnone : ∀ key, filling? key moment = none)
    (hcache : ∀ cache', m'.cache = some cache' → ∃ cache, m.cache = some cache ∧ cache'.limits = cache.limits ∧
      ∀ R, cache.Fit (fun _ _ => True) R → cache'.Fit (fun _ _ => True) R) :
    Filled limits (moment :: h) m' := by
  refine ⟨fun cache' hcache' => ?_, fun cache' hcache' => ?_⟩
  · obtain ⟨cache, hbefore, hlimits, -⟩ := hcache cache' hcache'
    exact hlimits.trans (hf.within cache hbefore)
  · obtain ⟨cache, hbefore, -, hfit⟩ := hcache cache' hcache'
    refine hfit _ ((hf.repeats cache hbefore).imp (fun _ _ h => h) ?_)
    rintro key refresher ⟨hretry, hfilled⟩
    exact ⟨hretry, (filledBy?_cons_of_none (hnone key)).trans hfilled⟩

/-- What leaves the cache alone. -/
theorem Filled.unchanged (hf : Filled limits h m) (hnone : ∀ key, filling? key moment = none)
    (hcache : m'.cache = m.cache) : Filled limits (moment :: h) m' :=
  hf.beside hnone fun cache' hafter => ⟨cache', hcache ▸ hafter, rfl, fun _ hfit => hfit⟩

theorem filling?_of_job {id : Nat} {job : ManagerJob} (hjob : m.jobs.find? id = some job)
    (hother : job.stores = false) (key : CacheKey) :
    filling? key (.stepped m now (.call id) input p) = none := by
  cases job with
  | storing => cases hother
  | _ => simp only [filling?, hjob]

theorem filling?_of_storing {id : Nat} {location : String} {request : ConfigRequest} {config : ProxyConfig}
    (hjob : m.jobs.find? id = some (.storing location request config)) (key : CacheKey) :
    filling? key (.stepped m now (.call id) input p) =
      if request.key location = key then some (location, request) else none := by
  simp only [filling?, hjob]

/-- **A step of a fetch keeps the invariant.** An entry that is stored gets the refresher of its own request. -/
theorem Fetched.filled {id : Nat} {job : ManagerJob} (step : Fetched m now id job input p)
    (hjob : m.jobs.find? id = some job) (hf : Filled limits h m) :
    Filled limits (.stepped m now (.call id) input p :: h) p.state := by
  have hread : ∀ {key : CacheKey} {cache cache' : ConfigCache} {found? : Option ProxyConfig},
      m.cache = some cache → cache.get now key = (found?, cache') → p.state.cache = some cache' →
      ∀ after, p.state.cache = some after → ∃ cache, m.cache = some cache ∧ after.limits = cache.limits ∧
        ∀ R, cache.Fit (fun _ _ => True) R → after.Fit (fun _ _ => True) R := by
    intro key cache cache' found? hbefore hget hstate after hafter
    have heq : after = (cache.get now key).2 := by
      rw [hget]
      exact Option.some.inj (hafter.symm.trans hstate)
    refine ⟨cache, hbefore, ?_, fun R hfit => ?_⟩
    · rw [heq, Cache.limits_get]
    · rw [heq]
      exact (hfit.get rfl).1
  cases step with
  | hit hbefore hget => exact hf.beside (filling?_of_job hjob rfl) (hread hbefore hget rfl)
  | missed hbefore hget => exact hf.beside (filling?_of_job hjob rfl) (hread hbefore hget rfl)
  | @stored location request config cache hbefore =>
      refine ⟨fun cache' hafter => ?_, fun cache' hafter => ?_⟩
      · cases hafter
        exact hf.within cache hbefore
      · cases hafter
        intro key e he
        refine ⟨trivial, ?_⟩
        by_cases hkey : request.key location = key
        · subst hkey
          rw [Cache.find?_set_self] at he
          cases he
          refine ⟨by rw [hf.within cache hbefore], ?_⟩
          exact filledBy?_cons_of_some ((filling?_of_storing hjob _).trans (if_pos rfl))
        · have hold : cache.entries.find? key = some e := Cache.find?_of_set_of_ne hkey he
          obtain ⟨-, hretry, hfilled⟩ := hf.repeats cache hbefore key e hold
          refine ⟨hretry, Eq.trans ?_ hfilled⟩
          exact filledBy?_cons_of_none ((filling?_of_storing hjob key).trans (if_neg hkey))
  | _ => exact hf.unchanged (filling?_of_job hjob rfl) rfl

/-- A step of a sweep changes no refresher in the cache. -/
theorem fit_of_sweep_step {cache' : ConfigCache} {sweep : Sweep ProxyConfig Refresher} {told : Sweep.Told ProxyConfig}
    {out : Sweep ProxyConfig Refresher ⊕ SweepSummary} {R : CacheKey → Refresher → Prop}
    (hstep : sweep.step cache now told = some (cache', out)) (hfit : cache.Fit (fun _ _ => True) R) :
    cache'.Fit (fun _ _ => True) R := by
  cases sweep with
  | starting =>
      cases told with
      | renewed item? => cases hstep
      | turn =>
          cases hstep
          exact (hfit.startSweep now).1
  | refreshing key refresher rest summary =>
      cases told with
      | turn => cases hstep
      | renewed item? =>
          cases item? <;> cases hstep <;> exact hfit
  | storing key item rest summary =>
      cases told with
      | renewed item? => cases hstep
      | turn =>
          cases hstep
          exact hfit.storeRefreshed trivial now
  | closing summary =>
      cases told with
      | renewed item? => cases hstep
      | turn =>
          cases hstep
          exact hfit.finishSweep summary

/-- **Every step keeps the invariant.** -/
theorem Stepped.filled {actor : Actor} (step : Stepped m now actor input p) (hf : Filled limits h m) :
    Filled limits (.stepped m now actor input p :: h) p.state := by
  cases step with
  | called step =>
      obtain ⟨job, hjob⟩ := Option.ne_none_iff_exists'.1 step.has_job
      cases hfetch : job.isFetch with
      | true => exact (step.fetched_of_isFetch hjob hfetch).filled hjob hf
      | false =>
          rcases step.fetched_or_beside with ⟨job', hjob', fetched⟩ | ⟨hcache, -, -, -⟩
          · rw [hjob] at hjob'
            cases hjob'
            rw [fetched.isFetch] at hfetch
            cases hfetch
          · refine hf.unchanged (filling?_of_job hjob ?_) hcache
            cases job with
            | storing => cases hfetch
            | _ => rfl
  | looped hr work => exact hf.unchanged (fun _ => rfl) rfl
  | @refreshed input cache' loop work =>
      refine hf.beside (fun _ => rfl) fun after hafter => ?_
      cases hafter
      cases work with
      | ticked hcache | told hcache | attempted hcache => exact ⟨_, hcache, rfl, fun _ hfit => hfit⟩
      | swept hcache hloop hstep hrenewed =>
          exact ⟨_, hcache, (Sweep.standing_of_step hstep ⟨"", ""⟩).2, fun R hfit => fit_of_sweep_step hstep hfit⟩

end Filling

/-! ## The course of a sweep -/

/-- An entry that a sweep is done with, and the attempts to renew it. -/
structure Dealt where
  key : CacheKey
  refresher : Refresher
  attempts : List Attempt

/-- What has been asked for an entry. -/
def Dealt.exchanges (d : Dealt) : List (Want × Input) := d.attempts.flatMap (Attempt.exchanges d.refresher)

/-- An operation comes to what attempts have come to, one after the other. -/
def Attempt.Answer (attempts : List Attempt) (operation : Nat → Except AuthorizerError ProxyConfig) : Prop :=
  ∀ n a, attempts[n]? = some a → operation (n + 1) = a.outcome

/-- The attempts are those that the policy of the refresher makes. -/
def Dealt.Complete (d : Dealt) : Prop :=
  ∀ operation, Attempt.Answer d.attempts operation →
    RetryPolicy.Spent operation 1 d.refresher.retry.maxAttempts d.attempts.length

/-- How far a sweep has come that has collected the entries `due`: with some it is done, and for one it may be at work.
`asked` is what has been asked so far. -/
inductive SweepCourse (due : List (CacheKey × Refresher)) : List (Want × Input) → RefreshLoop → Prop where
  | renewing (tick : Nat) {done : List Dealt} {key : CacheKey} {refresher : Refresher}
      {rest : List (CacheKey × Refresher)} (failed : List Attempt) (summary : SweepSummary) (connected : Bool)
      (hdone : ∀ d ∈ done, d.Complete)
      (hdue : due = done.map (fun d => (d.key, d.refresher)) ++ (key, refresher) :: rest)
      (hfailed : ∀ a ∈ failed, ∃ e, a.outcome = .error e) (hmore : failed.length < refresher.retry.maxAttempts) :
      SweepCourse due
        (done.flatMap Dealt.exchanges ++ failed.flatMap (Attempt.exchanges refresher) ++
          if connected then [Attempt.client refresher] else [])
        (.sweeping tick (.refreshing key refresher rest summary) (failed.length + 1) connected)
  | storing {tick attempt : Nat} {connected : Bool} {done : List Dealt} {rest : List (CacheKey × Refresher)}
      (key : CacheKey) (item : ProxyConfig) (summary : SweepSummary) (hdone : ∀ d ∈ done, d.Complete)
      (hdue : due = done.map (fun d => (d.key, d.refresher)) ++ rest) :
      SweepCourse due (done.flatMap Dealt.exchanges) (.sweeping tick (.storing key item rest summary) attempt connected)
  | closing {tick attempt : Nat} {connected : Bool} {done : List Dealt} (summary : SweepSummary)
      (hdone : ∀ d ∈ done, d.Complete) (hdue : due = done.map fun d => (d.key, d.refresher)) :
      SweepCourse due (done.flatMap Dealt.exchanges) (.sweeping tick (.closing summary) attempt connected)
  | finished {loop : RefreshLoop} {done : List Dealt}
      (hover : ∀ tick sweep attempt connected, loop ≠ .sweeping tick sweep attempt connected)
      (hdone : ∀ d ∈ done, d.Complete) (hdue : due = done.map fun d => (d.key, d.refresher)) :
      SweepCourse due (done.flatMap Dealt.exchanges) loop

/-- A sweep goes on with the first of the entries that are left. -/
theorem SweepCourse.next {due : List (CacheKey × Refresher)} (done : List Dealt) (tick : Nat) (summary : SweepSummary)
    (hdone : ∀ d ∈ done, d.Complete) (hdue : due = done.map (fun d => (d.key, d.refresher)) ++ rest) :
    SweepCourse due (done.flatMap Dealt.exchanges) (.sweeping tick (.next summary rest) 1 false) := by
  cases rest with
  | nil => exact .closing summary hdone (hdue.trans (List.append_nil _))
  | cons first rest =>
      obtain ⟨key, refresher⟩ := first
      have course := SweepCourse.renewing tick [] summary false hdone hdue
        (fun a ha => absurd ha List.not_mem_nil) refresher.retry.maxAttempts_pos
      rw [List.flatMap_nil, List.append_nil, if_neg Bool.false_ne_true, List.append_nil] at course
      exact course

/-- Attempts of which all have failed but the last one, which has succeeded or was the last one allowed, are complete. -/
theorem complete_append {failed : List Attempt} {a : Attempt} (key : CacheKey)
    (hfailed : ∀ a ∈ failed, ∃ e, a.outcome = .error e) (hmore : failed.length < refresher.retry.maxAttempts)
    (hends : (∃ config, a.outcome = .ok config) ∨ failed.length + 1 = refresher.retry.maxAttempts) :
    (⟨key, refresher, failed ++ [a]⟩ : Dealt).Complete := by
  intro operation hanswer
  have hlength : (failed ++ [a]).length = failed.length + 1 := by simp
  refine ⟨by simp, by rw [hlength]; exact hmore, ?_, ?_⟩
  · intro i hfirst hi
    rw [hlength] at hi
    obtain ⟨n, rfl⟩ : ∃ n, i = n + 1 := ⟨i - 1, by omega⟩
    have hlt : n < failed.length := by omega
    have hget : (failed ++ [a])[n]? = some failed[n] := by
      rw [List.getElem?_append_left hlt, List.getElem?_eq_getElem hlt]
    obtain ⟨e, he⟩ := hfailed failed[n] (List.getElem_mem hlt)
    rintro ⟨config, hconfig⟩
    rw [hanswer n failed[n] hget, he] at hconfig
    cases hconfig
  · rcases hends with ⟨config, hconfig⟩ | hlast
    · have hget : (failed ++ [a])[failed.length]? = some a := by simp
      refine .inl ⟨config, ?_⟩
      rw [hlength, hanswer failed.length a hget, hconfig]
    · exact .inr (hlength.trans hlast)

/-- What is asked for an attempt is the client, unless it has been built before, and then what the client is for. -/
theorem Attempt.exchanges_eq (a : Attempt) (refresher : Refresher) :
    a.exchanges refresher =
      (if a.connects then [client refresher] else []) ++
        [(if a.connects then .reply (refresher.request.call refresher.location)
          else .client (refresher.request.client refresher.location), a.answer)] := by
  cases a <;> rfl

theorem exchange?_of_sweeping {tick attempt : Nat} {connected : Bool}
    (hloop : m.refreshLoop = .sweeping tick (.refreshing key refresher rest summary) attempt connected) :
    system.exchange? (.stepped m now .refreshLoop input p) =
      some (if connected then .reply (refresher.request.call refresher.location)
        else .client (refresher.request.client refresher.location), input) := by
  have hwant : system.want m .refreshLoop =
      if connected then .reply (refresher.request.call refresher.location)
      else .client (refresher.request.client refresher.location) := by
    show m.wantRefreshLoop = _
    simp only [wantRefreshLoop, hloop]
  cases connected with
  | true => simp only [System.exchange?, hwant, if_true]
  | false => simp only [System.exchange?, hwant, Bool.false_eq_true, if_false]

theorem exchange?_of_inside {loop : RefreshLoop} (hloop : m.refreshLoop = loop) (hinside : loop.renews = false) :
    system.exchange? (.stepped m now .refreshLoop input p) = none := by
  have hwant : system.want m .refreshLoop = m.wantRefreshLoop := rfl
  simp only [System.exchange?, hwant, wantRefreshLoop, hloop]
  cases loop with
  | exited => rfl
  | idle tick => cases m.stopRefreshing <;> rfl
  | sweeping tick sweep attempt connected =>
      cases sweep with
      | refreshing => cases hinside
      | _ => rfl

/-- Where an attempt leads a sweep: to the next attempt, or on from the entry. -/
theorem SweepCourse.attempted {due : List (CacheKey × Refresher)} {done : List Dealt} {failed : List Attempt} (tick : Nat)
    (summary : SweepSummary) (hdone : ∀ d ∈ done, d.Complete)
    (hdue : due = done.map (fun d => (d.key, d.refresher)) ++ (key, refresher) :: rest)
    (hfailed : ∀ a ∈ failed, ∃ e, a.outcome = .error e) (hmore : failed.length < refresher.retry.maxAttempts)
    (a : Attempt) :
    SweepCourse due (done.flatMap Dealt.exchanges ++ (failed ++ [a]).flatMap (Attempt.exchanges refresher))
      (afterAttempt tick key refresher rest summary (failed.length + 1) a.outcome) := by
  let dealt : Dealt := ⟨key, refresher, failed ++ [a]⟩
  have hasked : done.flatMap Dealt.exchanges ++ (failed ++ [a]).flatMap (Attempt.exchanges refresher) =
      (done ++ [dealt]).flatMap Dealt.exchanges := by
    rw [@List.flatMap_append _ _ done, List.flatMap_singleton Dealt.exchanges]
    rfl
  have hdue' : due = (done ++ [dealt]).map (fun d => (d.key, d.refresher)) ++ rest := by
    rw [hdue, List.map_append, List.append_assoc]
    rfl
  have hdone' : dealt.Complete → ∀ d ∈ done ++ [dealt], d.Complete := by
    intro hcomplete d hd
    rcases List.mem_append.1 hd with hd | hd
    · exact hdone d hd
    · rw [List.mem_singleton.1 hd]
      exact hcomplete
  cases houtcome : a.outcome with
  | ok config =>
      have hcomplete : dealt.Complete := complete_append key hfailed hmore (.inl ⟨config, houtcome⟩)
      rw [hasked]
      exact .storing key config summary (hdone' hcomplete) hdue'
  | error e =>
      by_cases hagain : failed.length + 1 < refresher.retry.maxAttempts
      · have hfailed' : ∀ b ∈ failed ++ [a], ∃ e, b.outcome = .error e := by
          intro b hb
          rcases List.mem_append.1 hb with hb | hb
          · exact hfailed b hb
          · exact ⟨e, List.mem_singleton.1 hb ▸ houtcome⟩
        have hlength : (failed ++ [a]).length = failed.length + 1 := List.length_append
        have course := SweepCourse.renewing tick (failed ++ [a]) summary false hdone hdue hfailed' (hlength ▸ hagain)
        rw [if_neg Bool.false_ne_true, List.append_nil, hlength] at course
        rw [afterAttempt, if_pos hagain]
        exact course
      · have hcomplete : dealt.Complete := complete_append key hfailed hmore (.inr (by omega))
        rw [hasked, afterAttempt, if_neg hagain]
        exact .next _ tick _ (hdone' hcomplete) hdue'

/-- **A step of the refresh loop leads a sweep on.** What is asked at the step comes after what has been asked before. -/
theorem SweepCourse.stepped {due : List (CacheKey × Refresher)} {asked : List (Want × Input)} {loop : RefreshLoop}
    (course : SweepCourse due asked m.refreshLoop) (step : Renewing m now cache input loop)
    (htick : input ≠ .tick) (p : Progress Manager Result Event) :
    SweepCourse due (asked ++ (system.exchange? (.stepped m now .refreshLoop input p)).toList) loop := by
  cases step with
  | ticked idle => exact absurd rfl htick
  | collected hloop =>
      rw [hloop] at course
      cases course with
      | finished hover => exact absurd rfl (hover _ _ _ _)
  | told idle =>
      rw [exchange?_of_inside idle rfl, Option.toList_none, List.append_nil]
      rw [idle] at course
      cases course with
      | finished hover hdone hdue => exact .finished (fun _ _ _ _ h => RefreshLoop.noConfusion h) hdone hdue
  | connected hloop =>
      rw [exchange?_of_sweeping hloop]
      rw [hloop] at course
      cases course with
      | @renewing tick done key refresher rest failed _ _ hdone hdue hfailed hmore =>
          rw [if_neg Bool.false_ne_true, List.append_nil]
          exact .renewing _ failed _ true hdone hdue hfailed hmore
      | finished hover => exact absurd rfl (hover _ _ _ _)
  | @attempted tick attempt key refresher rest summary a hloop =>
      rw [exchange?_of_sweeping hloop]
      rw [hloop] at course
      cases course with
      | finished hover => exact absurd rfl (hover _ _ _ _)
      | @renewing _ done _ _ _ failed _ _ hdone hdue hfailed hmore =>
          have hasked : (failed ++ [a]).flatMap (Attempt.exchanges refresher) =
              failed.flatMap (Attempt.exchanges refresher) ++ a.exchanges refresher := by
            rw [List.flatMap_append, List.flatMap_singleton]
          -- an attempt ends with what is fetched if its client has been built, and else with the client
          have course := SweepCourse.attempted tick summary hdone hdue hfailed hmore a
          rw [hasked, a.exchanges_eq, ← List.append_assoc, ← List.append_assoc] at course
          exact course
  | stored summary' hloop =>
      rw [exchange?_of_inside hloop rfl, Option.toList_none, List.append_nil]
      rw [hloop] at course
      cases course with
      | storing key item summary hdone hdue => exact .next _ _ summary' hdone hdue
      | finished hover => exact absurd rfl (hover _ _ _ _)
  | closed hloop =>
      rw [exchange?_of_inside hloop rfl, Option.toList_none, List.append_nil]
      rw [hloop] at course
      cases course with
      | closing summary hdone hdue => exact .finished (fun _ _ _ _ h => RefreshLoop.noConfusion h) hdone hdue
      | finished hover => exact absurd rfl (hover _ _ _ _)

/-- What is asked for an entry that is renewed with `refresher`: so many attempts as the policy makes, which come to
what `attempts` says. -/
def renewal (refresher : Refresher) (attempts : Nat → Attempt) : List (Want × Input) :=
  (List.range' 1 (refresher.retry.execute fun n => (attempts n).outcome).2).flatMap fun n =>
    (attempts n).exchanges refresher

end Manager

end GatewayAuth
