import GatewayAuth.Proofs.Cache.Pacing
import Mathlib.Data.List.Basic

/-!
# `GatewayAuth.Proofs.Cache.Sweeping` — what one sweep makes of a cache

A sweep splits the entries in three as of the instant at which it looks at the clock: those that are expired go, those
that are due are renewed one after the other, and the rest it does not look at again. What others do in the meantime
plays a part at one place only, where a renewed item is written: if the entry is gone by then, the item is dropped and
the entry counts as skipped.

## Contents
- `Cache.expiredAt`, `Cache.dueAt`: the split; `Cache.startSweep_due`, `Cache.startSweep_summary`.
- `SweepStepped`, `sweepStepped_of_step`: the cases of a step of a sweep, counts included.
- `Renewal`, `dealt?`, `invoked?`: what a history tells of the entries that a sweep has collected.
- `Tallied`, `Tallied.stepped`, `tallied_of_run`: the counts of a sweep, whatever happens beside it.
- `Halfway`, `Halfway.stepped`, `underway_of_run`: the cache under a sweep that is alone at it.
- `Sweeps`, `sweeps_of_run`: what a sweep does.
-/

namespace GatewayAuth

variable {ι ρ : Type}

/-! ## The split -/

namespace Cache

/-- The entries that are expired at an instant. -/
def expiredAt (c : Cache ι ρ) (now : Nat) : Table CacheKey (CacheEntry ι ρ) :=
  c.entries.filter fun _ e => decide (e.deadline ≤ now)

/-- The entries that are not expired at an instant and whose deadline is at most one interval away. -/
def dueAt (c : Cache ι ρ) (now : Nat) : Table CacheKey (CacheEntry ι ρ) :=
  c.entries.filter fun _ e => decide (now < e.deadline ∧ e.deadline ≤ now + c.limits.refreshInterval)

variable {c : Cache ι ρ} {now : Nat} {key : CacheKey} {e : CacheEntry ι ρ}

theorem find?_dueAt :
    (c.dueAt now).find? key = some e ↔
      c.entries.find? key = some e ∧ now < e.deadline ∧ e.deadline ≤ now + c.limits.refreshInterval := by
  unfold dueAt
  rw [Table.find?_filter_eq_some_iff, decide_eq_true_iff]

/-- A sweep collects what is due, in the order of the table. -/
theorem startSweep_due (c : Cache ι ρ) (now : Nat) :
    (c.startSweep now).2.1 = (c.dueAt now).toList.map fun e => (e.1, e.2.refresher) := by
  unfold startSweep dueAt Table.filter
  dsimp only
  rw [List.filter_filter]
  congr 2
  funext e
  unfold CacheEntry.isExpired
  by_cases hlive : now < e.2.deadline
  · simp [hlive, Nat.not_le.2 hlive]
  · simp [hlive, Nat.not_lt.1 hlive]

/-- What it drops at once is what is expired. -/
theorem startSweep_summary (c : Cache ι ρ) (now : Nat) :
    (c.startSweep now).2.2 = ⟨0, 0, (c.expiredAt now).size, 0⟩ := by
  have hsplit : (c.expiredAt now).size + (c.startSweep now).1.size = c.size := by
    unfold startSweep expiredAt size Table.size Table.filter CacheEntry.isExpired
    exact (c.entries.toList.length_eq_length_filter_add _).symm
  show (⟨0, 0, c.size - (c.startSweep now).1.size, 0⟩ : SweepSummary) = _
  congr 1
  omega

theorem stats_storeRefreshed (c : Cache ι ρ) (now : Nat) (key : CacheKey) (item : ι) :
    (c.storeRefreshed now key item).2.stats = c.stats := by
  unfold storeRefreshed
  split <;> rfl

end Cache

/-! ## The phases of a sweep -/

namespace Sweep

/-- The entries whose refreshers a sweep has yet to run. -/
def rest : Sweep ι ρ → List (CacheKey × ρ)
  | .refreshing _ _ rest _ => rest
  | .storing _ _ rest _ => rest
  | _ => []

/-- What a sweep has counted so far. -/
def summary : Sweep ι ρ → SweepSummary
  | .starting => ⟨0, 0, 0, 0⟩
  | .refreshing _ _ _ summary => summary
  | .storing _ _ _ summary => summary
  | .closing summary => summary

@[simp] theorem summary_starting : (starting : Sweep ι ρ).summary = ⟨0, 0, 0, 0⟩ := rfl

@[simp] theorem summary_refreshing (key : CacheKey) (refresher : ρ) (rest : List (CacheKey × ρ))
    (summary : SweepSummary) : (refreshing key refresher rest summary : Sweep ι ρ).summary = summary := rfl

@[simp] theorem summary_storing (key : CacheKey) (item : ι) (rest : List (CacheKey × ρ))
    (summary : SweepSummary) : (storing key item rest summary : Sweep ι ρ).summary = summary := rfl

@[simp] theorem summary_closing (summary : SweepSummary) :
    (closing summary : Sweep ι ρ).summary = summary := rfl

@[simp] theorem summary_next (summary : SweepSummary) (rest : List (CacheKey × ρ)) :
    (next summary rest : Sweep ι ρ).summary = summary := by
  cases rest <;> rfl

end Sweep

/-- The counts after a renewed item has found an entry to go to, or none. -/
def SweepSummary.written (summary : SweepSummary) (there : Bool) : SweepSummary :=
  if there then { summary with refreshed := summary.refreshed + 1 }
  else { summary with skipped := summary.skipped + 1 }

/-- What a sweep comes to with one of the entries that it has collected. -/
inductive Renewal where
  /-- Its refresher came back with an item, and there was an entry to write that to. -/
  | refreshed
  /-- Its refresher failed. -/
  | failed
  /-- Its refresher came back with an item, and there was no entry to write that to. -/
  | skipped
  deriving DecidableEq, Repr

namespace SharedCache

/-- The cases of a step of a sweep. -/
inductive SweepStepped (c : SharedCache ρ) (now : Nat) (actor : Actor) (clock : Nat) :
    Sweep ProxyConfig ρ → Input → Progress (SharedCache ρ) Result Empty → Prop where
  | collected : SweepStepped c now actor clock .starting .turn
      (.quiet (({ c with cache := (c.cache.startSweep clock).1 } : SharedCache ρ).resume actor
        (.sweeping clock (.next (c.cache.startSweep clock).2.2 (c.cache.startSweep clock).2.1))))
  | renewed {key : CacheKey} {refresher : ρ} {rest : List (CacheKey × ρ)} {summary : SweepSummary}
      {item : ProxyConfig} :
      SweepStepped c now actor clock (.refreshing key refresher rest summary) (.fetched (.ok item))
        (.quiet (c.resume actor (.sweeping clock (.storing key item rest summary))))
  | failed {key : CacheKey} {refresher : ρ} {rest : List (CacheKey × ρ)} {summary : SweepSummary}
      {input : Input} (told : told? input = some (.renewed none)) :
      SweepStepped c now actor clock (.refreshing key refresher rest summary) input
        (.quiet (c.resume actor
          (.sweeping clock (.next { summary with failed := summary.failed + 1 } rest))))
  | stored {key : CacheKey} {item : ProxyConfig} {rest : List (CacheKey × ρ)}
      {summary : SweepSummary} :
      SweepStepped c now actor clock (.storing key item rest summary) .turn
        (.quiet (({ c with cache := (c.cache.storeRefreshed now key item).2 } : SharedCache ρ).resume
          actor (.sweeping clock (.next (summary.written (c.cache.entries.contains key)) rest))))
  | closed {summary : SweepSummary} :
      SweepStepped c now actor clock (.closing summary) .turn
        (.done (c.leave actor (c.cache.finishSweep summary)) (.swept summary))

variable {c c₀ c₁ : SharedCache ρ} {h : Past ρ} {now clock start : Nat} {actor other : Actor}
  {input : Input} {p : Progress (SharedCache ρ) Result Empty} {key : CacheKey}
  {sweep sweep' : Sweep ProxyConfig ρ} {due : List (CacheKey × ρ)} {expired : Nat}
  {before : Cache ProxyConfig ρ} {moment : Moment (SharedCache ρ) (Task ρ) Result Empty}

/-- Who has nothing to do takes no step. -/
theorem Stepped.job_ne_none (step : Stepped c now actor input p) : c.jobs.find? actor ≠ none := by
  intro hnone
  cases step <;> simp_all only [reduceCtorEq]

theorem Stepped.state_of_waking (step : Stepped c now actor input p)
    (job : c.jobs.find? actor = some .waking) :
    p.state = c.resume actor (.sweeping now .starting) := by
  cases step with
  | woke job' => rfl
  | _ => simp_all only [Option.some.injEq, reduceCtorEq]

theorem sweepStepped_of_step (hstep : system.step c now actor input = some p)
    (job : c.jobs.find? actor = some (.sweeping clock sweep)) :
    SweepStepped c now actor clock sweep input p := by
  have step : Stepped c now actor input p := stepped_of_step hstep
  cases step with
  | read job' | wrote job' | removed job' | woke job' =>
      rw [job] at job'
      cases job'
  | collected job' =>
      rw [job] at job'
      cases job'
      exact .collected
  | renewed job' =>
      rw [job] at job'
      cases job'
      exact .renewed
  | failed job' told =>
      rw [job] at job'
      cases job'
      exact .failed told
  | @stored clock' key item rest summary summary' job' =>
      -- which count goes up is not among the cases of `Stepped`
      rw [job] at job'
      cases job'
      have hwritten : system.step c now actor .turn = some
          (.quiet (({ c with cache := (c.cache.storeRefreshed now key item).2 } : SharedCache ρ).resume
            actor (.sweeping clock (.next (summary.written (c.cache.storeRefreshed now key item).1)
              rest)))) := by
        simp only [system, step, job, told?, Sweep.step, instant]
        rfl
      have hthere : (c.cache.storeRefreshed now key item).1 = c.cache.entries.contains key := by
        unfold Cache.storeRefreshed Table.contains
        split
        · next e he => rw [he]; rfl
        · next he => rw [he]; rfl
      rw [hthere, hstep] at hwritten
      rw [Option.some.inj hwritten]
      exact .stored
  | closed job' =>
      rw [job] at job'
      cases job'
      exact .closed

/-- The cases of a step, those of a sweep with their counts. -/
inductive CallStepped (c : SharedCache ρ) (now : Nat) (actor : Actor) :
    Input → Progress (SharedCache ρ) Result Empty → Prop where
  | read {key : CacheKey} (job : c.jobs.find? actor = some (.reading key)) :
      CallStepped c now actor .turn
        (.done (c.leave actor (c.cache.get now key).2) (.found (c.cache.get now key).1))
  | wrote {key : CacheKey} {item : ProxyConfig} {refresher : ρ}
      (job : c.jobs.find? actor = some (.writing key item refresher)) :
      CallStepped c now actor .turn (.done (c.leave actor (c.cache.set now key item refresher)) .stored)
  | removed {key : CacheKey} (job : c.jobs.find? actor = some (.removing key)) :
      CallStepped c now actor .turn
        (.done (c.leave actor (c.cache.remove key).2) (.removed (c.cache.remove key).1))
  | woke (job : c.jobs.find? actor = some .waking) :
      CallStepped c now actor .turn (.quiet (c.resume actor (.sweeping now .starting)))
  | swept {clock : Nat} {sweep : Sweep ProxyConfig ρ} {input : Input}
      {p : Progress (SharedCache ρ) Result Empty}
      (job : c.jobs.find? actor = some (.sweeping clock sweep))
      (step : SweepStepped c now actor clock sweep input p) : CallStepped c now actor input p

theorem callStepped_of_step (hstep : system.step c now actor input = some p) :
    CallStepped c now actor input p := by
  have step : Stepped c now actor input p := stepped_of_step hstep
  cases step with
  | @read key item? cache job hget =>
      have hfound : item? = (c.cache.get now key).1 := by rw [hget]
      have hcache : cache = (c.cache.get now key).2 := by rw [hget]
      rw [hfound, hcache]
      exact .read job
  | wrote job => exact .wrote job
  | removed job => exact .removed job
  | woke job => exact .woke job
  | collected job | renewed job | failed job | stored job | closed job =>
      exact .swept job (sweepStepped_of_step hstep job)

/-! ## What a history tells of a sweep -/

/-- The key and what has become of it, if the sweep of an actor is done with one of its entries at this moment. -/
def dealt? (actor : Actor) :
    Moment (SharedCache ρ) (Task ρ) Result Empty → Option (CacheKey × Renewal)
  | .began _ _ => none
  | .stepped c _ other input _ =>
    if other = actor then
      match c.jobs.find? actor, told? input with
      | some (.sweeping _ (.refreshing key _ _ _)), some (.renewed none) => some (key, .failed)
      | some (.sweeping _ (.storing key _ _ _)), _ =>
        some (key, if c.cache.entries.contains key then .refreshed else .skipped)
      | _, _ => none
    else none

/-- The sweep, the key and the refresher, if a refresher is run from this moment on. -/
def invoked? : Moment (SharedCache ρ) (Task ρ) Result Empty → Option (Actor × CacheKey × ρ)
  | .began _ _ => none
  | .stepped _ _ actor _ p =>
    match p.state.jobs.find? actor with
    | some (.sweeping _ (.refreshing key refresher _ _)) => some (actor, key, refresher)
    | _ => none

/-! ## The counts of a sweep -/

/-- The counts of what a sweep has come to with its entries. -/
def tally (expired : Nat) (dealt : List (CacheKey × Renewal)) : SweepSummary where
  refreshed := (dealt.map Prod.snd).count .refreshed
  failed := (dealt.map Prod.snd).count .failed
  expired := expired
  skipped := (dealt.map Prod.snd).count .skipped

/-- Each entry is counted once. -/
theorem tally_total (expired : Nat) (dealt : List (CacheKey × Renewal)) :
    (tally expired dealt).refreshed + (tally expired dealt).failed + (tally expired dealt).skipped =
      dealt.length := by
  unfold tally
  dsimp only
  induction dealt with
  | nil => rfl
  | cons d dealt ih =>
      obtain ⟨key, renewal⟩ := d
      rw [List.map_cons, List.count_cons, List.count_cons, List.count_cons, List.length_cons]
      cases renewal <;> simp <;> omega

theorem tally_failed (expired : Nat) (key : CacheKey) (dealt : List (CacheKey × Renewal)) :
    tally expired ((key, .failed) :: dealt) =
      { tally expired dealt with failed := (tally expired dealt).failed + 1 } := by
  simp [tally]

theorem tally_written (expired : Nat) (key : CacheKey) (there : Bool)
    (dealt : List (CacheKey × Renewal)) :
    tally expired ((key, if there then .refreshed else .skipped) :: dealt) =
      (tally expired dealt).written there := by
  cases there <;> simp [tally, SweepSummary.written]

theorem dealt?_of_other (hne : other ≠ actor) :
    dealt? actor (.stepped c now other input p) = none := if_neg hne

theorem dealt?_of_waking (job : c.jobs.find? actor = some .waking) :
    dealt? actor (.stepped c now actor input p) = none := by
  simp only [dealt?, job, if_true]

theorem dealt?_of_starting (job : c.jobs.find? actor = some (.sweeping clock .starting)) :
    dealt? actor (.stepped c now actor input p) = none := by
  simp only [dealt?, job, if_true]

theorem dealt?_of_fetched {refresher : ρ} {rest : List (CacheKey × ρ)} {summary : SweepSummary}
    (job : c.jobs.find? actor = some (.sweeping clock (.refreshing key refresher rest summary)))
    (item : ProxyConfig) : dealt? actor (.stepped c now actor (.fetched (.ok item)) p) = none := by
  simp only [dealt?, job, told?, if_true]

theorem dealt?_of_failed {refresher : ρ} {rest : List (CacheKey × ρ)} {summary : SweepSummary}
    (job : c.jobs.find? actor = some (.sweeping clock (.refreshing key refresher rest summary)))
    (told : told? input = some (.renewed none)) :
    dealt? actor (.stepped c now actor input p) = some (key, .failed) := by
  simp only [dealt?, job, told, if_true]

theorem dealt?_of_storing {item : ProxyConfig} {rest : List (CacheKey × ρ)} {summary : SweepSummary}
    (job : c.jobs.find? actor = some (.sweeping clock (.storing key item rest summary))) :
    dealt? actor (.stepped c now actor input p) =
      some (key, if c.cache.entries.contains key then .refreshed else .skipped) := by
  simp only [dealt?, job, if_true]

theorem dealt?_of_stored {item : ProxyConfig} {rest : List (CacheKey × ρ)} {summary : SweepSummary}
    {e : CacheEntry ProxyConfig ρ}
    (job : c.jobs.find? actor = some (.sweeping clock (.storing key item rest summary)))
    (he : c.cache.entries.find? key = some e) :
    dealt? actor (.stepped c now actor input p) = some (key, .refreshed) := by
  rw [dealt?_of_storing job, Table.contains_eq_true_iff.2 ⟨e, he⟩]
  rfl

/-- A sweep that has collected `due` and dropped `expired` entries has come to something with each entry that it does
not have in hand any more, in their order, and counts that. -/
structure Tallied (actor : Actor) (due : List (CacheKey × ρ)) (expired : Nat) (h : Past ρ)
    (sweep : Sweep ProxyConfig ρ) : Prop where
  keys : (h.filterMap (dealt? actor)).reverse.map Prod.fst ++ sweep.keys = due.map Prod.fst
  counts : sweep.summary = tally expired (h.filterMap (dealt? actor))

theorem Tallied.of_collected (hnone : h.filterMap (dealt? actor) = [])
    (due : List (CacheKey × ρ)) (expired : Nat) :
    Tallied actor due expired h (.next ⟨0, 0, expired, 0⟩ due) := by
  constructor
  · rw [hnone, Sweep.keys_next]
    rfl
  · rw [hnone, Sweep.summary_next]
    rfl

/-- What others do does not count. -/
theorem Tallied.beside (tallied : Tallied actor due expired h sweep)
    (hnone : dealt? actor moment = none) : Tallied actor due expired (moment :: h) sweep := by
  obtain ⟨hkeys, hcounts⟩ := tallied
  constructor
  · rw [List.filterMap_cons_none hnone]
    exact hkeys
  · rw [List.filterMap_cons_none hnone]
    exact hcounts

/-- The entry in hand has been dealt with. -/
theorem Tallied.next {key : CacheKey} {renewal : Renewal} {rest : List (CacheKey × ρ)}
    {summary : SweepSummary} (tallied : Tallied actor due expired h sweep)
    (hkeys : sweep.keys = key :: rest.map Prod.fst)
    (hsome : dealt? actor moment = some (key, renewal))
    (hsummary : summary = tally expired ((key, renewal) :: h.filterMap (dealt? actor))) :
    Tallied actor due expired (moment :: h) (.next summary rest) := by
  constructor
  · rw [← tallied.keys, List.filterMap_cons_some hsome, Sweep.keys_next, hkeys, List.reverse_cons,
      List.map_append, List.append_assoc]
    rfl
  · rw [List.filterMap_cons_some hsome, Sweep.summary_next, hsummary]

/-- **A step of a sweep keeps its counts right.** -/
theorem Tallied.stepped (tallied : Tallied actor due expired h sweep) (hne : sweep ≠ .starting)
    (job : c.jobs.find? actor = some (.sweeping clock sweep))
    (step : SweepStepped c now actor clock sweep input p)
    (job' : p.state.jobs.find? actor = some (.sweeping start sweep')) :
    Tallied actor due expired (.stepped c now actor input p :: h) sweep' := by
  cases step with
  | collected => exact absurd rfl hne
  | closed => cases (find?_leave c actor _).symm.trans job'
  | @renewed key refresher rest summary item =>
      cases (find?_resume c actor _).symm.trans job'
      have hnone : dealt? actor (.stepped c now actor (.fetched (.ok item)) (.quiet (c.resume actor
        (.sweeping clock (.storing key item rest summary))))) = none := dealt?_of_fetched job item
      exact ⟨(tallied.beside hnone).keys, (tallied.beside hnone).counts⟩
  | failed told =>
      cases (find?_resume c actor _).symm.trans job'
      refine tallied.next rfl (dealt?_of_failed job told) ?_
      rw [tally_failed, ← tallied.counts]
      rfl
  | stored =>
      cases (find?_resume _ actor _).symm.trans job'
      refine tallied.next rfl (dealt?_of_storing job) ?_
      rw [tally_written, ← tallied.counts]
      rfl

/-- Where the sweep of an actor stands that has been given its task at the start of a history. -/
inductive Counting (actor : Actor) (h : Past ρ) : Option (CacheJob ρ) → Prop where
  | waking (hnone : h.filterMap (dealt? actor) = []) : Counting actor h (some .waking)
  | starting {clock : Nat} (hnone : h.filterMap (dealt? actor) = []) :
      Counting actor h (some (.sweeping clock .starting))
  | dealing {c₂ : SharedCache ρ} {now clock : Nat} {input : Input}
      {p : Progress (SharedCache ρ) Result Empty} {sweep : Sweep ProxyConfig ρ}
      (hne : sweep ≠ .starting) (hmem : .stepped c₂ now actor input p ∈ h)
      (job : c₂.jobs.find? actor = some (.sweeping clock .starting))
      (tallied : Tallied actor (c₂.cache.startSweep clock).2.1 (c₂.cache.expiredAt clock).size h sweep) :
      Counting actor h (some (.sweeping clock sweep))
  | gone : Counting actor h none

/-- What others do does not count. -/
theorem Counting.beside {job? : Option (CacheJob ρ)} (counting : Counting actor h job?)
    (hnone : dealt? actor moment = none) : Counting actor (moment :: h) job? := by
  cases counting with
  | waking hnone' => exact .waking ((List.filterMap_cons_none hnone).trans hnone')
  | starting hnone' => exact .starting ((List.filterMap_cons_none hnone).trans hnone')
  | dealing hne hmem job tallied =>
      exact .dealing hne (List.mem_cons_of_mem _ hmem) job (tallied.beside hnone)
  | gone => exact .gone

theorem next_ne_starting (summary : SweepSummary) (rest : List (CacheKey × ρ)) :
    (.next summary rest : Sweep ProxyConfig ρ) ≠ .starting := by
  cases rest <;> nofun

/-- Once it has collected, a sweep goes on with what it has in hand, or is over. -/
theorem SweepStepped.goes (step : SweepStepped c now actor clock sweep input p)
    (hne : sweep ≠ .starting) :
    p.state.jobs.find? actor = none ∨
      ∃ sweep', p.state.jobs.find? actor = some (.sweeping clock sweep') ∧ sweep' ≠ .starting := by
  cases step with
  | collected => exact absurd rfl hne
  | renewed => exact .inr ⟨_, find?_resume _ _ _, nofun⟩
  | failed told => exact .inr ⟨_, find?_resume _ _ _, next_ne_starting _ _⟩
  | stored => exact .inr ⟨_, find?_resume _ _ _, next_ne_starting _ _⟩
  | closed => exact .inl (find?_leave _ _ _)

/-- **In every run, a sweep has come to something with each entry that it does not have in hand any more.** -/
theorem counting_of_run (run : Run system c₁ h c)
    (hbegin : c₁.jobs.find? actor = some .waking) (hagain : ∀ task, .began actor task ∉ h) :
    Counting actor h (c.jobs.find? actor) := by
  induction run with
  | start =>
      rw [hbegin]
      exact .waking rfl
  | @begins h c c' other task run hother ih =>
      obtain ⟨id, rfl, -, rfl⟩ := exists_resume_of_begin? hother
      have hne : Actor.call id ≠ actor := by
        rintro rfl
        exact hagain task List.mem_cons_self
      have hsame : (c.resume (.call id) task.job).jobs.find? actor = c.jobs.find? actor :=
        (Table.find?_insert _ _ _ _).trans (if_neg hne)
      rw [hsame]
      exact (ih fun task hmem => hagain task (List.mem_cons_of_mem _ hmem)).beside rfl
  | @steps h c now other input p run hstep ih =>
      have counting := ih fun task hmem => hagain task (List.mem_cons_of_mem _ hmem)
      have step : Stepped c now other input p := stepped_of_step hstep
      by_cases hother : other = actor
      · subst hother
        generalize hjob : c.jobs.find? other = job? at counting
        cases counting with
        | waking hnone =>
            rw [step.state_of_waking hjob, find?_resume]
            exact .starting ((List.filterMap_cons_none (dealt?_of_waking hjob)).trans hnone)
        | @starting clock hnone =>
            rw [step.state_of_starting hjob, find?_resume]
            refine .dealing (next_ne_starting _ _) List.mem_cons_self hjob ?_
            rw [Cache.startSweep_summary]
            exact .of_collected ((List.filterMap_cons_none (dealt?_of_starting hjob)).trans hnone) _ _
        | dealing hne hmem job tallied =>
            have hmem := List.mem_cons_of_mem (.stepped c now other input p) hmem
            rcases (sweepStepped_of_step hstep hjob).goes hne with hover | ⟨sweep', job', hne'⟩
            · rw [hover]
              exact .gone
            · rw [job']
              exact .dealing hne' hmem job
                (tallied.stepped hne hjob (sweepStepped_of_step hstep hjob) job')
        | gone => exact absurd hjob step.job_ne_none
      · rw [step.others (Ne.symm hother)]
        exact counting.beside (dealt?_of_other hother)

/-! ## The cache under a sweep that is alone -/

/-- The refresher that a sweep runs for a key comes back with an item at the instant `back`, and the next step, at
`written`, is to write that. -/
def RenewedIn (h : Past ρ) (actor : Actor) (key : CacheKey) (refresher : ρ) (item : ProxyConfig)
    (back written : Nat) : Prop :=
  ∃ later c₂ p₂ c₁ p₁ earlier clock rest summary,
    h = later ++ .stepped c₂ written actor .turn p₂ ::
      .stepped c₁ back actor (.fetched (.ok item)) p₁ :: earlier ∧
    c₁.jobs.find? actor = some (.sweeping clock (.refreshing key refresher rest summary))

theorem RenewedIn.of_last {refresher : ρ} {item : ProxyConfig} {back : Nat}
    {rest : List (CacheKey × ρ)} {summary : SweepSummary} {p₁ : Progress (SharedCache ρ) Result Empty}
    (job : c₁.jobs.find? actor = some (.sweeping clock (.refreshing key refresher rest summary))) :
    RenewedIn (.stepped c now actor .turn p :: .stepped c₁ back actor (.fetched (.ok item)) p₁ :: h)
      actor key refresher item back now :=
  ⟨[], c, p, c₁, p₁, h, clock, rest, summary, rfl, job⟩

theorem RenewedIn.cons {refresher : ρ} {item : ProxyConfig} {back written : Nat}
    (hrenewed : RenewedIn h actor key refresher item back written)
    (moment : Moment (SharedCache ρ) (Task ρ) Result Empty) :
    RenewedIn (moment :: h) actor key refresher item back written := by
  obtain ⟨later, c₂, p₂, c₁, p₁, earlier, clock, rest, summary, rfl, job⟩ := hrenewed
  exact ⟨moment :: later, c₂, p₂, c₁, p₁, earlier, clock, rest, summary, rfl, job⟩

/-- What has become of an entry that a sweep has dealt with: it is as it was, or has a new item and a new deadline. -/
inductive Fate (before : Cache ProxyConfig ρ) (actor : Actor) (h : Past ρ)
    (cache : Cache ProxyConfig ρ) (key : CacheKey) : Renewal → Prop where
  | failed (hsame : cache.entries.find? key = before.entries.find? key) :
      Fate before actor h cache key .failed
  | refreshed {e : CacheEntry ProxyConfig ρ} {item : ProxyConfig} {back written : Nat}
      (he : before.entries.find? key = some e)
      (hrenewed : RenewedIn h actor key e.refresher item back written)
      (hafter : cache.entries.find? key =
        some { e with item, deadline := written + before.limits.ttl }) :
      Fate before actor h cache key .refreshed

/-- A step that leaves an entry leaves its fate. -/
theorem Fate.stepped {cache cache' : Cache ProxyConfig ρ} {renewal : Renewal}
    (fate : Fate before actor h cache key renewal)
    (hsame : cache'.entries.find? key = cache.entries.find? key) :
    Fate before actor (moment :: h) cache' key renewal := by
  cases fate with
  | failed hbefore => exact .failed (hsame.trans hbefore)
  | refreshed he hrenewed hafter => exact .refreshed he (hrenewed.cons _) (hsame.trans hafter)

/-- What a sweep has in hand is the refresher of a due entry, or an item that such a one has come back with just now. -/
inductive AtHand (actor : Actor) (due : List (CacheKey × ρ)) (h : Past ρ) :
    Sweep ProxyConfig ρ → Prop where
  | refreshing {key : CacheKey} {refresher : ρ} {rest : List (CacheKey × ρ)} {summary : SweepSummary}
      (hdue : (key, refresher) ∈ due) : AtHand actor due h (.refreshing key refresher rest summary)
  | storing {key : CacheKey} {refresher : ρ} {item : ProxyConfig} {rest rest' : List (CacheKey × ρ)}
      {summary summary' : SweepSummary} {c₁ : SharedCache ρ} {back clock : Nat}
      {p₁ : Progress (SharedCache ρ) Result Empty} {earlier : Past ρ} (hdue : (key, refresher) ∈ due)
      (hlast : h = .stepped c₁ back actor (.fetched (.ok item)) p₁ :: earlier)
      (job : c₁.jobs.find? actor = some (.sweeping clock (.refreshing key refresher rest' summary'))) :
      AtHand actor due h (.storing key item rest summary)
  | closing {summary : SweepSummary} : AtHand actor due h (.closing summary)

/-- How many of its two steps a sweep has taken with the entry that it has in hand. -/
def halfDone : Sweep ProxyConfig ρ → Nat
  | .storing _ _ _ _ => 1
  | _ => 0

/-- The cache, under a sweep that is alone at it and has collected its work as of `start`. -/
structure Halfway (before : Cache ProxyConfig ρ) (actor : Actor) (start : Nat) (h : Past ρ)
    (cache : Cache ProxyConfig ρ) (sweep : Sweep ProxyConfig ρ) : Prop where
  limits : cache.limits = before.limits
  stats : cache.stats = before.stats
  tallied : Tallied actor (before.startSweep start).2.1 (before.expiredAt start).size h sweep
  /-- The refreshers of due entries are run in order, each of them once. -/
  invoked : (h.filterMap invoked?).reverse ++ sweep.rest.map (Prod.mk actor) =
    (before.startSweep start).2.1.map (Prod.mk actor)
  hand : AtHand actor (before.startSweep start).2.1 h sweep
  /-- What the sweep has not dealt with is as it was. -/
  spared : ∀ key, key ∉ (h.filterMap (dealt? actor)).map Prod.fst →
    cache.entries.find? key = (before.startSweep start).1.entries.find? key
  fates : ∀ key renewal, (key, renewal) ∈ h.filterMap (dealt? actor) →
    Fate before actor h cache key renewal
  steps : h.length ≤ 2 * (h.filterMap (dealt? actor)).length + 2 + halfDone sweep

/-- No key is collected twice. -/
theorem nodup_due (before : Cache ProxyConfig ρ) (start : Nat) :
    ((before.startSweep start).2.1.map Prod.fst).Nodup := by
  rw [Cache.startSweep_due, List.map_map]
  exact (before.dueAt start).nodup

/-- What is in hand has not been dealt with. -/
theorem Tallied.not_mem (tallied : Tallied actor due expired h sweep)
    (hdue : (due.map Prod.fst).Nodup) (hkey : key ∈ sweep.keys) :
    key ∉ (h.filterMap (dealt? actor)).map Prod.fst := by
  rw [← tallied.keys, List.nodup_append] at hdue
  intro hmem
  refine hdue.2.2 key ?_ key hkey rfl
  rw [List.map_reverse, List.mem_reverse]
  exact hmem

/-- The next refresher is run at once. -/
theorem invoked_next {summary : SweepSummary} {rest : List (CacheKey × ρ)}
    (job : p.state.jobs.find? actor = some (.sweeping clock (.next summary rest))) :
    ((Moment.stepped c now actor input p :: h).filterMap invoked?).reverse ++
        (.next summary rest : Sweep ProxyConfig ρ).rest.map (Prod.mk actor) =
      (h.filterMap invoked?).reverse ++ rest.map (Prod.mk actor) := by
  cases rest with
  | nil =>
      have hnone : invoked? (.stepped c now actor input p) = none := by
        simp only [invoked?, job, Sweep.next]
      rw [List.filterMap_cons_none hnone]
      rfl
  | cons first rest =>
      have hsome : invoked? (.stepped c now actor input p) = some (actor, first) := by
        simp only [invoked?, job, Sweep.next]
      rw [List.filterMap_cons_some hsome, List.reverse_cons, List.append_assoc]
      rfl

/-- What comes next is due. -/
theorem AtHand.next {summary : SweepSummary} {rest : List (CacheKey × ρ)}
    {past : List (Actor × CacheKey × ρ)}
    (hinvoked : past ++ rest.map (Prod.mk actor) = due.map (Prod.mk actor)) :
    AtHand actor due h (.next summary rest) := by
  cases rest with
  | nil => exact .closing
  | cons first rest =>
      refine .refreshing ?_
      have hmem : (actor, first) ∈ due.map (Prod.mk actor) := by
        rw [← hinvoked]
        exact List.mem_append_right _ List.mem_cons_self
      obtain ⟨kr, hkr, heq⟩ := List.mem_map.1 hmem
      cases heq
      exact hkr

theorem halfDone_le (sweep : Sweep ProxyConfig ρ) : halfDone sweep ≤ 1 := by
  cases sweep <;> simp [halfDone]

/-- Before a sweep deals with a due entry, that is as it was. -/
theorem Halfway.find?_of_due {cache : Cache ProxyConfig ρ} {refresher : ρ}
    (halfway : Halfway before actor start h cache sweep)
    (hdue : (key, refresher) ∈ (before.startSweep start).2.1) (hkey : key ∈ sweep.keys) :
    ∃ e, before.entries.find? key = some e ∧ e.refresher = refresher ∧
      cache.entries.find? key = some e := by
  obtain ⟨e, he, hrefresher, hlive, -⟩ := Cache.exists_of_mem_due hdue
  refine ⟨e, he, hrefresher, ?_⟩
  rw [halfway.spared key (halfway.tallied.not_mem (nodup_due before start) hkey)]
  exact Cache.find?_startSweep.2 ⟨he, hlive⟩

/-- A sweep has dealt with the entry in hand, and has left all others as they were. -/
theorem Halfway.next {cache cache' : Cache ProxyConfig ρ} {renewal : Renewal}
    {rest : List (CacheKey × ρ)} {summary : SweepSummary}
    (halfway : Halfway before actor start h cache sweep)
    (hkeys : sweep.keys = key :: rest.map Prod.fst) (hrest : sweep.rest = rest)
    (hsome : dealt? actor (.stepped c now actor input p) = some (key, renewal))
    (job' : p.state.jobs.find? actor = some (.sweeping clock (.next summary rest)))
    (tallied : Tallied actor (before.startSweep start).2.1 (before.expiredAt start).size
      (.stepped c now actor input p :: h) (.next summary rest))
    (hlimits : cache'.limits = cache.limits) (hstats : cache'.stats = cache.stats)
    (hothers : ∀ key', key' ≠ key → cache'.entries.find? key' = cache.entries.find? key')
    (fate : Fate before actor (.stepped c now actor input p :: h) cache' key renewal) :
    Halfway before actor start (.stepped c now actor input p :: h) cache' (.next summary rest) := by
  have hinvoked := halfway.invoked
  rw [hrest] at hinvoked
  constructor
  case limits => exact hlimits.trans halfway.limits
  case stats => exact hstats.trans halfway.stats
  case tallied => exact tallied
  case invoked => exact (invoked_next job').trans hinvoked
  case hand => exact .next hinvoked
  case spared =>
    intro key' hkey'
    rw [List.filterMap_cons_some hsome, List.map_cons, List.mem_cons, not_or] at hkey'
    rw [hothers key' hkey'.1]
    exact halfway.spared key' hkey'.2
  case fates =>
    intro key' renewal' hmem
    rw [List.filterMap_cons_some hsome] at hmem
    rcases List.mem_cons.1 hmem with heq | hold
    · cases heq
      exact fate
    · refine (halfway.fates key' renewal' hold).stepped (hothers key' ?_)
      -- no key is dealt with twice
      rintro rfl
      refine halfway.tallied.not_mem (nodup_due before start) ?_ (List.mem_map.2 ⟨_, hold, rfl⟩)
      rw [hkeys]
      exact List.mem_cons_self
  case steps =>
    have hsteps := halfway.steps
    have hhalf := halfDone_le sweep
    rw [List.filterMap_cons_some hsome, List.length_cons, List.length_cons]
    omega

/-- **A step of a sweep that is alone takes one entry further, and leaves all others.** -/
theorem Halfway.stepped (halfway : Halfway before actor start h c.cache sweep)
    (hne : sweep ≠ .starting) (job : c.jobs.find? actor = some (.sweeping start sweep))
    (step : SweepStepped c now actor start sweep input p)
    (job' : p.state.jobs.find? actor = some (.sweeping start sweep')) :
    Halfway before actor start (.stepped c now actor input p :: h) p.state.cache sweep' := by
  have tallied := halfway.tallied.stepped hne job step job'
  cases step with
  | collected => exact absurd rfl hne
  | closed => cases (find?_leave c actor _).symm.trans job'
  | @renewed key refresher rest summary item =>
      cases (find?_resume c actor _).symm.trans job'
      have hnone : dealt? actor (.stepped c now actor (.fetched (.ok item)) (.quiet (c.resume actor
        (.sweeping start (.storing key item rest summary))))) = none := dealt?_of_fetched job item
      have hinvoked : invoked? (.stepped c now actor (.fetched (.ok item)) (.quiet (c.resume actor
        (.sweeping start (.storing key item rest summary))))) = none := by
        simp only [invoked?, job']
      constructor
      case limits => exact halfway.limits
      case stats => exact halfway.stats
      case tallied => exact tallied
      case invoked =>
        rw [List.filterMap_cons_none hinvoked]
        exact halfway.invoked
      case hand =>
        cases halfway.hand with
        | refreshing hdue => exact .storing hdue rfl job
      case spared =>
        rw [List.filterMap_cons_none hnone]
        exact halfway.spared
      case fates =>
        intro key' renewal hmem
        rw [List.filterMap_cons_none hnone] at hmem
        exact (halfway.fates key' renewal hmem).stepped rfl
      case steps =>
        rw [List.filterMap_cons_none hnone, List.length_cons]
        exact Nat.succ_le_succ halfway.steps
  | @failed key refresher rest summary input told =>
      cases (find?_resume c actor _).symm.trans job'
      refine halfway.next rfl rfl (dealt?_of_failed job told) job' tallied rfl rfl
        (fun _ _ => rfl) (.failed ?_)
      cases halfway.hand with
      | refreshing hdue =>
          obtain ⟨e, he, -, hcache⟩ := halfway.find?_of_due hdue List.mem_cons_self
          exact hcache.trans he.symm
  | @stored key item rest summary =>
      cases (find?_resume _ actor _).symm.trans job'
      cases halfway.hand with
      | storing hdue hlast job₁ =>
          obtain ⟨e, he, rfl, hcache⟩ := halfway.find?_of_due hdue List.mem_cons_self
          refine halfway.next rfl rfl (dealt?_of_stored job hcache) job' tallied
            (Cache.limits_storeRefreshed _ _ _ _) (Cache.stats_storeRefreshed _ _ _ _) ?_ ?_
          · intro key' hne'
            exact (Cache.find?_storeRefreshed _ _ _ _ _).trans (if_neg (Ne.symm hne'))
          · subst hlast
            refine .refreshed he (.of_last job₁) ?_
            refine (Cache.find?_storeRefreshed _ _ _ _ _).trans ((if_pos rfl).trans ?_)
            rw [hcache, halfway.limits]
            rfl

/-- Where a sweep that is alone stands, and how the cache stands under it. -/
inductive Underway (before : Cache ProxyConfig ρ) (actor : Actor) (h : Past ρ)
    (cache : Cache ProxyConfig ρ) : Option (CacheJob ρ) → Prop where
  | waking (hstart : h = []) (hcache : cache = before) : Underway before actor h cache (some .waking)
  | starting {start : Nat} (hstart : h.filterMap wakes? = [start]) (hlength : h.length = 1)
      (hdealt : h.filterMap (dealt? actor) = []) (hinvoked : h.filterMap invoked? = [])
      (hcache : cache = before) : Underway before actor h cache (some (.sweeping start .starting))
  | halfway {start : Nat} {sweep : Sweep ProxyConfig ρ} (hne : sweep ≠ .starting)
      (hstart : h.filterMap wakes? = [start])
      (halfway : Halfway before actor start h cache sweep) :
      Underway before actor h cache (some (.sweeping start sweep))
  | gone : Underway before actor h cache none

/-- A sweep that has just collected. -/
theorem Halfway.of_collected (hlength : h.length = 1) (hdealt : h.filterMap (dealt? actor) = [])
    (hinvoked : h.filterMap invoked? = []) (job : c.jobs.find? actor = some (.sweeping start .starting))
    (job' : p.state.jobs.find? actor = some (.sweeping start
      (.next (c.cache.startSweep start).2.2 (c.cache.startSweep start).2.1))) :
    Halfway c.cache actor start (.stepped c now actor input p :: h) (c.cache.startSweep start).1
      (.next (c.cache.startSweep start).2.2 (c.cache.startSweep start).2.1) := by
  have hdealt' : (Moment.stepped c now actor input p :: h).filterMap (dealt? actor) = [] :=
    (List.filterMap_cons_none (dealt?_of_starting job)).trans hdealt
  constructor
  case limits => rfl
  case stats => rfl
  case tallied =>
    rw [Cache.startSweep_summary]
    exact .of_collected hdealt' _ _
  case invoked =>
    refine (invoked_next job').trans ?_
    rw [hinvoked]
    rfl
  case hand => exact .next (List.nil_append _)
  case spared => exact fun _ _ => rfl
  case fates =>
    intro key renewal hmem
    rw [hdealt'] at hmem
    cases hmem
  case steps =>
    rw [List.length_cons, hlength]
    omega

/-- **A sweep that is alone deals with one entry after the other**, in every run from its start. -/
theorem underway_of_run (run : Run system c₁ h c) (hbegin : c₁.jobs.find? actor = some .waking)
    (alone : ∀ moment ∈ h, moment.IsOf actor) :
    Underway c₁.cache actor h c.cache (c.jobs.find? actor) := by
  induction run with
  | start =>
      rw [hbegin]
      exact .waking rfl rfl
  | begins run hother ih => exact absurd (alone _ List.mem_cons_self) id
  | @steps h c now other input p run hstep ih =>
      obtain rfl : other = actor := alone _ List.mem_cons_self
      have underway := ih fun moment hmem => alone moment (List.mem_cons_of_mem _ hmem)
      have step : Stepped c now other input p := stepped_of_step hstep
      generalize hjob : c.jobs.find? other = job? at underway
      cases underway with
      | waking hstart hcache =>
          subst hstart
          have hwakes : wakes? (.stepped c now other input p) = some now := by
            simp only [wakes?, hjob]
          rw [step.state_of_waking hjob, find?_resume]
          refine .starting (List.filterMap_cons_some hwakes) rfl
            (List.filterMap_cons_none (dealt?_of_waking hjob)) (List.filterMap_cons_none ?_) hcache
          simp only [invoked?, step.state_of_waking hjob, find?_resume]
      | starting hstart hlength hdealt hinvoked hcache =>
          have hwakes : wakes? (.stepped c now other input p) = none := by
            simp only [wakes?, hjob]
          have hstate := step.state_of_starting hjob
          rw [← hcache]
          have job' := congrArg (fun s => s.jobs.find? other) hstate
          rw [hstate, find?_resume]
          refine .halfway (next_ne_starting _ _) ((List.filterMap_cons_none hwakes).trans hstart) ?_
          exact .of_collected hlength hdealt hinvoked hjob (job'.trans (find?_resume _ _ _))
      | halfway hne hstart halfway =>
          have hwakes : wakes? (.stepped c now other input p) = none := by
            simp only [wakes?, hjob]
          have hsweep := sweepStepped_of_step hstep hjob
          rcases hsweep.goes hne with hover | ⟨sweep', job', hne'⟩
          · rw [hover]
            exact .gone
          · rw [job']
            exact .halfway hne' ((List.filterMap_cons_none hwakes).trans hstart)
              (halfway.stepped hne hjob hsweep job')
      | gone => exact absurd hjob step.job_ne_none

/-! ## What a sweep does -/

/-- What a sweep comes to in the end that has collected from a cache as of `clock`, whatever has happened beside it. -/
structure SweptBeside (collected : Cache ProxyConfig ρ) (actor : Actor) (clock : Nat) (h : Past ρ)
    (summary : SweepSummary) : Prop where
  /-- Every due entry has one end. -/
  dealt : (h.filterMap (dealt? actor)).reverse.map Prod.fst = (collected.dueAt clock).keys
  /-- The summary counts these ends, and what went at the start. -/
  counts : summary = tally (collected.expiredAt clock).size (h.filterMap (dealt? actor))
  total : summary.refreshed + summary.failed + summary.skipped = (collected.dueAt clock).size
  /-- Those are skipped whose entry is gone when the item that their refresher came back with is to be written. -/
  skipped : ∀ key, (key, .skipped) ∈ h.filterMap (dealt? actor) ↔
    ∃ c now input p clock item rest summary, .stepped c now actor input p ∈ h ∧
      c.jobs.find? actor = some (.sweeping clock (.storing key item rest summary)) ∧
      c.cache.entries.find? key = none

/-- What a sweep that is alone at a cache and collects as of `start` has made of it in the end. -/
structure SweptAlone (before : Cache ProxyConfig ρ) (actor : Actor) (start : Nat) (h : Past ρ)
    (after : Cache ProxyConfig ρ) (summary : SweepSummary) : Prop where
  /-- What is expired goes. -/
  expired : ∀ key e, before.entries.find? key = some e → e.deadline ≤ start →
    after.entries.find? key = none
  /-- A due entry is exactly as it was if its refresher has failed. Otherwise it has the item that the refresher came
  back with, and one time to live from the instant at which that was written; refresher and last use stay. -/
  due : ∀ key e, before.entries.find? key = some e → start < e.deadline →
    e.deadline ≤ start + before.limits.refreshInterval →
    (key, .failed) ∈ h.filterMap (dealt? actor) ∧ after.entries.find? key = some e ∨
      (key, .refreshed) ∈ h.filterMap (dealt? actor) ∧
        ∃ item back written, RenewedIn h actor key e.refresher item back written ∧
          after.entries.find? key = some { e with item, deadline := written + before.limits.ttl }
  /-- What is not due is exactly as it was. -/
  later : ∀ key e, before.entries.find? key = some e →
    start + before.limits.refreshInterval < e.deadline → after.entries.find? key = some e
  /-- No key is added. -/
  added : ∀ key, before.entries.find? key = none → after.entries.find? key = none
  /-- The refresher of each due entry is run exactly once, and no other is. -/
  invoked : (h.filterMap invoked?).reverse =
    (before.dueAt start).toList.map fun e => (actor, e.1, e.2.refresher)
  counted : SweptBeside before actor start h summary
  unskipped : summary.skipped = 0
  limits : after.limits = before.limits
  /-- The counts of the cache grow by those of the sweep. -/
  stats : after.stats = { before.stats with
    expired := before.stats.expired + summary.expired
    refreshes := before.stats.refreshes + summary.refreshed
    refreshFailures := before.stats.refreshFailures + summary.failed }

/-- What the sweep does that an actor has been given as its task in the state `c₀`; since then `h` has happened. -/
structure Sweeps (c₀ : SharedCache ρ) (actor : Actor) (h : Past ρ) (c : SharedCache ρ) : Prop where
  /-- With no other call in the meantime, it makes this of the cache. -/
  alone : (∀ moment ∈ h, moment.IsOf actor) → ∀ now input p summary,
    system.step c now actor input = some p → p.result? = some (.swept summary) →
    ∃ start, h.filterMap wakes? = [start] ∧
      SweptAlone c₀.cache actor start h p.state.cache summary
  /-- With others at work in the meantime, it counts this from what it has collected. -/
  beside : ∀ now input p summary,
    system.step c now actor input = some p → p.result? = some (.swept summary) →
    ∃ c₂ now₂ input₂ p₂ clock, .stepped c₂ now₂ actor input₂ p₂ ∈ h ∧
      c₂.jobs.find? actor = some (.sweeping clock .starting) ∧
      SweptBeside c₂.cache actor clock h summary
  /-- Its last step adds its counts to those of the cache, and does nothing else there. -/
  closed : ∀ now input p summary,
    system.step c now actor input = some p → p.result? = some (.swept summary) →
    p.state.cache = { c.cache with stats := { c.cache.stats with
      expired := c.cache.stats.expired + summary.expired
      refreshes := c.cache.stats.refreshes + summary.refreshed
      refreshFailures := c.cache.stats.refreshFailures + summary.failed } }
  /-- Its other steps leave the counts of the cache, and none of them adds a key. -/
  quiet : ∀ now input p, system.step c now actor input = some p → p.result? = none →
    p.state.cache.stats = c.cache.stats ∧
      ∀ key, c.cache.entries.find? key = none → p.state.cache.entries.find? key = none
  /-- Until it is over it can go on, when it is its turn, or whatever the refresher that it runs comes to. -/
  goesOn : ∀ now, c.jobs.find? actor = none ∨ (∃ p, system.step c now actor .turn = some p) ∨
    (∃ clock key refresher rest summary,
      c.jobs.find? actor = some (.sweeping clock (.refreshing key refresher rest summary))) ∧
      ∀ input item?, told? input = some (.renewed item?) →
        ∃ p, system.step c now actor input = some p
  /-- Alone, it takes two steps for a due entry at most, and three besides. -/
  ends : (∀ moment ∈ h, moment.IsOf actor) → ∀ start ∈ h.filterMap wakes?,
    c.jobs.find? actor ≠ none → h.length < 2 * (c₀.cache.dueAt start).size + 3

/-- A sweep that is skipped at an entry finds none. -/
theorem mem_dealt_skipped :
    (key, .skipped) ∈ h.filterMap (dealt? actor) ↔
      ∃ c now input p clock item rest summary, .stepped c now actor input p ∈ h ∧
        c.jobs.find? actor = some (.sweeping clock (.storing key item rest summary)) ∧
        c.cache.entries.find? key = none := by
  rw [List.mem_filterMap]
  constructor
  · rintro ⟨moment, hmem, hdealt⟩
    cases moment with
    | began other task => cases hdealt
    | stepped c now other input p =>
        simp only [dealt?] at hdealt
        split at hdealt
        · next hother =>
          subst hother
          split at hdealt
          · cases hdealt
          · next clock key' item rest summary job =>
            split at hdealt
            · cases hdealt
            · next hgone =>
              cases hdealt
              exact ⟨c, now, input, p, clock, item, rest, summary, hmem, job,
                Table.contains_eq_false_iff.1 (Bool.not_eq_true _ ▸ hgone)⟩
          · cases hdealt
        · cases hdealt
  · rintro ⟨c, now, input, p, clock, item, rest, summary, hmem, job, hgone⟩
    refine ⟨_, hmem, ?_⟩
    rw [dealt?_of_storing job, Table.contains_eq_false_iff.2 hgone]
    rfl

/-- There are two steps for each due entry. -/
theorem Halfway.length_lt {cache : Cache ProxyConfig ρ}
    (halfway : Halfway before actor start h cache sweep) :
    h.length < 2 * (before.dueAt start).size + 3 := by
  have hsteps := halfway.steps
  have hkeys := congrArg List.length halfway.tallied.keys
  have hhalf : halfDone sweep ≤ sweep.keys.length := by
    cases sweep with
    | storing => exact Nat.succ_le_succ (Nat.zero_le _)
    | _ => exact Nat.zero_le _
  rw [List.length_append, List.length_map, List.length_reverse, List.length_map,
    Cache.startSweep_due, List.length_map] at hkeys
  unfold Table.size
  omega

/-- A sweep ends when it has nothing in hand. -/
theorem Stepped.closing_of_swept {summary : SweepSummary} (step : Stepped c now actor input p)
    (hresult : p.result? = some (.swept summary)) :
    (∃ clock, c.jobs.find? actor = some (.sweeping clock (.closing summary))) ∧
      p.state.cache = c.cache.finishSweep summary := by
  cases step with
  | closed job =>
      cases hresult
      exact ⟨⟨_, job⟩, rfl⟩
  | _ => cases hresult

/-- What a sweep with nothing in hand has come to. -/
theorem Tallied.sweptBeside {collected : Cache ProxyConfig ρ} {summary : SweepSummary}
    (tallied : Tallied actor (collected.startSweep clock).2.1 (collected.expiredAt clock).size h
      (.closing summary)) : SweptBeside collected actor clock h summary := by
  have hkeys := tallied.keys
  have hcounts : summary = tally (collected.expiredAt clock).size (h.filterMap (dealt? actor)) :=
    tallied.counts
  simp only [Sweep.keys, List.append_nil] at hkeys
  rw [Cache.startSweep_due, List.map_map] at hkeys
  constructor
  case dealt => exact hkeys
  case counts => exact hcounts
  case total =>
    have hlength := congrArg List.length hkeys
    rw [List.length_map, List.length_reverse, List.length_map] at hlength
    rw [hcounts, tally_total, hlength]
    rfl
  case skipped => exact fun key => mem_dealt_skipped

/-- What a sweep with nothing in hand has made of the cache, and what it makes of it with its last step. -/
theorem Halfway.sweptAlone {cache : Cache ProxyConfig ρ} {summary : SweepSummary}
    (halfway : Halfway before actor start h cache (.closing summary)) :
    SweptAlone before actor start h (cache.finishSweep summary) summary := by
  have counted := halfway.tallied.sweptBeside
  have hinvoked := halfway.invoked
  simp only [List.append_nil, Sweep.rest, List.map_nil] at hinvoked
  rw [Cache.startSweep_due, List.map_map] at hinvoked
  -- what has been dealt with was due
  have hdealt : ∀ key, key ∈ (h.filterMap (dealt? actor)).map Prod.fst ↔
      ∃ e, before.entries.find? key = some e ∧ start < e.deadline ∧
        e.deadline ≤ start + before.limits.refreshInterval := by
    intro key
    rw [← List.mem_reverse, ← List.map_reverse, counted.dealt]
    constructor
    · intro hmem
      obtain ⟨⟨key', e⟩, he, rfl⟩ := List.mem_map.1 hmem
      exact ⟨e, Cache.find?_dueAt.1 (Table.find?_eq_some_iff.2 he)⟩
    · rintro ⟨e, he⟩
      exact List.mem_map.2 ⟨(key, e), Table.find?_eq_some_iff.1 (Cache.find?_dueAt.2 he), rfl⟩
  have hspared : ∀ key e, before.entries.find? key = some e →
      ¬ (start < e.deadline ∧ e.deadline ≤ start + before.limits.refreshInterval) →
      cache.entries.find? key = (before.startSweep start).1.entries.find? key := by
    intro key e he hnot
    refine halfway.spared key fun hmem => ?_
    obtain ⟨e', he', hdue⟩ := (hdealt key).1 hmem
    rw [he] at he'
    cases he'
    exact hnot hdue
  have hgone : ∀ key, (∀ e, before.entries.find? key = some e → e.deadline ≤ start) →
      (before.startSweep start).1.entries.find? key = none := by
    intro key hall
    cases hfind : (before.startSweep start).1.entries.find? key with
    | none => rfl
    | some e =>
        obtain ⟨he, hlive⟩ := Cache.find?_startSweep.1 hfind
        have hle := hall e he
        omega
  have hunskipped : ∀ d ∈ (h.filterMap (dealt? actor)).map Prod.snd, d ≠ .skipped := by
    rintro d hmem rfl
    obtain ⟨⟨key, renewal⟩, hd, rfl⟩ := List.mem_map.1 hmem
    cases halfway.fates key _ hd
  constructor
  case expired =>
    intro key e he hexpired
    refine (hspared key e he (by omega)).trans (hgone key ?_)
    intro e' he'
    rw [he] at he'
    cases he'
    exact hexpired
  case due =>
    intro key e he hlive hdue
    obtain ⟨⟨key', renewal⟩, hmem, rfl⟩ := List.mem_map.1 ((hdealt key).2 ⟨e, he, hlive, hdue⟩)
    cases halfway.fates key' renewal hmem with
    | failed hsame => exact .inl ⟨hmem, hsame.trans he⟩
    | refreshed he' hrenewed hafter =>
        rw [he] at he'
        cases he'
        exact .inr ⟨hmem, _, _, _, hrenewed, hafter⟩
  case later =>
    intro key e he hlater
    refine (hspared key e he (by omega)).trans (Cache.find?_startSweep.2 ⟨he, by omega⟩)
  case added =>
    intro key hnone
    refine (halfway.spared key fun hmem => ?_).trans (hgone key ?_)
    · obtain ⟨e, he, -⟩ := (hdealt key).1 hmem
      rw [hnone] at he
      cases he
    · intro e he
      rw [hnone] at he
      cases he
  case invoked => exact hinvoked
  case counted => exact counted
  case unskipped =>
    rw [counted.counts]
    exact List.count_eq_zero.2 fun hmem => hunskipped _ hmem rfl
  case limits => exact halfway.limits
  case stats =>
    unfold Cache.finishSweep
    rw [halfway.stats]

/-- A step that comes to no result leaves the counts of the cache, and adds no key. -/
theorem Stepped.quiet (step : Stepped c now actor input p) (hmore : p.result? = none) :
    p.state.cache.stats = c.cache.stats ∧
      ∀ key, c.cache.entries.find? key = none → p.state.cache.entries.find? key = none := by
  cases step with
  | read | wrote | removed | closed => cases hmore
  | woke | renewed | failed => exact ⟨rfl, fun key hnone => hnone⟩
  | @collected clock job =>
      refine ⟨rfl, fun key hnone => ?_⟩
      cases hafter : (c.cache.startSweep clock).1.entries.find? key with
      | none => exact hafter
      | some e =>
          rw [(Cache.find?_startSweep.1 hafter).1] at hnone
          cases hnone
  | @stored clock key' item rest summary summary' job =>
      refine ⟨Cache.stats_storeRefreshed _ _ _ _, fun key hnone => ?_⟩
      refine (Cache.find?_storeRefreshed _ _ _ _ _).trans ?_
      split
      · next hkey => rw [hkey, hnone]; rfl
      · exact hnone

/-- A sweep can go on when it is its turn, or whatever the refresher that it runs comes to. -/
theorem Counting.goesOn (counting : Counting actor h (c.jobs.find? actor)) (now : Nat) :
    c.jobs.find? actor = none ∨ (∃ p, system.step c now actor .turn = some p) ∨
      (∃ clock key refresher rest summary,
        c.jobs.find? actor = some (.sweeping clock (.refreshing key refresher rest summary))) ∧
        ∀ input item?, told? input = some (.renewed item?) →
          ∃ p, system.step c now actor input = some p := by
  generalize hjob : c.jobs.find? actor = job? at counting
  cases counting with
  | gone => exact .inl rfl
  | waking => exact .inr (.inl ⟨_, by simp only [system, step, hjob]; rfl⟩)
  | starting => exact .inr (.inl ⟨_, by simp only [system, step, hjob, told?, Sweep.step]; rfl⟩)
  | @dealing _ _ _ _ _ sweep hne =>
      cases sweep with
      | starting => exact absurd rfl hne
      | refreshing key refresher rest summary =>
          refine .inr (.inr ⟨⟨_, _, _, _, _, rfl⟩, fun input item? htold => ?_⟩)
          cases item? with
          | none => exact ⟨_, by simp only [system, step, hjob, htold, Sweep.step]; rfl⟩
          | some item => exact ⟨_, by simp only [system, step, hjob, htold, Sweep.step]; rfl⟩
      | storing => exact .inr (.inl ⟨_, by simp only [system, step, hjob, told?, Sweep.step]; rfl⟩)
      | closing => exact .inr (.inl ⟨_, by simp only [system, step, hjob, told?, Sweep.step]; rfl⟩)

/-- **What a sweep does**, from any state of a cache, to its entries and to the counts. -/
theorem sweeps_of_run (hbegin : system.begin? c₀ actor .sweep = some c₁) (run : Run system c₁ h c)
    (hagain : ∀ task, .began actor task ∉ h) : Sweeps c₀ actor h c := by
  obtain ⟨id, -, -, rfl⟩ := exists_resume_of_begin? hbegin
  have hwaking : (c₀.resume actor (Task.sweep : Task ρ).job).jobs.find? actor = some .waking :=
    find?_resume _ _ _
  have counting := counting_of_run run hwaking hagain
  constructor
  case alone =>
    intro alone now input p summary hstep hresult
    obtain ⟨⟨clock, job⟩, hcache⟩ := (stepped_of_step hstep).closing_of_swept hresult
    have underway := underway_of_run run hwaking alone
    rw [job] at underway
    cases underway with
    | halfway hne hstart halfway =>
        rw [hcache]
        exact ⟨clock, hstart, halfway.sweptAlone⟩
  case beside =>
    intro now input p summary hstep hresult
    obtain ⟨⟨clock, job⟩, -⟩ := (stepped_of_step hstep).closing_of_swept hresult
    rw [job] at counting
    cases counting with
    | dealing hne hmem job₂ tallied => exact ⟨_, _, _, _, clock, hmem, job₂, tallied.sweptBeside⟩
  case closed =>
    intro now input p summary hstep hresult
    exact ((stepped_of_step hstep).closing_of_swept hresult).2
  case quiet => exact fun now input p hstep hresult => (stepped_of_step hstep).quiet hresult
  case goesOn => exact counting.goesOn
  case ends =>
    intro alone start hstart hjob
    have underway := underway_of_run run hwaking alone
    generalize c.jobs.find? actor = job? at underway hjob
    cases underway with
    | gone => exact absurd rfl hjob
    | waking hempty =>
        rw [hempty] at hstart
        cases hstart
    | starting hstart' hlength =>
        rw [hlength]
        omega
    | @halfway _ sweep hne hstart' halfway =>
        rw [hstart', List.mem_singleton] at hstart
        subst hstart
        exact halfway.length_lt

/-! ## Two sweeps -/

/-- Room for four entries; a time to live of 100 milliseconds, and 60 between sweeps. -/
def roomyLimits : CacheLimits := ⟨4, 0, 60, 100⟩

/-- Four entries; at 100 one of them is expired, two are due, and one is not. -/
def fourEntries : SharedCache String :=
  (system.play (.new roomyLimits) (prompt 0 0 (.set (service "41") (version 1) "alpha") ++
    prompt 20 1 (.set (service "42") (version 1) "beta") ++
    prompt 30 2 (.set (service "43") (version 1) "gamma") ++
    prompt 90 3 (.set (service "44") (version 1) "delta"))).2

/-- The state in which the sweep of a call starts. -/
def sweptBy (id : Nat) (c : SharedCache String) : SharedCache String :=
  c.resume (.call id) .waking

/-- The refresher of one entry comes back with an item, and that of the other one fails; `meanwhile` happens between the
two steps at which the work is collected and the first refresher comes back. -/
def renewedAndFailed (meanwhile : List (Move (Task String))) : List (Move (Task String)) :=
  [.step 100 (.call 4) .turn, .step 100 (.call 4) .turn] ++ meanwhile ++
    [.step 110 (.call 4) (.fetched (.ok (version 2))), .step 110 (.call 4) .turn,
      .step 115 (.call 4) (.fetched (.error (.transport "timed out")))]

/-- Who is given a task at a moment. -/
def begun? : Moment (SharedCache String) (Task String) Result Empty → Option Actor
  | .began actor _ => some actor
  | .stepped _ _ _ _ _ => none

/-- The summary of a sweep. -/
def Result.summary? : Result → Option SweepSummary
  | .swept summary => some summary
  | _ => none

theorem sweeps_renewedAndFailed :
    let alone := system.play (sweptBy 4 fourEntries) (renewedAndFailed [])
    let beside := system.play (sweptBy 4 fourEntries)
      (renewedAndFailed (prompt 105 5 (.remove (service "42"))))
    let summary? := fun (run : Past String × SharedCache String) =>
      (system.step run.2 115 (.call 4) .turn).bind (·.result?.bind Result.summary?)
    let deadlines := ["41", "42", "43", "44"].map fun id =>
      (alone.2.cache.entries.find? (service id)).map (·.deadline)
    summary? alone = some ⟨1, 1, 1, 0⟩ ∧ deadlines = [none, some 210, some 130, some 190] ∧
      summary? beside = some ⟨0, 1, 1, 1⟩ ∧
      Sweeps fourEntries (.call 4) alone.1 alone.2 ∧ Sweeps fourEntries (.call 4) beside.1 beside.2 := by
  intro alone beside summary? deadlines
  have hbegin : system.begin? fourEntries (.call 4) .sweep = some (sweptBy 4 fourEntries) := by
    have hfree : fourEntries.jobs.contains (.call 4) = false := by decide +kernel
    show fourEntries.begin? (.call 4) .sweep = _
    rw [begin?, hfree]
    rfl
  have hagain : ∀ run : Past String, run.filterMap begun? = [] ∨ run.filterMap begun? = [.call 5] →
      ∀ task, .began (.call 4) task ∉ run := by
    intro run hbegun task hmem
    have hmem := List.mem_filterMap.2 ⟨_, hmem, (rfl : begun? _ = some (.call 4))⟩
    rcases hbegun with hnone | hother
    · rw [hnone] at hmem
      cases hmem
    · rw [hother] at hmem
      simp at hmem
  refine ⟨by decide +kernel, by decide +kernel, by decide +kernel, ?_, ?_⟩
  · exact sweeps_of_run hbegin (system.run_play _ _) (hagain _ (.inl (by decide +kernel)))
  · exact sweeps_of_run hbegin (system.run_play _ _) (hagain _ (.inr (by decide +kernel)))

end SharedCache

end GatewayAuth
