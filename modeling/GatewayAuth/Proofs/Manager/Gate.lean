import GatewayAuth.Proofs.Manager.Coherent
import GatewayAuth.Proofs.Registry.Drained

/-!
# `GatewayAuth.Proofs.Manager.Gate` — a shutdown comes back to a drained manager

Any number of shutdowns may be called; one of them passes the gate and the others wait for it. `Guarded` says that
nobody takes the handles of the flush loops but the one that passed, so that it finds them and waits for every
loop before anyone comes back.

## Contents
- `ManagerJob.isClosing`, `Guarded`: the invariant.
- `guarded_of_run`: it holds at all times; `drained_of_stopped`: what it gives.
-/

namespace GatewayAuth

/-- Whether a shutdown is past the gate. -/
def ManagerJob.isClosing : ManagerJob → Bool
  | .drainingBackends => true
  | .stoppingRefresh => true
  | .joiningRefresh => true
  | _ => false

/-- Whether a shutdown is past the draining of the backends. -/
def ManagerJob.isPast : ManagerJob → Bool
  | .stoppingRefresh => true
  | .joiningRefresh => true
  | _ => false

theorem ManagerJob.isClosing_of_isPast {job : ManagerJob} (h : job.isPast = true) :
    job.isClosing = true := by
  cases job <;> first | rfl | cases h

namespace Manager

/-- The shutdown that has passed the gate is alone, and it is the one that takes the handles. -/
structure Guarded (m : Manager) : Prop where
  opened : m.gate = .opened → m.registry ≠ none → m.backends.handles ≠ none
  running : ∀ id job, m.jobs.find? id = some job → job.isClosing = true → m.gate = .running
  alone : ∀ id id' job job', m.jobs.find? id = some job → m.jobs.find? id' = some job' →
    job.isClosing = true → job'.isClosing = true → id = id'
  takes : ∀ id, m.jobs.find? id = some .drainingBackends →
    m.backends.jobs.find? (.call id) = some .taking → m.backends.handles ≠ none
  past : ∀ id job, m.jobs.find? id = some job → job.isPast = true → m.backends.Drained
  closed : m.gate = .closed → m.backends.Drained

variable {m m' : Manager} {h : Past} {now id : Nat} {input : Input}
  {p : Progress Manager Result Event}

/-- Only a shutdown that is past the gate takes the handles. -/
theorem Coherent.drainingBackends_of_taking (hc : Coherent h m)
    (htaking : m.backends.jobs.find? (.call id) = some .taking) :
    m.jobs.find? id = some .drainingBackends := by
  obtain ⟨mine, task, hmine, -, hat, hfits⟩ := hc.fits_of_busy htaking
  rw [hmine]
  cases mine with
  | drainingBackends => rfl
  | acquiring d wire =>
      obtain ⟨-, job, hjob, hserves⟩ := hfits
      rw [htaking] at hjob
      cases hjob
      cases hserves
  | authorizing slot =>
      obtain ⟨d, wire, -, s, job, -, -, husing, -⟩ := hfits
      rw [htaking] at husing
      cases husing
  | flushing slot answer =>
      obtain ⟨d, wire, -, s, job, -, -, husing, -⟩ := hfits
      rw [htaking] at husing
      cases husing
  | _ => cases hat

/-- A step that neither passes the gate nor takes the handles keeps the invariant. -/
theorem Guarded.of_calm (hg : Guarded m) (hgate : m'.gate = m.gate)
    (hregistry : m.registry = none → m'.registry = none)
    (hjobs : ∀ id job, m'.jobs.find? id = some job → job.isClosing = true →
      m.jobs.find? id = some job)
    (htaking : ∀ id, m'.backends.jobs.find? (.call id) = some .taking →
      m'.jobs.find? id = some .drainingBackends → m.backends.handles ≠ none)
    (hhandles : m.backends.handles ≠ none → m'.backends.handles ≠ none)
    (hdrained : m.backends.Drained → m'.backends.Drained) : Guarded m' := by
  refine ⟨?_, ?_, ?_, ?_, ?_, ?_⟩
  · intro hopened hsome
    exact hhandles (hg.opened (hgate ▸ hopened) fun hnone => hsome (hregistry hnone))
  · intro id job hjob hclosing
    rw [hgate]
    exact hg.running id job (hjobs id job hjob hclosing) hclosing
  · intro id id' job job' hjob hjob' hclosing hclosing'
    exact hg.alone id id' job job' (hjobs id job hjob hclosing) (hjobs id' job' hjob' hclosing')
      hclosing hclosing'
  · exact fun id hjob htake => hhandles (htaking id htake hjob)
  · intro id job hjob hpast
    exact hdrained (hg.past id job
      (hjobs id job hjob (ManagerJob.isClosing_of_isPast hpast)) hpast)
  · exact fun hclosed => hdrained (hg.closed (hgate ▸ hclosed))

/-- Where a call is led to a phase before the gate, no shutdown comes in past it. -/
theorem closing_of_insert {job : ManagerJob} (hjob : job.isClosing = false)
    (hjobs : m'.jobs = m.jobs.insert id job) (other : Nat) (job' : ManagerJob)
    (h : m'.jobs.find? other = some job') (hclosing : job'.isClosing = true) :
    m.jobs.find? other = some job' := by
  rw [hjobs, Table.find?_insert] at h
  by_cases hid : id = other
  · rw [if_pos hid] at h
    cases h
    rw [hjob] at hclosing
    cases hclosing
  · rw [if_neg hid] at h
    exact h

theorem closing_of_erase (hjobs : m'.jobs = m.jobs.erase id) (other : Nat) (job' : ManagerJob)
    (h : m'.jobs.find? other = some job') (_hclosing : job'.isClosing = true) :
    m.jobs.find? other = some job' := by
  rw [hjobs, Table.find?_erase] at h
  by_cases hid : id = other
  · rw [if_pos hid] at h
    cases h
  · rw [if_neg hid] at h
    exact h

/-- Where a call is spared, so is its claim to the handles. -/
theorem Guarded.taking_of_spares (hg : Guarded m) (id : Nat)
    (hjobs : ∀ id job, m'.jobs.find? id = some job → job.isClosing = true →
      m.jobs.find? id = some job)
    (hspares : ∀ other, other ≠ id → Registry.Spares other m.backends m'.backends)
    (hown : m'.jobs.find? id ≠ some .drainingBackends) (other : Nat)
    (htaking : m'.backends.jobs.find? (.call other) = some .taking)
    (hjob : m'.jobs.find? other = some .drainingBackends) : m.backends.handles ≠ none := by
  by_cases hne : other = id
  · exact absurd (hne ▸ hjob) hown
  · rw [(hspares other hne).job] at htaking
    exact hg.takes other (hjobs other _ hjob rfl) htaking

/-- A step of a call that does not hand anything to the registry and passes no gate. -/
theorem Guarded.of_same_registry (hg : Guarded m) (hgate : m'.gate = m.gate)
    (hregistry : m'.registry = m.registry)
    (hjobs : ∀ id job, m'.jobs.find? id = some job → job.isClosing = true →
      m.jobs.find? id = some job) : Guarded m' := by
  have hbackends := backends_congr hregistry
  refine hg.of_calm hgate (fun hnone => hregistry.trans hnone) hjobs ?_ ?_ ?_
  · intro id htaking hjob
    rw [hbackends] at htaking
    exact hg.takes id (hjobs id _ hjob rfl) htaking
  · rw [hbackends]
    exact fun h => h
  · rw [hbackends]
    exact fun h => h

/-- A step of a call that starts something at the registry and passes no gate. -/
theorem Guarded.of_began (hg : Guarded m) {r r' : Registry} {task : Registry.Task}
    {job : ManagerJob} (hr : m.registry = some r) (began : Registry.Began r (.call id) task r')
    (hr' : m'.registry = some r') (hgate : m'.gate = m.gate)
    (hjobs : m'.jobs = m.jobs.insert id job) (hjob : job.isClosing = false) : Guarded m' := by
  have hclosing := closing_of_insert hjob hjobs
  refine hg.of_calm hgate (fun hnone => ?_) hclosing ?_ ?_ ?_
  · rw [hr] at hnone
    cases hnone
  · refine hg.taking_of_spares id hclosing ?_ ?_
    · rw [backends_of_registry hr, backends_of_registry hr']
      exact fun other hne => began.spares hne
    · rw [hjobs, Table.find?_insert_self]
      intro h
      cases h
      cases hjob
  · rw [backends_of_registry hr, backends_of_registry hr', began.handles]
    exact fun h => h
  · rw [backends_of_registry hr, backends_of_registry hr']
    exact began.drained

/-- A step of a call at the registry, other than one of the shutdown that is past the gate. -/
theorem Guarded.of_called (hg : Guarded m) (hc : Coherent h m) {r : Registry}
    {q : Progress Registry Registry.Result Registry.Event} (hr : m.registry = some r)
    (work : Registry.Called r now (.call id) input q) (hr' : m'.registry = some q.state)
    (hgate : m'.gate = m.gate)
    (hjobs : ∀ id job, m'.jobs.find? id = some job → job.isClosing = true →
      m.jobs.find? id = some job)
    (hnot : m.jobs.find? id ≠ some .drainingBackends)
    (hnot' : m'.jobs.find? id ≠ some .drainingBackends) : Guarded m' := by
  refine hg.of_calm hgate (fun hnone => ?_) hjobs ?_ ?_ ?_
  · rw [hr] at hnone
    cases hnone
  · refine hg.taking_of_spares id hjobs ?_ hnot'
    rw [backends_of_registry hr, backends_of_registry hr']
    exact fun other hne => work.spares hne
  · rw [backends_of_registry hr, backends_of_registry hr']
    refine fun hsome => work.handles_of_some hsome fun htaking => ?_
    rw [← backends_of_registry hr] at htaking
    exact hnot (hc.drainingBackends_of_taking htaking)
  · rw [backends_of_registry hr, backends_of_registry hr']
    exact work.drained

/-- Beside a shutdown that is past the gate there is no other. -/
theorem Guarded.others_of_closing (hg : Guarded m) {job : ManagerJob}
    (hjob : m.jobs.find? id = some job) (hclosing : job.isClosing = true) (other : Nat)
    (job' : ManagerJob) (hne : other ≠ id) (hjob' : m.jobs.find? other = some job') :
    job'.isClosing = false := by
  cases hclosing' : job'.isClosing with
  | false => rfl
  | true => exact absurd (hg.alone other id job' job hjob' hjob hclosing' hclosing) hne

/-- As long as the gate is open, nobody is past it. -/
theorem Guarded.others_of_opened (hg : Guarded m) (opened : m.gate = .opened) (other : Nat)
    (job : ManagerJob) (_hne : other ≠ id) (hjob : m.jobs.find? other = some job) :
    job.isClosing = false := by
  cases hclosing : job.isClosing with
  | false => rfl
  | true =>
      have hrunning := hg.running other job hjob hclosing
      rw [opened] at hrunning
      cases hrunning

/-- A step of the shutdown that passes the gate, or is past it. -/
theorem Guarded.of_passed (id : Nat)
    (hothers : ∀ other job, other ≠ id → m'.jobs.find? other = some job → job.isClosing = false)
    (hgate : m'.gate ≠ .opened)
    (hown : ∀ job, m'.jobs.find? id = some job → m'.gate = .running)
    (htakes : m'.jobs.find? id = some .drainingBackends →
      m'.backends.jobs.find? (.call id) = some .taking → m'.backends.handles ≠ none)
    (hpast : ∀ job, m'.jobs.find? id = some job → job.isPast = true → m'.backends.Drained)
    (hclosed : m'.gate = .closed → m'.backends.Drained) : Guarded m' := by
  -- whoever is past the gate is this shutdown
  have hid : ∀ other job, m'.jobs.find? other = some job → job.isClosing = true → other = id := by
    intro other job hjob hclosing
    by_cases hne : other = id
    · exact hne
    · rw [hothers other job hne hjob] at hclosing
      cases hclosing
  refine ⟨fun hopened => absurd hopened hgate, ?_, ?_, ?_, ?_, hclosed⟩
  · intro other job hjob hclosing
    have hother := hid other job hjob hclosing
    subst hother
    exact hown job hjob
  · intro other other' job job' hjob hjob' hclosing hclosing'
    rw [hid other job hjob hclosing, hid other' job' hjob' hclosing']
  · intro other hjob
    have hother := hid other _ hjob rfl
    subst hother
    exact htakes hjob
  · intro other job hjob hp
    have hother := hid other job hjob (ManagerJob.isClosing_of_isPast hp)
    subst hother
    exact hpast job hjob hp

theorem others_of_insert {job : ManagerJob} (hjobs : m'.jobs = m.jobs.insert id job)
    (h : ∀ other job, other ≠ id → m.jobs.find? other = some job → job.isClosing = false)
    (other : Nat) (job' : ManagerJob) (hne : other ≠ id)
    (hjob' : m'.jobs.find? other = some job') : job'.isClosing = false := by
  rw [hjobs, Table.find?_insert, if_neg fun e => hne e.symm] at hjob'
  exact h other job' hne hjob'

/-- The shutdown that is past the gate goes on to another phase past the draining of the backends. -/
theorem Guarded.of_going_on (hg : Guarded m) {job job' : ManagerJob}
    (hjob : m.jobs.find? id = some job) (hclosing : job.isClosing = true)
    (hjobs : m'.jobs = m.jobs.insert id job') (hpast : job'.isPast = true)
    (hgate : m'.gate = m.gate) (hdrained : m'.backends.Drained) : Guarded m' := by
  have hrunning : m'.gate = .running := hgate.trans (hg.running id job hjob hclosing)
  refine .of_passed id (others_of_insert hjobs (hg.others_of_closing hjob hclosing)) ?_
    (fun _ _ => hrunning) ?_ (fun _ _ _ => hdrained) (fun _ => hdrained)
  · rw [hrunning]
    nofun
  · intro hdraining
    rw [hjobs, Table.find?_insert_self] at hdraining
    cases hdraining
    cases hpast

/-- The shutdown that is past the gate comes back. -/
theorem Guarded.of_return (hg : Guarded m) {job : ManagerJob} (hjob : m.jobs.find? id = some job)
    (hpast : job.isPast = true) (hjobs : m'.jobs = m.jobs.erase id) (hgate : m'.gate = .closed)
    (hbackends : m'.backends = m.backends) : Guarded m' := by
  have hdrained : m'.backends.Drained := hbackends ▸ hg.past id job hjob hpast
  have hnone : m'.jobs.find? id = none := by rw [hjobs, Table.find?_erase_self]
  refine .of_passed id ?_ ?_ ?_ ?_ (fun _ _ _ => hdrained) (fun _ => hdrained)
  · intro other job' hne hjob'
    rw [hjobs, Table.find?_erase, if_neg fun e => hne e.symm] at hjob'
    exact hg.others_of_closing hjob (ManagerJob.isClosing_of_isPast hpast) other job' hne hjob'
  · rw [hgate]
    nofun
  · intro job' hjob'
    rw [hnone] at hjob'
    cases hjob'
  · intro hdraining
    rw [hnone] at hdraining
    cases hdraining

/-- **A step of a call keeps the invariant.** -/
theorem Called.guarded (step : Called m now id input p) (hc : Coherent h m) (hg : Guarded m) :
    Guarded p.state := by
  cases step with
  | fetched hjob step =>
      obtain ⟨hregistry, hgate, -, hend⟩ := step.frame
      refine hg.of_same_registry hgate hregistry ?_
      rcases hend with ⟨-, job', hjobs, hfetch, -⟩ | ⟨hjobs, -⟩
      · refine closing_of_insert ?_ hjobs
        cases job' <;> first | rfl | cases hfetch
      · exact closing_of_erase hjobs
  | malformed | returned | notOpened | called | followed =>
      exact hg.of_same_registry rfl rfl (closing_of_erase rfl)
  | goesDirect | opened => exact hg.of_same_registry rfl rfl (closing_of_insert rfl rfl)
  | acquires _ _ hr _ began | overtaken _ hr _ _ began =>
      exact hg.of_began hr began rfl rfl rfl rfl
  | @waited job r _ q hjob hat hr work more =>
      by_cases hdraining : job = .drainingBackends
      · -- the shutdown past the gate takes a step, after which it is not about to take the handles
        subst hdraining
        have hrunning : m.gate = .running := hg.running id _ hjob rfl
        refine .of_passed id (hg.others_of_closing hjob rfl) ?_ (fun _ _ => hrunning) ?_ ?_ ?_
        · show m.gate ≠ .opened
          rw [hrunning]
          exact fun h => by cases h
        · exact fun _ htaking => absurd htaking (work.ne_taking more)
        · intro job' hjob' hpast
          have hjob' : m.jobs.find? id = some job' := hjob'
          rw [hjob] at hjob'
          cases hjob'
          cases hpast
        · intro hclosed
          rw [show m.gate = .closed from hclosed] at hrunning
          cases hrunning
      · have hnot : m.jobs.find? id ≠ some .drainingBackends := by
          rw [hjob]
          exact fun e => hdraining (Option.some.inj e)
        exact hg.of_called hc hr work rfl rfl (fun _ _ hjob _ => hjob) hnot hnot
  | @acquired d wire slot r r' _ q hjob hr work last free began =>
      -- two changes of the registry in one step, with the invariant in between
      have hmid : Guarded { m with registry := some q.state } := by
        have hnot : m.jobs.find? id ≠ some .drainingBackends := fun h => by cases hjob.symm.trans h
        exact hg.of_called hc hr work rfl rfl (fun _ _ hjob _ => hjob) hnot hnot
      exact hmid.of_began rfl began rfl rfl rfl rfl
  | notAcquired hjob hr work | answered hjob hr work =>
      refine hg.of_called hc hr work rfl rfl (closing_of_insert rfl rfl) ?_ ?_
      · exact fun h => by cases hjob.symm.trans h
      · exact fun h => by cases (Table.find?_insert_self _ _ _).symm.trans h
  | flushed hjob hr work last =>
      refine hg.of_called hc hr work rfl rfl (closing_of_erase rfl) ?_ ?_
      · exact fun h => by cases hjob.symm.trans h
      · exact fun h => by cases (Table.find?_erase_self _ _).symm.trans h
  | @drains r r' hjob opened hr free began =>
      refine .of_passed id (others_of_insert rfl (hg.others_of_opened opened)) (fun h => by cases h)
        (fun _ _ => rfl) ?_ ?_ (fun h => by cases h)
      · -- it is the first to pass the gate, so that the handles are still there
        intro _ _
        have hsome := hg.opened opened (fun h => by cases hr.symm.trans h)
        rw [backends_of_registry hr, ← began.handles] at hsome
        exact hsome
      · intro job hjob hpast
        rw [Progress.quiet, jobs_resume, Table.find?_insert_self] at hjob
        cases hjob
        cases hpast
  | drainsNothing hjob opened hr =>
      have hdrained : m.backends.Drained := by
        unfold backends
        rw [hr]
        exact ⟨rfl, fun _ _ hs => by cases hs⟩
      refine .of_passed id (others_of_insert rfl (hg.others_of_opened opened)) (fun h => by cases h)
        (fun _ _ => rfl) ?_ (fun _ _ _ => hdrained) (fun h => by cases h)
      intro hdraining
      rw [Progress.quiet, jobs_resume, Table.find?_insert_self] at hdraining
      cases hdraining
  | drained hjob hr work last =>
      have hsound := hc.sound
      have htakes := hg.takes id hjob
      rw [backends_of_registry hr] at hsound htakes
      exact hg.of_going_on hjob rfl rfl rfl rfl (work.drained_of_stopped hsound htakes last)
  | stopsRefresh hjob hcache => exact hg.of_going_on hjob rfl rfl rfl rfl (hg.past id _ hjob rfl)
  | stopsNothing hjob | joined hjob => exact hg.of_return hjob rfl rfl rfl rfl

theorem Stepped.guarded {actor : Actor} (step : Stepped m now actor input p)
    (hc : Coherent h m) (hg : Guarded m) : Guarded p.state := by
  cases step with
  | called step => exact step.guarded hc hg
  | @looped slot r _ q hr work =>
      have hbackends : ({ m with registry := some q.state } : Manager).backends = q.state := rfl
      refine hg.of_calm rfl (fun hnone => ?_) (fun _ _ hjob _ => hjob) ?_ ?_ ?_
      · rw [hr] at hnone
        cases hnone
      · intro id htaking hjob
        rw [hbackends, work.jobs, ← backends_of_registry hr] at htaking
        exact hg.takes id hjob htaking
      · rw [backends_of_registry hr, hbackends, work.handles]
        exact fun h => h
      · rw [backends_of_registry hr, hbackends]
        exact work.drained
  | refreshed work => exact hg.of_same_registry rfl rfl fun _ _ hjob _ => hjob

theorem guarded_new (now : Nat) (limits : Option CacheLimits) (settings : DispatchSettings) :
    Guarded (new now limits settings) := by
  have hfree : ∀ id, (new now limits settings).jobs.find? id = none := fun _ => rfl
  have hgate : (new now limits settings).gate = .opened := rfl
  refine ⟨?_, ?_, ?_, ?_, ?_, ?_⟩
  · intro _ hsome
    obtain ⟨r, hr⟩ := Option.ne_none_iff_exists'.1 hsome
    rw [backends_of_registry hr]
    unfold new at hr
    dsimp only at hr
    split at hr
    · cases hr; nofun
    · cases hr
  · intro id job hjob
    rw [hfree] at hjob
    cases hjob
  · intro id id' job job' hjob
    rw [hfree] at hjob
    cases hjob
  · intro id hjob
    rw [hfree] at hjob
    cases hjob
  · intro id job hjob
    rw [hfree] at hjob
    cases hjob
  · intro hclosed
    rw [hgate] at hclosed
    cases hclosed

/-- **The gate keeps shutdowns apart in every reachable state.** -/
theorem guarded_of_run {limits : Option CacheLimits} {settings : DispatchSettings}
    (run : Run system (.new now limits settings) h m) : Guarded m := by
  induction run with
  | start => exact guarded_new now limits settings
  | @begins h m m' actor task run hbegin ih =>
      cases actor with
      | call id =>
          obtain ⟨hfree, rfl⟩ := eq_resume_of_begin? hbegin
          refine ih.of_same_registry rfl rfl (closing_of_insert ?_ rfl)
          cases task <;> rfl
      | flushLoop slot => cases hbegin
      | refreshLoop => cases hbegin
  | steps run hstep ih => exact (stepped_of_step hstep).guarded (coherent_of_run run) ih

/-! ## What a shutdown leaves behind -/

/-- A gate that is closed stays closed. -/
theorem Stepped.gate_of_closed {actor : Actor} (step : Stepped m now actor input p)
    (hclosed : m.gate = .closed) : p.state.gate = .closed := by
  cases step with
  | looped hr work => exact hclosed
  | refreshed work => exact hclosed
  | called step =>
      cases step with
      | fetched hjob step => exact step.frame.2.1.trans hclosed
      | drains hjob opened | drainsNothing hjob opened => rw [hclosed] at opened; cases opened
      | stopsNothing | joined => rfl
      | _ => exact hclosed

/-- A shutdown comes back through a closed gate. -/
theorem Stepped.gate_of_stopped {actor : Actor} (step : Stepped m now actor input p)
    (hresult : p.result? = some .stopped) : p.state.gate = .closed := by
  cases step with
  | looped hr work => cases hresult
  | refreshed work => cases hresult
  | called step =>
      cases step with
      | fetched hjob step =>
          obtain ⟨-, -, -, ⟨hnone, -⟩ | ⟨-, config, hfetched⟩⟩ := step.frame
          · rw [hnone] at hresult; cases hresult
          · rw [hfetched] at hresult; cases hresult
      | followed hjob closed => exact closed
      | stopsNothing | joined => rfl
      | _ => cases hresult

/-- A shutdown among completed calls. -/
theorem exists_stopped_of_any {outcomes : List (Task × Result)}
    (hany : outcomes.any (fun o => match o.2 with | .stopped => true | _ => false) = true) :
    ∃ task, (task, .stopped) ∈ outcomes := by
  obtain ⟨⟨task, result⟩, hmem, hresult⟩ := List.any_eq_true.1 hany
  cases result with
  | stopped => exact ⟨task, hmem⟩
  | _ => cases hresult

/-- Once a shutdown has returned, the gate is closed for good. -/
theorem gate_of_stopped {s : Manager} {task : Task} (run : Run system s h m)
    (hstopped : (task, .stopped) ∈ h.outcomes) : m.gate = .closed := by
  induction run with
  | start => cases hstopped
  | @begins h m m' actor task' run hbegin ih =>
      cases actor with
      | call id =>
          obtain ⟨-, rfl⟩ := eq_resume_of_begin? hbegin
          exact ih hstopped
      | flushLoop slot => cases hbegin
      | refreshLoop => cases hbegin
  | steps run hstep ih =>
      have step := stepped_of_step hstep
      rcases History.mem_outcomes_stepped hstopped with hold | hnew
      · exact step.gate_of_closed (ih hold)
      · exact step.gate_of_stopped hnew

/-- **Once a shutdown has returned, the registry is drained for good.** -/
theorem drained_of_stopped {limits : Option CacheLimits} {settings : DispatchSettings}
    {task : Task} (run : Run system (.new now limits settings) h m)
    (hstopped : (task, .stopped) ∈ h.outcomes) : m.backends.Drained :=
  (guarded_of_run run).closed (gate_of_stopped run hstopped)

end Manager

end GatewayAuth
