import GatewayAuth.Proofs.Manager.Steps

/-!
# `GatewayAuth.Proofs.Manager.Coherent` — calls, their jobs and the registry agree

A call on a manager has a job there, while it works on a buffered backend another one at the registry, and a third
one at the backend. `Coherent` says that the three fit together and that they carry out the task that the call was
given. A step moves one call; the jobs of all others are spared.

## Contents
- `Registry.Spares`: a change of a registry that leaves a call alone.
- `Fits`: what the job of a call says about the registry; `Coherent`: the invariant.
- `coherent_of_run`: it holds at all times.
-/

namespace GatewayAuth

/-! ## What a call has at the registry -/

namespace Registry

/-- A call has no job at the registry. -/
def Idle (r : Registry) (id : Nat) : Prop := r.jobs.find? (.call id) = none

/-- A call has a job at the registry that serves `task`. -/
def Working (r : Registry) (id : Nat) (task : Task) : Prop :=
  ∃ job, r.jobs.find? (.call id) = some job ∧ job.Serves task

/-- A slot holds the backend for a destination. -/
def HasSlot (r : Registry) (slot : Nat) (d : String) : Prop :=
  ∃ s, r.slots[slot]? = some s ∧ s.backend.destination = d

/-- A call has a job at the backend of a slot. -/
def AtWork (r : Registry) (id slot : Nat) (d : String) (work : BufferedBackend.Task) : Prop :=
  ∃ s job, r.slots[slot]? = some s ∧ s.backend.destination = d ∧
    r.jobs.find? (.call id) = some (.using slot) ∧
    s.backend.jobs.find? (.call id) = some job ∧ job.Serves work

theorem AtWork.uses {r : Registry} {id slot : Nat} {d : String} {work : BufferedBackend.Task}
    (h : r.AtWork id slot d work) : r.jobs.find? (.call id) = some (.using slot) := by
  obtain ⟨s, job, -, -, husing, -⟩ := h
  exact husing

/-- Nothing has happened to the jobs of a call between `r` and `r'`, and every slot is still there. -/
structure Spares (id : Nat) (r r' : Registry) : Prop where
  job : r'.jobs.find? (.call id) = r.jobs.find? (.call id)
  slots : ∀ (i : Nat) (s : Slot), r.slots[i]? = some s → ∃ s', r'.slots[i]? = some s' ∧
    s'.backend.destination = s.backend.destination ∧
    s'.backend.jobs.find? (.call id) = s.backend.jobs.find? (.call id)

variable {r r' r'' : Registry} {now id slot : Nat} {d : String} {input : Input}
  {p : Progress Registry Result Event}

namespace Spares

theorem refl : Spares id r r := ⟨rfl, fun _ s hs => ⟨s, hs, rfl, rfl⟩⟩

theorem trans (h : Spares id r r') (h' : Spares id r' r'') : Spares id r r'' := by
  refine ⟨h'.job.trans h.job, fun i s hs => ?_⟩
  obtain ⟨s', hs', hd, hjob⟩ := h.slots i s hs
  obtain ⟨s'', hs'', hd', hjob'⟩ := h'.slots i s' hs'
  exact ⟨s'', hs'', hd'.trans hd, hjob'.trans hjob⟩

theorem idle (h : Spares id r r') (hidle : r.Idle id) : r'.Idle id := h.job.trans hidle

theorem working (h : Spares id r r') {task : Task} (hworking : r.Working id task) :
    r'.Working id task := by
  obtain ⟨job, hjob, hserves⟩ := hworking
  exact ⟨job, h.job.trans hjob, hserves⟩

theorem hasSlot (h : Spares id r r') (hslot : r.HasSlot slot d) : r'.HasSlot slot d := by
  obtain ⟨s, hs, hd⟩ := hslot
  obtain ⟨s', hs', hd', -⟩ := h.slots slot s hs
  exact ⟨s', hs', hd'.trans hd⟩

theorem atWork (h : Spares id r r') {work : BufferedBackend.Task}
    (hwork : r.AtWork id slot d work) : r'.AtWork id slot d work := by
  obtain ⟨s, job, hs, hd, husing, hjob, hserves⟩ := hwork
  obtain ⟨s', hs', hd', hjob'⟩ := h.slots slot s hs
  exact ⟨s', job, hs', hd'.trans hd, h.job.trans husing, hjob'.trans hjob, hserves⟩

end Spares

theorem Began.spares {task : Task} (h : Began r (.call id) task r') {other : Nat}
    (hne : other ≠ id) : Spares other r r' := by
  have hne' : Actor.call other ≠ .call id := fun e => hne (Actor.call.inj e)
  exact ⟨h.others hne', fun i s hs => (h.slotsMoved .turn).others hs hne'⟩

theorem Called.spares (h : Called r now (.call id) input p) {other : Nat} (hne : other ≠ id) :
    Spares other r p.state := by
  have hne' : Actor.call other ≠ .call id := fun e => hne (Actor.call.inj e)
  exact ⟨h.others hne', fun i s hs => h.slotsMoved.others hs hne'⟩

theorem Looped.spares (h : Looped r now slot input p) (id : Nat) : Spares id r p.state :=
  ⟨by rw [h.jobs], fun _ _ hs => h.slotsMoved.others hs fun e => nomatch e⟩

/-- A call that starts work at the backend of a slot is at work there. -/
theorem Began.atWork {work : BufferedBackend.Task} (h : Began r (.call id) (.use slot work) r')
    (hslot : r.HasSlot slot d) : r'.AtWork id slot d work := by
  obtain ⟨s, hs, hd⟩ := hslot
  cases h with
  | @use _ s' _ hs' free =>
      rw [hs] at hs'
      cases hs'
      refine ⟨_, work.job, List.getElem?_set_self (List.getElem?_eq_some_iff.1 hs).1, hd,
        Table.find?_insert_self _ _ _, Table.find?_insert_self _ _ _, work.serves_job⟩

theorem Began.working {task : Task} (h : Began r (.call id) task r') : r'.Working id task :=
  h.serves

theorem Called.working (h : Called r now (.call id) input p) (more : p.result? = none)
    {task : Task} (hworking : r.Working id task) : p.state.Working id task := by
  obtain ⟨job, hjob, hserves⟩ := hworking
  exact h.goes_on more hjob hserves

theorem Called.idle (h : Called r now (.call id) input p) {result : Result}
    (last : p.result? = some result) : p.state.Idle id := h.ends last

theorem Called.hasSlot (h : Called r now (.call id) input p) (hslot : r.HasSlot slot d) :
    p.state.HasSlot slot d := by
  obtain ⟨s, hs, hd⟩ := hslot
  obtain ⟨s', hs', hd'⟩ := h.slotsMoved.persists hs
  exact ⟨s', hs', hd'.trans hd⟩

/-- A call that uses a backend takes its steps there. -/
theorem Called.works {s : Slot} (h : Called r now (.call id) input p)
    (husing : r.jobs.find? (.call id) = some (.using slot)) (hs : r.slots[slot]? = some s) :
    ∃ q, BufferedBackend.Stepped s.backend (.call id) input q ∧
      p.state.slots = r.slots.set slot { s with backend := q.state } ∧
      p.result? = q.result?.map Result.used ∧ p.events = q.events.map (.atSlot slot) ∧
      (q.result? = none → p.state.jobs = r.jobs) := by
  cases h with
  | @worked slot' s' _ q job hslot step more =>
      rw [husing] at job
      cases job
      rw [hs] at hslot
      cases hslot
      exact ⟨q, step, rfl, by rw [more]; rfl, rfl, fun _ => rfl⟩
  | @used slot' s' _ q result job hslot step last =>
      rw [husing] at job
      cases job
      rw [hs] at hslot
      cases hslot
      refine ⟨q, step, rfl, by rw [last]; rfl, rfl, fun more => ?_⟩
      rw [more] at last
      cases last
  | _ => simp_all only [Option.some.injEq, reduceCtorEq]

theorem Called.atWork (h : Called r now (.call id) input p) (more : p.result? = none)
    {work : BufferedBackend.Task} (hwork : r.AtWork id slot d work) :
    p.state.AtWork id slot d work := by
  obtain ⟨s, job, hs, hd, husing, hjob, hserves⟩ := hwork
  obtain ⟨q, step, hslots, hresult, -, hjobs⟩ := h.works husing hs
  rw [more] at hresult
  have hq : q.result? = none := Option.map_eq_none_iff.1 hresult.symm
  obtain ⟨job', hjob', hserves'⟩ := step.goes_on hq hjob hserves
  refine ⟨{ s with backend := q.state }, job', ?_, step.destination.trans hd, ?_, hjob', hserves'⟩
  · rw [hslots]
    exact List.getElem?_set_self (List.getElem?_eq_some_iff.1 hs).1
  · rw [hjobs hq]
    exact husing

/-- The slot that a call acquires is one of its destination. -/
theorem Called.acquired_slot (h : Called r now (.call id) input p) (hr : r.Sound)
    (hworking : r.Working id (.acquire d)) (last : p.result? = some (.acquired (.ok slot))) :
    p.state.HasSlot slot d := by
  obtain ⟨job, hjob, hserves⟩ := hworking
  cases h with
  | @found d' slot' job' cell =>
      rw [job'] at hjob
      cases hjob
      cases hserves
      cases last
      exact hr.cells d slot cell
  | @opened d' handles job' hhandles =>
      rw [job'] at hjob
      cases hjob
      cases hserves
      cases last
      exact ⟨⟨.new d r.policy, .idle (now + r.flushEvery)⟩, List.getElem?_concat_length, rfl⟩
  | _ => cases last

end Registry

namespace Manager

/-! ## The invariant -/

/-- A task is an authorization for a destination whose wire form is `wire`. -/
def Task.Wants (task : Task) (d : String) (wire : Wire.Request) : Prop :=
  ∃ request, task = .authorize d request ∧ request.toWire = .ok wire

/-- What a job of a call says about its task and about the registry. -/
def Fits (r : Registry) (id : Nat) (task : Task) : ManagerJob → Prop
  | .validating location request => task = .fetch location request ∧ r.Idle id
  | .looking location request => task = .fetch location request ∧ r.Idle id
  | .connecting location request _ => task = .fetch location request ∧ r.Idle id
  | .fetching location request _ => task = .fetch location request ∧ r.Idle id
  | .storing location request _ => task = .fetch location request ∧ r.Idle id
  | .preparing d request => task = .authorize d request ∧ r.Idle id
  | .acquiring d wire => task.Wants d wire ∧ r.Working id (.acquire d)
  | .authorizing slot => ∃ d wire, task.Wants d wire ∧ r.AtWork id slot d (.authorize wire)
  | .rechecking slot _ => ∃ d wire, task.Wants d wire ∧ r.HasSlot slot d ∧ r.Idle id
  | .flushing slot _ => ∃ d wire, task.Wants d wire ∧ r.AtWork id slot d .flush
  | .opening d wire => task.Wants d wire ∧ r.Idle id
  | .calling d wire => task.Wants d wire ∧ r.Idle id
  | .drainingBackends => task = .shutdown ∧ r.Working id .shutdown
  | .entering => task = .shutdown ∧ r.Idle id
  | .stoppingRefresh => task = .shutdown ∧ r.Idle id
  | .joiningRefresh => task = .shutdown ∧ r.Idle id

/-- The jobs of all calls fit their tasks and the registry. -/
structure Coherent (h : Past) (m : Manager) : Prop where
  sound : m.backends.Sound
  fits : ∀ id job, m.jobs.find? id = some job →
    ∃ task, h.task? (.call id) = some task ∧ Fits m.backends id task job
  idle : ∀ id, m.jobs.find? id = none → m.backends.Idle id

/-- A call with a job at the registry waits for it. -/
theorem Coherent.fits_of_busy {h : Past} {m : Manager} (hc : Coherent h m) {id : Nat}
    {job : RegistryJob} (hjob : m.backends.jobs.find? (.call id) = some job) :
    ∃ mine task, m.jobs.find? id = some mine ∧ h.task? (.call id) = some task ∧
      mine.isAtRegistry = true ∧ Fits m.backends id task mine := by
  cases hmine : m.jobs.find? id with
  | none =>
      have hidle := hc.idle id hmine
      rw [Registry.Idle, hjob] at hidle
      cases hidle
  | some mine =>
      obtain ⟨task, htask, hfits⟩ := hc.fits id mine hmine
      refine ⟨mine, task, rfl, htask, ?_, hfits⟩
      cases mine with
      | acquiring d wire => rfl
      | authorizing slot => rfl
      | flushing slot answer => rfl
      | drainingBackends => rfl
      | rechecking slot answer =>
          obtain ⟨d, wire, -, -, hidle⟩ := hfits
          rw [Registry.Idle, hjob] at hidle
          cases hidle
      | _ =>
          have hidle := hfits.2
          rw [Registry.Idle, hjob] at hidle
          cases hidle

theorem Fits.spared {r r' : Registry} {id : Nat} {task : Task} {job : ManagerJob}
    (h : Registry.Spares id r r') (hfits : Fits r id task job) : Fits r' id task job := by
  cases job with
  | acquiring d wire => exact ⟨hfits.1, h.working hfits.2⟩
  | authorizing slot =>
      obtain ⟨d, wire, hwants, hwork⟩ := hfits
      exact ⟨d, wire, hwants, h.atWork hwork⟩
  | rechecking slot answer =>
      obtain ⟨d, wire, hwants, hslot, hidle⟩ := hfits
      exact ⟨d, wire, hwants, h.hasSlot hslot, h.idle hidle⟩
  | flushing slot answer =>
      obtain ⟨d, wire, hwants, hwork⟩ := hfits
      exact ⟨d, wire, hwants, h.atWork hwork⟩
  | drainingBackends => exact ⟨hfits.1, h.working hfits.2⟩
  | _ => exact ⟨hfits.1, h.idle hfits.2⟩

variable {m m' : Manager} {h h' : Past} {now id : Nat} {input : Input}
  {p : Progress Manager Result Event}

/-- A step that moves one call and spares all others keeps the invariant if that call fits again. -/
theorem Coherent.of_move (hc : Coherent h m) (id : Nat) (hsound : m'.backends.Sound)
    (htasks : ∀ other, other ≠ id → h'.task? (.call other) = h.task? (.call other))
    (hothers : ∀ other, other ≠ id → m'.jobs.find? other = m.jobs.find? other)
    (hspares : ∀ other, other ≠ id → Registry.Spares other m.backends m'.backends)
    (hown : ∀ job, m'.jobs.find? id = some job →
      ∃ task, h'.task? (.call id) = some task ∧ Fits m'.backends id task job)
    (hidle : m'.jobs.find? id = none → m'.backends.Idle id) : Coherent h' m' := by
  refine ⟨hsound, ?_, ?_⟩
  · intro other job hjob
    by_cases hne : other = id
    · subst hne
      exact hown job hjob
    · rw [hothers other hne] at hjob
      obtain ⟨task, htask, hfits⟩ := hc.fits other job hjob
      exact ⟨task, (htasks other hne).trans htask, hfits.spared (hspares other hne)⟩
  · intro other hnone
    by_cases hne : other = id
    · subst hne
      exact hidle hnone
    · rw [hothers other hne] at hnone
      exact (hspares other hne).idle (hc.idle other hnone)

@[simp] theorem jobs_resume (m : Manager) (id : Nat) (job : ManagerJob) :
    (m.resume id job).jobs = m.jobs.insert id job := rfl

/-- A step of a fetch concerns neither the registry nor the gate, and the fetch goes on or ends. -/
theorem Fetched.frame {job : ManagerJob} (step : Fetched m now id job input p) :
    p.state.registry = m.registry ∧ p.state.gate = m.gate ∧
      (∀ slot e, .atSlot slot e ∉ p.events) ∧
      ((p.result? = none ∧ ∃ job', p.state.jobs = m.jobs.insert id job' ∧ job'.isFetch = true ∧
          ∀ r task, Fits r id task job → Fits r id task job') ∨
        p.state.jobs = m.jobs.erase id ∧ ∃ config, p.result? = some (.fetched config)) := by
  have hsilent : ∀ slot e, Event.atSlot slot e ∉ [] := fun _ _ => List.not_mem_nil
  cases step with
  | invalid | notConnected | fetchFailed | fetchedDirect | stored =>
      exact ⟨rfl, rfl, hsilent, .inr ⟨rfl, _, rfl⟩⟩
  | cached | uncached | missed | connected | fetchedFill =>
      exact ⟨rfl, rfl, hsilent, .inl ⟨rfl, _, rfl, rfl, fun _ _ hfits => hfits⟩⟩
  | hit hcache hget =>
      refine ⟨rfl, rfl, fun slot e hmem => ?_, .inr ⟨rfl, _, rfl⟩⟩
      cases List.mem_singleton.1 hmem

/-- A step of a call changes the job of that call only. -/
theorem Called.jobs (step : Called m now id input p) :
    p.state.jobs = m.jobs ∨ (∃ job, p.state.jobs = m.jobs.insert id job) ∨
      p.state.jobs = m.jobs.erase id := by
  cases step with
  | fetched hjob step =>
      obtain ⟨-, -, -, ⟨-, job', hjobs, -⟩ | ⟨hjobs, -⟩⟩ := step.frame
      · exact .inr (.inl ⟨job', hjobs⟩)
      · exact .inr (.inr hjobs)
  | waited hjob hat hr work more => exact .inl rfl
  | malformed | returned | flushed | notOpened | called | followed | stopsNothing | joined =>
      exact .inr (.inr rfl)
  | _ => exact .inr (.inl ⟨_, rfl⟩)

/-- A step leaves the manager's jobs of other calls alone. -/
theorem Stepped.others {actor : Actor} (step : Stepped m now actor input p) {other : Nat}
    (hne : actor ≠ .call other) : p.state.jobs.find? other = m.jobs.find? other := by
  cases step with
  | looped hr work => rfl
  | refreshed work => rfl
  | @called id _ _ step =>
      have hne : id ≠ other := fun e => hne (e ▸ rfl)
      rcases step.jobs with hsame | ⟨job, hinsert⟩ | herase
      · rw [hsame]
      · rw [hinsert, Table.find?_insert, if_neg hne]
      · rw [herase, Table.find?_erase, if_neg hne]

/-- A step that leads a call to another phase. -/
theorem Coherent.of_insert (hc : Coherent h m) {job : ManagerJob} {task : Task}
    (hjobs : m'.jobs = m.jobs.insert id job) (hsound : m'.backends.Sound)
    (hspares : ∀ other, other ≠ id → Registry.Spares other m.backends m'.backends)
    (htask : h.task? (.call id) = some task) (hfits : Fits m'.backends id task job) :
    Coherent h m' := by
  refine hc.of_move id hsound (fun _ _ => rfl) ?_ hspares ?_ ?_
  · intro other hne
    rw [hjobs, Table.find?_insert, if_neg fun e => hne e.symm]
  · intro job' hjob'
    rw [hjobs, Table.find?_insert_self] at hjob'
    cases hjob'
    exact ⟨task, htask, hfits⟩
  · intro hnone
    rw [hjobs, Table.find?_insert_self] at hnone
    cases hnone

/-- A step that completes a call. -/
theorem Coherent.of_erase (hc : Coherent h m) (hjobs : m'.jobs = m.jobs.erase id)
    (hsound : m'.backends.Sound)
    (hspares : ∀ other, other ≠ id → Registry.Spares other m.backends m'.backends)
    (hidle : m'.backends.Idle id) : Coherent h m' := by
  refine hc.of_move id hsound (fun _ _ => rfl) ?_ hspares ?_ (fun _ => hidle)
  · intro other hne
    rw [hjobs, Table.find?_erase, if_neg fun e => hne e.symm]
  · intro job' hjob'
    rw [hjobs, Table.find?_erase_self] at hjob'
    cases hjob'

/-- **A step of a call keeps the invariant.** -/
theorem Called.coherent (step : Called m now id input p) (hc : Coherent h m) :
    Coherent h p.state := by
  have hsound := hc.sound
  have hkept : ∀ other, other ≠ id → Registry.Spares other m.backends m.backends :=
    fun _ _ => .refl
  cases step with
  | fetched hjob step =>
      obtain ⟨task, htask, hfits⟩ := hc.fits id _ hjob
      obtain ⟨hregistry, -, -, hend⟩ := step.frame
      have hbackends := backends_congr hregistry
      rcases hend with ⟨-, job', hjobs, -, hfits'⟩ | ⟨hjobs, -⟩
      · refine hc.of_insert hjobs ?_ ?_ htask ?_
        · rw [hbackends]; exact hsound
        · rw [hbackends]; exact hkept
        · rw [hbackends]; exact hfits' _ _ hfits
      · refine hc.of_erase hjobs ?_ ?_ ?_
        · rw [hbackends]; exact hsound
        · rw [hbackends]; exact hkept
        · rw [hbackends]
          cases step <;> exact hfits.2
  | malformed hjob | notOpened hjob | called hjob | followed hjob | stopsNothing hjob
  | joined hjob =>
      obtain ⟨task, htask, hfits⟩ := hc.fits id _ hjob
      exact hc.of_erase rfl hsound hkept hfits.2
  | opened hjob | drainsNothing hjob | stopsRefresh hjob =>
      obtain ⟨task, htask, hfits⟩ := hc.fits id _ hjob
      exact hc.of_insert rfl hsound hkept htask hfits
  | acquires hjob hwire hr free began =>
      obtain ⟨task, htask, rfl, hidle⟩ := hc.fits id _ hjob
      rw [backends_of_registry hr] at hsound
      refine hc.of_insert rfl (began.sound free hsound) ?_ htask ⟨⟨_, rfl, hwire⟩, began.working⟩
      rw [backends_of_registry hr]
      exact fun other hne => began.spares hne
  | goesDirect hjob hwire hr =>
      obtain ⟨task, htask, rfl, hidle⟩ := hc.fits id _ hjob
      exact hc.of_insert rfl hsound hkept htask ⟨⟨_, rfl, hwire⟩, hidle⟩
  | @waited job r _ q hjob hat hr work more =>
      obtain ⟨task, htask, hfits⟩ := hc.fits id _ hjob
      rw [backends_of_registry hr] at hsound hfits
      refine hc.of_move id (work.sound hsound) (fun _ _ => rfl) (fun _ _ => rfl) ?_ ?_ ?_
      · rw [backends_of_registry hr]
        exact fun other hne => work.spares hne
      · intro job' hjob'
        have hjob' : m.jobs.find? id = some job' := hjob'
        rw [hjob] at hjob'
        cases hjob'
        refine ⟨task, htask, ?_⟩
        cases job with
        | acquiring d wire => exact ⟨hfits.1, work.working more hfits.2⟩
        | authorizing slot =>
            obtain ⟨d, wire, hwants, hwork⟩ := hfits
            exact ⟨d, wire, hwants, work.atWork more hwork⟩
        | flushing slot answer =>
            obtain ⟨d, wire, hwants, hwork⟩ := hfits
            exact ⟨d, wire, hwants, work.atWork more hwork⟩
        | drainingBackends => exact ⟨hfits.1, work.working more hfits.2⟩
        | _ => cases hat
      · intro hnone
        have hnone : m.jobs.find? id = none := hnone
        rw [hjob] at hnone
        cases hnone
  | acquired hjob hr work last free began =>
      obtain ⟨task, htask, hwants, hworking⟩ := hc.fits id _ hjob
      rw [backends_of_registry hr] at hsound hworking
      have hslot := work.acquired_slot hsound hworking last
      refine hc.of_insert rfl (began.sound free (work.sound hsound)) ?_ htask
        ⟨_, _, hwants, began.atWork hslot⟩
      rw [backends_of_registry hr]
      exact fun other hne => (work.spares hne).trans (began.spares hne)
  | notAcquired hjob hr work last =>
      obtain ⟨task, htask, hwants, hworking⟩ := hc.fits id _ hjob
      rw [backends_of_registry hr] at hsound
      refine hc.of_insert rfl (work.sound hsound) ?_ htask ⟨hwants, work.idle last⟩
      rw [backends_of_registry hr]
      exact fun other hne => work.spares hne
  | answered hjob hr work last =>
      obtain ⟨task, htask, d, wire, hwants, hwork⟩ := hc.fits id _ hjob
      rw [backends_of_registry hr] at hsound hwork
      obtain ⟨s, job, hs, hd, -⟩ := hwork
      refine hc.of_insert rfl (work.sound hsound) ?_ htask
        ⟨d, wire, hwants, work.hasSlot ⟨s, hs, hd⟩, work.idle last⟩
      rw [backends_of_registry hr]
      exact fun other hne => work.spares hne
  | overtaken hjob hr closed free began =>
      obtain ⟨task, htask, d, wire, hwants, hslot, hidle⟩ := hc.fits id _ hjob
      rw [backends_of_registry hr] at hsound hslot
      refine hc.of_insert rfl (began.sound free hsound) ?_ htask
        ⟨d, wire, hwants, began.atWork hslot⟩
      rw [backends_of_registry hr]
      exact fun other hne => began.spares hne
  | returned hjob hr opened =>
      obtain ⟨task, htask, d, wire, hwants, hslot, hidle⟩ := hc.fits id _ hjob
      exact hc.of_erase rfl hsound hkept hidle
  | flushed hjob hr work last =>
      rw [backends_of_registry hr] at hsound
      refine hc.of_erase rfl (work.sound hsound) ?_ (work.idle last)
      rw [backends_of_registry hr]
      exact fun other hne => work.spares hne
  | drains hjob opened hr free began =>
      obtain ⟨task, htask, hshutdown, hidle⟩ := hc.fits id _ hjob
      rw [backends_of_registry hr] at hsound
      refine hc.of_insert rfl (began.sound free hsound) ?_ htask ⟨hshutdown, began.working⟩
      rw [backends_of_registry hr]
      exact fun other hne => began.spares hne
  | drained hjob hr work last =>
      obtain ⟨task, htask, hshutdown, hworking⟩ := hc.fits id _ hjob
      rw [backends_of_registry hr] at hsound
      refine hc.of_insert rfl (work.sound hsound) ?_ htask ⟨hshutdown, work.idle last⟩
      rw [backends_of_registry hr]
      exact fun other hne => work.spares hne

/-- What is said about tasks of calls is all that a history adds. -/
theorem Coherent.of_tasks (hc : Coherent h m) (htasks : ∀ id, h'.task? (.call id) = h.task? (.call id)) :
    Coherent h' m := by
  refine ⟨hc.sound, fun id job hjob => ?_, hc.idle⟩
  obtain ⟨task, htask, hfits⟩ := hc.fits id job hjob
  exact ⟨task, (htasks id).trans htask, hfits⟩

theorem Stepped.coherent {actor : Actor} (step : Stepped m now actor input p)
    (hc : Coherent h m) : Coherent h p.state := by
  cases step with
  | called step => exact step.coherent hc
  | looped hr work =>
      have hsound := hc.sound
      rw [backends_of_registry hr] at hsound
      refine ⟨work.sound hsound, ?_, ?_⟩
      · intro id job hjob
        obtain ⟨task, htask, hfits⟩ := hc.fits id job hjob
        rw [backends_of_registry hr] at hfits
        exact ⟨task, htask, hfits.spared (work.spares id)⟩
      · intro id hnone
        have hidle := hc.idle id hnone
        rw [backends_of_registry hr] at hidle
        exact (work.spares id).idle hidle
  | refreshed work => exact ⟨hc.sound, hc.fits, hc.idle⟩

/-- A manager as it starts. -/
theorem coherent_new (now : Nat) (limits : Option CacheLimits) (settings : DispatchSettings) :
    Coherent [] (new now limits settings) := by
  constructor
  case sound =>
    unfold new backends
    dsimp only
    split
    · exact Registry.sound_new _ _
    · -- without a registry, there is one that has been shut down
      exact Registry.sound_of_empty rfl rfl rfl (fun _ hsome => by cases hsome) fun _ => rfl
  case fits =>
    intro id job hjob
    cases hjob
  case idle =>
    intro id _
    unfold new backends Registry.Idle
    dsimp only
    split <;> rfl

/-- **Calls, jobs and registry agree in every reachable state.** -/
theorem coherent_of_run {limits : Option CacheLimits} {settings : DispatchSettings}
    (run : Run system (.new now limits settings) h m) : Coherent h m := by
  induction run with
  | start => exact coherent_new now limits settings
  | @begins h m m' actor task run hbegin ih =>
      cases actor with
      | call id =>
          obtain ⟨hfree, rfl⟩ := eq_resume_of_begin? hbegin
          refine ih.of_move id ih.sound ?_ ?_ (fun _ _ => .refl) ?_ ?_
          · intro other hne
            rw [History.task?_began, if_neg fun e => hne (Actor.call.inj e).symm]
          · intro other hne
            rw [jobs_resume, Table.find?_insert, if_neg fun e => hne e.symm]
          · intro job hjob
            rw [jobs_resume, Table.find?_insert_self] at hjob
            cases hjob
            refine ⟨task, by rw [History.task?_began, if_pos rfl], ?_⟩
            cases task <;> exact ⟨rfl, ih.idle id hfree⟩
          · exact fun _ => ih.idle id hfree
      | flushLoop slot => cases hbegin
      | refreshLoop => cases hbegin
  | steps run hstep ih =>
      exact ((stepped_of_step hstep).coherent ih).of_tasks fun _ => rfl

end Manager

end GatewayAuth
