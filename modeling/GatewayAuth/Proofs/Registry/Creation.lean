import GatewayAuth.Proofs.Registry.Cells

/-!
# `GatewayAuth.Proofs.Registry.Creation` — one backend and one flush loop for each destination

A cell is filled in the step in which the flush loop of its backend is started, and what is handed out is what is in the
cell (`Kept.handed`), so that everyone is handed the same backend. A build that fails leaves the cell vacant, for any
call to start again. Once a shutdown has taken the handles, neither goes on: a call that comes is refused at its first
look at the registry.

## Contents
- `Kept`: what holds of a registry and its past at all times; `kept_of_run`.
- `creation`, `Creatable`: how a call creates a backend, and where it can.
- `Refusing`: what holds once the handles are taken; `refusing_of_run`.
- `CreatedOnce`: all of this of one run; `createdOnce_of_run`.
-/

namespace GatewayAuth

/-- Whether a flush loop is started at this moment. -/
def Moment.starts : Moment Registry Registry.Task Registry.Result Registry.Event → Bool
  | .began _ _ => false
  | .stepped r _ _ _ p => r.slots.length < p.state.slots.length

namespace Registry

variable {r r' : Registry} {now id : Nat} {actor : Actor} {input : Input} {d : String}
  {p : Progress Registry Result Event} {h past : Past} {policy : FailurePolicy} {flushEvery : Nat}

/-- Every slot that is new has its loop started with it, one at a time. -/
theorem CellsMoved.starts (h : CellsMoved r p.state)
    (hstarts : past.countP Moment.starts = r.slots.length) :
    List.countP Moment.starts (.stepped r now actor input p :: past) = p.state.slots.length := by
  rw [List.countP_cons, hstarts]
  cases h with
  | kept hcells hslots | changed hcells hcell hnot hslots =>
      rw [hslots, Moment.starts, decide_eq_false (by omega)]
      rfl
  | filled hcells hnot hhandles hslots =>
      rw [Moment.starts, decide_eq_true (by omega), hslots]
      rfl

/-! ## What is handed out -/

/-- A backend that a call is handed is the one in the cell of the destination that the call asks for. -/
theorem Called.filled_of_acquired {slot : Nat} (h : Called r now actor input p)
    (hserves : ∀ job, r.jobs.find? actor = some job → job.Serves (.acquire d))
    (hresult : p.result? = some (.acquired (.ok slot))) :
    p.state.cells.find? d = some (.filled slot) := by
  cases h with
  | found job cell =>
      cases hresult
      cases hserves _ job
      exact cell
  | opened job hhandles =>
      cases hresult
      cases hserves _ job
      exact Table.find?_insert_self _ _ _
  | _ => cases hresult

/-- A shutdown comes back to a registry whose handles have been taken, by itself or by another. -/
theorem Called.taken_of_stopped (h : Called r now actor input p) (hr : r.Sound)
    (hresult : p.result? = some .stopped) : r.handles = none := by
  cases h with
  | tookNothing job closed => exact closed
  | joined job exited =>
      obtain ⟨stop, -⟩ := hr.jobs _ _ job
      exact hr.taken stop
  | _ => cases hresult

/-- What holds of a registry and its past at all times. -/
structure Kept (h : Past) (r : Registry) : Prop where
  sound : r.Sound
  assigned : r.Assigned
  /-- A call is at work on the task that it was given. -/
  served : ∀ actor job task, r.jobs.find? actor = some job → h.task? actor = some task →
    job.Serves task
  size : r.size = r.slots.length
  starts : h.countP Moment.starts = r.slots.length
  handed : ∀ d i, (.acquire d, .acquired (.ok i)) ∈ h.outcomes → r.cells.find? d = some (.filled i)
  taken : (.shutdown, .stopped) ∈ h.outcomes → r.handles = none

theorem kept_new (policy : FailurePolicy) (flushEvery : Nat) : Kept [] (new policy flushEvery) where
  sound := sound_new policy flushEvery
  assigned := assigned_new policy flushEvery
  served := fun _ _ _ _ htask => by cases htask
  size := rfl
  starts := rfl
  handed := fun _ _ hmem => by cases hmem
  taken := fun hmem => by cases hmem

theorem Kept.began {task : Task} (hk : Kept h r) (free : r.jobs.find? (.call id) = none)
    (began : Began r (.call id) task r') : Kept (.began (.call id) task :: h) r' where
  sound := began.sound free hk.sound
  assigned := began.assigned free hk.assigned
  served := by
    intro actor job task' hjob htask
    rw [History.task?_began] at htask
    by_cases hactor : Actor.call id = actor
    · subst hactor
      rw [if_pos rfl] at htask
      cases htask
      obtain ⟨job', hjob', hserves⟩ := began.serves
      rw [hjob] at hjob'
      cases hjob'
      exact hserves
    · rw [if_neg hactor] at htask
      rw [began.others (Ne.symm hactor)] at hjob
      exact hk.served actor job task' hjob htask
  size := began.cells.size hk.size
  starts := by
    have hlength : r'.slots.length = r.slots.length := by
      cases began with
      | use work hslot free => exact List.length_set
      | acquire | shutdown => rfl
    rw [hlength, ← hk.starts]
    exact List.countP_cons_of_neg nofun
  handed := fun d i hmem => began.cells.find? (hk.handed d i hmem)
  taken := fun hmem => began.handles.trans (hk.taken hmem)

/-- The calls on a registry stay at work on the tasks that they were given. -/
theorem Stepped.served (step : Stepped r now actor input p)
    (hserved : ∀ actor job task, r.jobs.find? actor = some job → h.task? actor = some task →
      job.Serves task) (other : Actor) (job : RegistryJob) (task : Task)
    (hjob : p.state.jobs.find? other = some job) (htask : h.task? other = some task) :
    job.Serves task := by
  cases step with
  | looped step =>
      rw [step.jobs] at hjob
      exact hserved other job task hjob htask
  | @called id input p step =>
      by_cases hother : other = .call id
      · subst hother
        obtain ⟨job₀, hjob₀⟩ := step.has_job
        cases hresult : p.result? with
        | none =>
            obtain ⟨job', hjob', hserves⟩ :=
              step.goes_on hresult hjob₀ (hserved _ _ _ hjob₀ htask)
            rw [hjob] at hjob'
            cases hjob'
            exact hserves
        | some result =>
            rw [step.ends hresult] at hjob
            cases hjob
      · rw [step.others hother] at hjob
        exact hserved other job task hjob htask

theorem Kept.stepped (hk : Kept h r) (step : Stepped r now actor input p) :
    Kept (.stepped r now actor input p :: h) p.state where
  sound := step.sound hk.sound
  assigned := step.assigned hk.assigned
  served := step.served hk.served
  size := (step.cells hk.assigned).size hk.size
  starts := (step.cells hk.assigned).starts hk.starts
  handed := by
    intro d i hmem
    rcases History.mem_or_completed hmem with hold | ⟨hresult, htask⟩
    · exact (step.cells hk.assigned).find? (hk.handed d i hold)
    · cases step with
      | looped step => cases step <;> cases hresult
      | called step =>
          exact step.filled_of_acquired (fun job hjob => hk.served _ job _ hjob htask) hresult
  taken := by
    intro hmem
    have hbefore : r.handles = none := by
      rcases History.mem_outcomes_stepped hmem with hold | hresult
      · exact hk.taken hold
      · cases step with
        | looped step => cases step <;> cases hresult
        | called step => exact step.taken_of_stopped hk.sound hresult
    cases step with
    | looped step => exact step.handles.trans hbefore
    | called step => exact step.handles_of_none hbefore

theorem kept_of_run (run : Run system (.new policy flushEvery) h r) : Kept h r := by
  induction run with
  | start => exact kept_new policy flushEvery
  | @begins h r r' actor task run hbegin ih =>
      cases actor with
      | call id =>
          obtain ⟨free, began⟩ := began_of_begin? hbegin
          exact ih.began free began
      | flushLoop slot => cases hbegin
      | refreshLoop => cases hbegin
  | steps run hstep ih => exact ih.stepped (stepped_of_step hstep ih.assigned.calls)

/-! ## How a backend comes about -/

/-- A call acquires the backend for a destination, and builds it. -/
def creation (now id : Nat) (d : String) : List (Move Task) :=
  [.begin (.call id) (.acquire d), .step now (.call id) .turn, .step now (.call id) .turn,
    .step now (.call id) .turn, .step now (.call id) (.built (.ok ())), .step now (.call id) .turn]

/-- Until the handles are taken, any call can create the backend for a destination. -/
def Creatable (r : Registry) (d : String) : Prop :=
  r.handles ≠ none → ∀ now id, r.jobs.find? (.call id) = none →
    (system.play r (creation now id d)).1.outcomes = [(.acquire d, .acquired (.ok r.slots.length))]

/-- A destination whose cell is vacant, or that has none yet, is open to creation. -/
theorem creatable_of_unfilled (hcell : r.cells.find? d = none ∨ r.cells.find? d = some .vacant) :
    r.Creatable d := by
  intro hhandles now id free
  obtain ⟨handles, hhandles⟩ := Option.ne_none_iff_exists'.1 hhandles
  rcases hcell with hcell | hcell <;>
    simp [creation, System.play, System.playFrom, system, begin?, step, stepCall, free, hhandles, hcell,
      Table.contains, resume, setCell, Progress.quiet, Progress.done, History.outcomes]

/-- A build that fails leaves the registry as it is and its destination open to creation. -/
theorem Called.of_buildFailed {e : AuthorizerError}
    (h : Called r now actor (.built (.error e)) p) :
    ∃ d, r.jobs.find? actor = some (.building d) ∧
      p.result? = some (.acquired (.error (creationError d e))) ∧ p.state.slots = r.slots ∧
      p.state.handles = r.handles ∧ p.state.Creatable d := by
  cases h with
  | @buildFailed d _ job =>
      refine ⟨d, job, rfl, rfl, rfl, creatable_of_unfilled (.inr ?_)⟩
      exact Table.find?_insert_self _ _ _
  | worked job hslot work more => cases work
  | used job hslot work last => cases work

/-! ## What a shutdown leaves of it -/

/-- What holds since the handles have been taken: calls that come now get no further than to the first look at the
registry. -/
structure Refusing (since : Past) (r : Registry) : Prop where
  taken : r.handles = none
  calls : ∀ actor d job, since.task? actor = some (.acquire d) → r.jobs.find? actor = some job →
    job = .checking d
  refused : ∀ d result, (.acquire d, result) ∈ since.outcomes →
    result = .acquired (.error (shuttingDown d))

theorem Refusing.began {task : Task} (hf : Refusing h r) (began : Began r (.call id) task r') :
    Refusing (.began (.call id) task :: h) r' where
  taken := began.handles.trans hf.taken
  calls := by
    intro actor d job htask hjob
    rw [History.task?_began] at htask
    by_cases hactor : Actor.call id = actor
    · subst hactor
      rw [if_pos rfl] at htask
      cases htask
      cases began with
      | acquire d =>
          rw [jobs_resume, Table.find?_insert_self] at hjob
          cases hjob
          rfl
    · rw [if_neg hactor] at htask
      rw [began.others (Ne.symm hactor)] at hjob
      exact hf.calls actor d job htask hjob
  refused := hf.refused

/-- The first look at a registry without handles ends a call. -/
theorem Called.of_checking (h : Called r now actor input p)
    (hjob : r.jobs.find? actor = some (.checking d)) (taken : r.handles = none) :
    p.result? = some (.acquired (.error (shuttingDown d))) := by
  cases h with
  | turnedAway job closed =>
      rw [hjob] at job
      cases job
      rfl
  | checked job opened => rw [taken] at opened; cases opened
  | _ =>
      have job := ‹r.jobs.find? actor = some _›
      rw [hjob] at job
      cases job

theorem Refusing.stepped (hf : Refusing h r) (step : Stepped r now actor input p) :
    Refusing (.stepped r now actor input p :: h) p.state := by
  cases step with
  | looped step =>
      refine ⟨step.handles.trans hf.taken, ?_, ?_⟩
      · intro actor d job htask hjob
        rw [step.jobs] at hjob
        exact hf.calls actor d job htask hjob
      · intro d result hmem
        rcases History.mem_or_completed hmem with hold | ⟨hresult, -⟩
        · exact hf.refused d result hold
        · cases step <;> cases hresult
  | @called id input p step =>
      -- a call that has come since is turned away by this very step
      have hends : ∀ d, h.task? (.call id) = some (.acquire d) →
          p.result? = some (.acquired (.error (shuttingDown d))) := by
        intro d htask
        obtain ⟨job, hjob⟩ := step.has_job
        cases hf.calls _ d job htask hjob
        exact step.of_checking hjob hf.taken
      refine ⟨step.handles_of_none hf.taken, ?_, ?_⟩
      · intro actor d job htask hjob
        by_cases hactor : actor = .call id
        · subst hactor
          rw [step.ends (hends d htask)] at hjob
          cases hjob
        · rw [step.others hactor] at hjob
          exact hf.calls actor d job htask hjob
      · intro d result hmem
        rcases History.mem_or_completed hmem with hold | ⟨hresult, htask⟩
        · exact hf.refused d result hold
        · rw [hends d htask] at hresult
          cases hresult
          rfl

/-- Without handles no slot is opened. -/
theorem CellsMoved.length_of_taken (h : CellsMoved r r') (taken : r.handles = none) :
    r'.slots.length = r.slots.length := by
  cases h with
  | kept hcells hslots => exact hslots
  | changed hcells hcell hnot hslots => exact hslots
  | filled hcells hnot hhandles hslots => rw [taken] at hhandles; cases hhandles

/-- **Once the handles are taken, all that comes is refused**, and no backend is created. -/
theorem refusing_of_run (run : Run system (.new policy flushEvery) past r)
    (taken : r.handles = none) (since : Run system r h r') :
    Refusing h r' ∧ r'.slots.length = r.slots.length := by
  induction since with
  | start =>
      refine ⟨⟨taken, ?_, ?_⟩, rfl⟩
      · intro actor d job htask
        cases htask
      · intro d result hmem
        cases hmem
  | @begins h r₁ r' actor task since hbegin ih =>
      cases actor with
      | call id =>
          obtain ⟨free, began⟩ := began_of_begin? hbegin
          exact ⟨ih.1.began began, (began.cells.length_of_taken ih.1.taken).trans ih.2⟩
      | flushLoop slot => cases hbegin
      | refreshLoop => cases hbegin
  | @steps h r₁ now actor input p since hstep ih =>
      have ha := (kept_of_run (run.trans since)).assigned
      have step := stepped_of_step hstep ha.calls
      exact ⟨ih.1.stepped step, ((step.cells ha).length_of_taken ih.1.taken).trans ih.2⟩

/-! ## Single creation -/

/-- What is true of backends and of their creation, of a registry `r` with the past `h`. -/
structure CreatedOnce (h : Past) (r : Registry) : Prop where
  /-- What has been handed out for a destination is a backend for it. -/
  handed : ∀ d i, (.acquire d, .acquired (.ok i)) ∈ h.outcomes →
    ∃ s, r.slots[i]? = some s ∧ s.backend.destination = d
  /-- Everyone is handed the same one. -/
  same : ∀ d i j, (.acquire d, .acquired (.ok i)) ∈ h.outcomes →
    (.acquire d, .acquired (.ok j)) ∈ h.outcomes → i = j
  /-- As many loops have been started as cells are filled. -/
  loops : h.countP Moment.starts = r.size ∧ r.slots.length = r.size
  /-- No two loops serve one destination. -/
  distinct : ∀ (i j : Nat) (s s' : Slot), r.slots[i]? = some s → r.slots[j]? = some s' →
    s.backend.destination = s'.backend.destination → i = j
  /-- A build that fails is an error for its call, changes neither loops nor handles, and leaves its destination open
  to creation. -/
  failed : ∀ before now id e p, .stepped before now (.call id) (.built (.error e)) p ∈ h →
    ∃ d, before.jobs.find? (.call id) = some (.building d) ∧
      p.result? = some (.acquired (.error (creationError d e))) ∧ p.state.slots = before.slots ∧
      p.state.handles = before.handles ∧ p.state.Creatable d
  /-- So is every destination that has no backend and for which none is being built. -/
  creatable : ∀ d, (∀ i, r.cells.find? d ≠ some (.filled i)) → (∀ actor, ¬ r.Builds actor d) →
    r.Creatable d
  /-- A shutdown that comes back finds the handles taken. -/
  taken : (.shutdown, .stopped) ∈ h.outcomes → r.handles = none
  /-- Once they are, nothing is created any more, every call that comes is refused, and none of them waits for that. -/
  refused : r.handles = none → ∀ since r', Run system r since r' →
    r'.slots.length = r.slots.length ∧ r'.size = r.size ∧
    (∀ d result, (.acquire d, result) ∈ since.outcomes →
      result = .acquired (.error (shuttingDown d))) ∧
    ∀ id d, since.task? (.call id) = some (.acquire d) → r'.jobs.find? (.call id) ≠ none →
      ∀ now, ∃ p, system.step r' now (.call id) .turn = some p ∧
        p.result? = some (.acquired (.error (shuttingDown d)))

theorem createdOnce_of_run (run : Run system (.new policy flushEvery) h r) : CreatedOnce h r := by
  have hk := kept_of_run run
  constructor
  case handed => exact fun d i hmem => hk.sound.cells d i (hk.handed d i hmem)
  case same =>
    intro d i j hi hj
    have hcell := hk.handed d i hi
    rw [hk.handed d j hj] at hcell
    cases hcell
    rfl
  case loops => exact ⟨hk.starts.trans hk.size.symm, hk.size.symm⟩
  case distinct =>
    -- the cell of the destination holds both of them
    intro i j s s' hs hs' hd
    have hcell := hk.assigned.slots i s hs
    rw [hd, hk.assigned.slots j s' hs'] at hcell
    cases hcell
    rfl
  case failed =>
    intro before now id e p hmem
    obtain ⟨past, run, hstep⟩ := run.of_mem hmem
    have step : Stepped before now (.call id) (.built (.error e)) p :=
      stepped_of_step hstep (kept_of_run run).assigned.calls
    cases step with
    | called step => exact step.of_buildFailed
  case creatable =>
    intro d hfilled hbuilds
    apply creatable_of_unfilled
    cases hcell : r.cells.find? d with
    | none => exact .inl rfl
    | some cell =>
        cases cell with
        | vacant => exact .inr rfl
        | claimed actor => exact absurd ((hk.assigned.claims d actor).1 hcell) (hbuilds actor)
        | filled i => exact absurd hcell (hfilled i)
  case taken => exact hk.taken
  case refused =>
    intro taken since r' run'
    obtain ⟨hrefusing, hlength⟩ := refusing_of_run run taken run'
    have hk' := kept_of_run (run.trans run')
    refine ⟨hlength, ?_, hrefusing.refused, ?_⟩
    · rw [hk'.size, hlength, hk.size]
    · intro id d htask hjob now
      obtain ⟨job, hjob⟩ := Option.ne_none_iff_exists'.1 hjob
      cases hrefusing.calls _ d job htask hjob
      refine ⟨.done (r'.release (.call id)) (.acquired (.error (shuttingDown d))), ?_, rfl⟩
      simp only [system, step, stepCall, hjob, hrefusing.taken]

/-- Two calls want the backend for one destination; the build of the first fails, so that the second builds it, and a
third is handed the same. There is one for another destination when a shutdown comes, and a late call is refused. -/
def contended : List (Move Task) :=
  [.begin (.call 0) (.acquire "a"), .begin (.call 1) (.acquire "a"),
    .step 0 (.call 0) .turn, .step 0 (.call 1) .turn, .step 0 (.call 0) .turn, .step 0 (.call 1) .turn,
    .step 0 (.call 0) .turn, .step 1 (.call 0) (.built (.error (.clientBuild "a" "no client"))),
    .step 1 (.call 1) .turn, .step 2 (.call 1) (.built (.ok ())), .step 2 (.call 1) .turn,
    .begin (.call 2) (.acquire "a"), .step 3 (.call 2) .turn, .step 3 (.call 2) .turn, .step 3 (.call 2) .turn] ++
  creation 4 3 "b" ++
  [.begin (.call 4) .shutdown, .step 5 (.call 4) .turn, .begin (.call 5) (.acquire "c"), .step 5 (.call 5) .turn]

/-- The backend in a result. -/
def Result.slot? : Result → Option Nat
  | .acquired (.ok slot) => some slot
  | _ => none

theorem createdOnce_contended :
    let run := system.play (.new .closed 1000) contended
    run.1.outcomes.map (fun o => (o.1, o.2.slot?)) =
        [(.acquire "c", none), (.acquire "b", some 1), (.acquire "a", some 0), (.acquire "a", some 0),
          (.acquire "a", none)] ∧
      run.2.handles = none ∧ run.2.size = 2 ∧ CreatedOnce run.1 run.2 := by
  refine ⟨by decide +kernel, by decide +kernel, by decide +kernel, ?_⟩
  exact createdOnce_of_run (system.run_play _ _)

end Registry

end GatewayAuth
