import GatewayAuth.Proofs.Dispatch.Returns

/-!
# `GatewayAuth.Proofs.Dispatch.Completion` — every authorization comes back

An authorization waits for another one only while that builds the backend for its destination. If it begins when none
is in progress, it comes back by steps of its own, with an answer, whatever it is told by builders and backends, and
whether or not there are buffered backends, or a shutdown has begun.

## Contents
- `Result.IsAnswer`: what an authorization comes to.
- `Called.of_calling`, `Called.of_opening`, `Called.of_acquiring`, `Called.of_preparing`: the steps of an authorization
  from some of its phases.
- `returns_of_opening`, `returns_of_authorizing`, `returns_of_acquiring`, `returns_of_preparing`: an authorization
  comes back from each of its phases.
- `registry_of_run`: what the registry of a manager has in every run.
- `AllAnswered.unclaimed`: nobody is in the way of an authorization if no other one is in progress.
- `Responsive`, `responsive_new`: so authorizations come back, one after the other.
-/

namespace GatewayAuth.Manager

/-- What an authorization comes to. -/
def Result.IsAnswer (result : Result) : Prop := ∃ answer, result = .answered answer

variable {m : Manager} {h : Past} {now id slot : Nat} {d : String} {wire : Wire.Request} {input : Input}
  {p : Progress Manager Result Event}

/-! ## Direct calls -/

/-- A step of a call whose direct call is on its way. -/
theorem Called.of_calling (step : Called m now id input p) (hjob : m.jobs.find? id = some (.calling d wire)) :
    ∃ told, input = .answered told ∧
      p = .done { m with jobs := m.jobs.erase id } (.answered (AuthResponse.ofCall told)) := by
  cases step with
  | called => exact ⟨_, rfl, rfl⟩
  | fetched hjob' step =>
      rw [hjob] at hjob'
      cases hjob'
      cases step
  | waited hjob' hat =>
      rw [hjob] at hjob'
      cases hjob'
      cases hat
  | _ => simp_all only [Option.some.injEq, reduceCtorEq]

/-- A step of a call whose direct client is being built. -/
theorem Called.of_opening (step : Called m now id input p) (hjob : m.jobs.find? id = some (.opening d wire)) :
    input = .built (.ok ()) ∧ p = .quiet (m.resume id (.calling d wire)) ∨
      ∃ e, input = .built (.error e) ∧
        p = .done { m with jobs := m.jobs.erase id } (.answered (.error e)) := by
  cases step with
  | opened hjob' =>
      rw [hjob] at hjob'
      cases hjob'
      exact .inl ⟨rfl, rfl⟩
  | notOpened => exact .inr ⟨_, rfl, rfl⟩
  | fetched hjob' step =>
      rw [hjob] at hjob'
      cases hjob'
      cases step
  | waited hjob' hat =>
      rw [hjob] at hjob'
      cases hjob'
      cases hat
  | _ => simp_all only [Option.some.injEq, reduceCtorEq]

theorem want_of_calling (hjob : m.jobs.find? id = some (.calling d wire)) :
    m.want (.call id) = .reply (.authrep d wire) := by
  unfold want
  simp only [hjob]

theorem want_of_opening (hjob : m.jobs.find? id = some (.opening d wire)) :
    m.want (.call id) = .client (.direct d) := by
  unfold want
  simp only [hjob]

theorem returns_of_calling (hjob : m.jobs.find? id = some (.calling d wire)) :
    m.Returns id Result.IsAnswer := by
  have hwant := want_of_calling hjob
  refine .of_called ?waits ?takes ?leads
  case waits =>
    rw [hwant]
    intro hnothing
    cases hnothing
  case takes =>
    intro now input hallows
    rw [hwant] at hallows
    simp only [step, hjob]
    cases input with
    | answered told => exact ⟨_, rfl⟩
    | _ => cases hallows
  case leads =>
    intro now input p step
    obtain ⟨told, rfl, rfl⟩ := step.of_calling hjob
    exact .inl ⟨_, rfl, _, rfl⟩

theorem returns_of_opening (hjob : m.jobs.find? id = some (.opening d wire)) :
    m.Returns id Result.IsAnswer := by
  have hwant := want_of_opening hjob
  refine .of_called ?waits ?takes ?leads
  case waits =>
    rw [hwant]
    intro hnothing
    cases hnothing
  case takes =>
    intro now input hallows
    rw [hwant] at hallows
    simp only [step, hjob]
    cases input with
    | built result => cases result <;> exact ⟨_, rfl⟩
    | _ => cases hallows
  case leads =>
    intro now input p step
    rcases step.of_opening hjob with ⟨rfl, rfl⟩ | ⟨e, rfl, rfl⟩
    · exact .inr ⟨rfl, returns_of_calling (Table.find?_insert_self _ _ _)⟩
    · exact .inl ⟨_, rfl, _, rfl⟩

/-! ## Buffered backends -/

theorem ReturnsWith.isAnswer {answer : Except AuthorizerError AuthResponse}
    (h : m.ReturnsWith id (.answered answer)) : m.Returns id Result.IsAnswer :=
  h.imp fun _ heq => ⟨answer, heq⟩

/-- An authorization at its buffered backend waits for an answer, or has one. -/
theorem returns_of_authorizing (hc : Coherent h m)
    (hjob : m.jobs.find? id = some (.authorizing slot)) : m.Returns id Result.IsAnswer := by
  obtain ⟨task, -, d, wire, -, s, work, hs, -, husing, hwork, hserves⟩ := hc.fits id _ hjob
  refine .of_called ?waits ?takes ?leads
  case waits =>
    rw [hc.want_of_job hs hwork]
    exact BufferedBackend.want_ne_nothing hwork
  case takes =>
    intro now input hallows
    refine exists_step_of_atWork (afterAuthorize id slot) hc hs hwork ?_ ?_ hallows
    · simp only [step, hjob, stepAuthorize]
    · intro r q result stepped hlast
      rcases stepped.settles hwork hserves with
        ⟨told, -, -, -, hresult | ⟨more, -⟩⟩ | ⟨-, answer, -, hresult⟩
      · rw [hresult] at hlast
        cases hlast
        exact ⟨_, rfl⟩
      · rw [hlast] at more
        cases more
      · rw [hresult] at hlast
        cases hlast
        exact ⟨_, rfl⟩
  case leads =>
    intro now input p step
    have hc' := step.coherent hc
    obtain ⟨r, q, hr, called, ⟨more, rfl⟩ | ⟨answer, -, hmore, hjob'⟩⟩ := step.of_authorizing hjob
    · -- it has been told its answer, and is about to record its usage
      rw [backends_of_registry hr] at husing hs
      obtain ⟨q', stepped, hslots, hresult', -⟩ := called.works husing hs
      rw [more] at hresult'
      have hs' : q.state.slots[slot]? = some { s with backend := q'.state } := by
        rw [hslots]
        exact List.getElem?_set_self (List.getElem?_eq_some_iff.1 hs).1
      have hgoes := Option.map_eq_none_iff.1 hresult'.symm
      rcases stepped.settles hwork hserves with
        ⟨told, -, -, -, hresult | ⟨-, job', hwork', hanswer⟩⟩ | ⟨-, answer, -, hresult⟩
      · rw [hresult] at hgoes
        cases hgoes
      · have hjob' : ({ m with registry := some q.state } : Manager).jobs.find? id =
            some (.authorizing slot) := hjob
        have hanswer' := answer?_of_authorizing hjob' hs' hwork'
        rw [hanswer] at hanswer'
        exact .inr ⟨rfl, (returns_of_answer hc' hanswer').isAnswer⟩
      · rw [hresult] at hgoes
        cases hgoes
    · exact .inr ⟨hmore, (returns_of_rechecking hc' hjob').isAnswer⟩

/-- A step of a call that acquires its backend. -/
theorem Called.of_acquiring (step : Called m now id input p)
    (hjob : m.jobs.find? id = some (.acquiring d wire)) :
    ∃ r q, m.registry = some r ∧ Registry.Called r now (.call id) input q ∧ p.result? = none ∧
      (q.result? = none ∧ p.state = { m with registry := some q.state } ∨
        (∃ slot, p.state.jobs.find? id = some (.authorizing slot)) ∨
          p.state.jobs.find? id = some (.opening d wire)) := by
  cases step with
  | waited hjob' hat hr work more => exact ⟨_, _, hr, work, rfl, .inl ⟨more, rfl⟩⟩
  | acquired hjob' hr work =>
      exact ⟨_, _, hr, work, rfl, .inr (.inl ⟨_, Table.find?_insert_self _ _ _⟩)⟩
  | notAcquired hjob' hr work =>
      rw [hjob] at hjob'
      cases hjob'
      exact ⟨_, _, hr, work, rfl, .inr (.inr (Table.find?_insert_self _ _ _))⟩
  | fetched hjob' step =>
      rw [hjob] at hjob'
      cases hjob'
      cases step
  | _ => simp_all only [Option.some.injEq, reduceCtorEq]

/-- **An authorization that acquires its backend comes back** if nobody is in its way, by induction on the phases that
the acquisition has before it. -/
theorem returns_of_acquiring (n : Nat) : ∀ {m : Manager} {r : Registry} {job : RegistryJob},
    Coherent h m → m.jobs.find? id = some (.acquiring d wire) → m.registry = some r →
    r.jobs.find? (.call id) = some job → r.Clear d job → job.phasesLeft = n →
      m.Returns id Result.IsAnswer := by
  induction n using Nat.strongRecOn with
  | ind n ih =>
      intro m r job hc hjob hr hmine hclear hn
      have hwant := want_of_isAtRegistry hjob rfl hr
      refine .of_called ?waits ?takes ?leads
      case waits =>
        rw [hwant]
        exact Registry.want_ne_nothing_of_clear hmine hclear
      case takes =>
        intro now input hallows
        rw [hwant] at hallows
        obtain ⟨q, hq⟩ := Registry.exists_step_of_clear now hmine hclear hallows
        have called := Registry.called_of_stepCall (show r.stepCall now (.call id) input = some q from hq)
        refine exists_step_of_registry (afterAcquire id d wire) hr ?_ hq ?_
        · simp only [step, hjob, stepAuthorize]
        · intro result hresult
          obtain ⟨acquired, rfl⟩ := called.acquired_of_clear hmine hclear hresult
          cases acquired with
          | error e => exact ⟨_, rfl⟩
          | ok slot =>
              -- the call can start work at the slot that it has acquired
              obtain ⟨task, -, -, hworking⟩ := hc.fits id _ hjob
              have hsound := hc.sound
              rw [backends_of_registry hr] at hsound hworking
              obtain ⟨s, hs, -⟩ := called.acquired_slot hsound hworking hresult
              obtain ⟨r', hbegin⟩ := Registry.exists_begin?_use (called.sound hsound)
                (called.idle hresult) hs (.authorize wire)
              unfold afterAcquire withRegistry
              simp only [hbegin]
              exact ⟨_, rfl⟩
      case leads =>
        intro now input p step
        have hc' := step.coherent hc
        obtain ⟨r', q, hr', called, hmore, hcases⟩ := step.of_acquiring hjob
        rw [hr] at hr'
        cases hr'
        refine .inr ⟨hmore, ?_⟩
        -- it is in a later phase of the acquisition, or has come to a slot, or does without one
        rcases hcases with ⟨more, hstate⟩ | ⟨slot, hjob'⟩ | hjob'
        · obtain ⟨job', hmine', hclear', hlt⟩ := called.clear hmine hclear more
          rw [hstate] at hc' ⊢
          exact ih _ (hn ▸ hlt) hc' hjob rfl hmine' hclear' rfl
        · exact returns_of_authorizing hc' hjob'
        · exact returns_of_opening hjob'

/-! ## Authorizations that begin -/

/-- A step of an authorization that begins. -/
theorem Called.of_preparing {request : AuthRequest} (step : Called m now id input p)
    (hjob : m.jobs.find? id = some (.preparing d request)) :
    input = .turn ∧
      ((∃ e, request.toWire = .error e ∧
          p = .done { m with jobs := m.jobs.erase id } (.answered (.error e))) ∨
        (∃ wire, request.toWire = .ok wire ∧ m.registry = none ∧ p = .quiet (m.resume id (.opening d wire))) ∨
          ∃ wire r, request.toWire = .ok wire ∧ m.registry = some r ∧
            p = .quiet (({ m with registry := some (r.resume (.call id) (.checking d)) } : Manager).resume id
              (.acquiring d wire))) := by
  cases step with
  | malformed hjob' hwire =>
      rw [hjob] at hjob'
      cases hjob'
      exact ⟨rfl, .inl ⟨_, hwire, rfl⟩⟩
  | goesDirect hjob' hwire hr =>
      rw [hjob] at hjob'
      cases hjob'
      exact ⟨rfl, .inr (.inl ⟨_, hwire, hr, rfl⟩)⟩
  | acquires hjob' hwire hr free began =>
      rw [hjob] at hjob'
      cases hjob'
      cases began
      exact ⟨rfl, .inr (.inr ⟨_, _, hwire, hr, rfl⟩)⟩
  | fetched hjob' step =>
      rw [hjob] at hjob'
      cases hjob'
      cases step
  | waited hjob' hat =>
      rw [hjob] at hjob'
      cases hjob'
      cases hat
  | _ => simp_all only [Option.some.injEq, reduceCtorEq]

theorem want_of_preparing {request : AuthRequest} (hjob : m.jobs.find? id = some (.preparing d request)) :
    m.want (.call id) = .turn := by
  unfold want
  simp only [hjob]

/-- **An authorization that begins comes back** if nobody has claimed the cell of its destination. -/
theorem returns_of_preparing {request : AuthRequest} (hc : Coherent h m)
    (hjob : m.jobs.find? id = some (.preparing d request)) (hfree : m.backends.Unclaimed d) :
    m.Returns id Result.IsAnswer := by
  obtain ⟨task, -, -, hidle⟩ := hc.fits id _ hjob
  have hwant := want_of_preparing hjob
  refine .of_called ?waits ?takes ?leads
  case waits =>
    rw [hwant]
    intro hnothing
    cases hnothing
  case takes =>
    intro now input hallows
    rw [hwant] at hallows
    cases input with
    | turn =>
        simp only [step, hjob, stepAuthorize]
        split
        · exact ⟨_, rfl⟩
        · split
          · next r hr =>
            rw [backends_of_registry hr] at hidle
            have hidle : r.jobs.find? (.call id) = none := hidle
            simp only [withRegistry, hr, Registry.begin?, Table.contains, hidle, Option.isSome_none,
              Bool.false_eq_true, if_false]
            exact ⟨_, rfl⟩
          · exact ⟨_, rfl⟩
    | _ => cases hallows
  case leads =>
    intro now input p step
    have hc' := step.coherent hc
    obtain ⟨-, ⟨e, -, rfl⟩ | ⟨wire, -, -, rfl⟩ | ⟨wire, r, -, hr, rfl⟩⟩ := step.of_preparing hjob
    · exact .inl ⟨_, rfl, _, rfl⟩
    · exact .inr ⟨rfl, returns_of_opening (Table.find?_insert_self _ _ _)⟩
    · rw [backends_of_registry hr] at hfree
      exact .inr ⟨rfl, returns_of_acquiring _ hc' (Table.find?_insert_self _ _ _) rfl
        (Table.find?_insert_self _ _ _) ⟨rfl, hfree⟩ rfl⟩

section
variable {start : Nat} {limits : Option CacheLimits} {settings : DispatchSettings}

/-- What a registry without backends has, and what all tasks and steps of registries keep, the registry of a manager has
in every run. -/
theorem registry_of_run {P : Registry → Prop} (run : Run system (.new start limits settings) h m)
    (hnew : ∀ policy flushEvery, P (.new policy flushEvery))
    (hbegan : ∀ {r r' : Registry} {id : Nat} {task : Registry.Task}, r.jobs.find? (.call id) = none →
      Registry.Began r (.call id) task r' → P r → P r')
    (hcalled : ∀ {r : Registry} {now id : Nat} {input : Input}
      {q : Progress Registry Registry.Result Registry.Event},
      Registry.Called r now (.call id) input q → P r → P q.state)
    (hlooped : ∀ {r : Registry} {now slot : Nat} {input : Input}
      {q : Progress Registry Registry.Result Registry.Event},
      Registry.Looped r now slot input q → P r → P q.state) : ∀ r, m.registry = some r → P r := by
  induction run with
  | start =>
      intro r hr
      unfold new at hr
      dsimp only at hr
      split at hr
      · cases hr
        exact hnew _ _
      · cases hr
  | @begins h m m' actor task run hbegin ih =>
      cases actor with
      | call id =>
          obtain ⟨-, rfl⟩ := eq_resume_of_begin? hbegin
          exact ih
      | flushLoop slot => cases hbegin
      | refreshLoop => cases hbegin
  | steps run hstep ih =>
      exact (stepped_of_step hstep).registry hbegan (fun _ work => hcalled work) hlooped ih

/-- The cells of the registry belong to those who build for them, and these are calls. -/
theorem assigned_of_run (run : Run system (.new start limits settings) h m) :
    ∀ r, m.registry = some r → r.Assigned ∧ r.LoopsIdle := by
  refine registry_of_run run ?_ ?_ ?_ ?_
  · exact fun policy flushEvery => ⟨Registry.assigned_new policy flushEvery, fun _ => rfl⟩
  · exact fun free began hr => ⟨began.assigned free hr.1, began.loopsIdle hr.2⟩
  · exact fun work hr => ⟨work.assigned hr.1, work.loopsIdle hr.2⟩
  · exact fun work hr => ⟨work.assigned hr.1, work.loopsIdle hr.2⟩

/-- Only an authorization builds a backend. -/
theorem Coherent.exists_of_building (hc : Coherent h m) {job : RegistryJob}
    (hjob : m.backends.jobs.find? (.call id) = some job) (hbuilding : job.IsBuilding d) :
    ∃ mine d request, m.jobs.find? id = some mine ∧
      h.task? (.call id) = some (.authorize d request) := by
  obtain ⟨mine, task, hmine, htask, hat, hfits⟩ := hc.fits_of_busy hjob
  cases mine with
  | acquiring d' wire =>
      obtain ⟨⟨request, rfl, -⟩, -⟩ := hfits
      exact ⟨_, d', request, hmine, htask⟩
  | authorizing slot | flushing slot answer =>
      obtain ⟨d', wire, ⟨request, rfl, -⟩, -⟩ := hfits
      exact ⟨_, d', request, hmine, htask⟩
  | drainingBackends =>
      obtain ⟨-, job', hjob', hserves⟩ := hfits
      rw [hjob] at hjob'
      cases hjob'
      cases job with
      | building | registering => cases hserves
      | _ => cases hbuilding
  | _ => cases hat

/-- So nobody has claimed a cell while no authorization is in progress. -/
theorem AllAnswered.unclaimed (hall : AllAnswered h m)
    (run : Run system (.new start limits settings) h m) (d : String) : m.backends.Unclaimed d := by
  intro owner hcell
  cases hr : m.registry with
  | none =>
      unfold backends at hcell
      rw [hr] at hcell
      cases hcell
  | some r =>
      obtain ⟨hassigned, hloops⟩ := assigned_of_run run r hr
      rw [← backends_of_registry hr] at hassigned hloops
      obtain ⟨job, hjob, hbuilding⟩ := (hassigned.claims d owner).1 hcell
      cases owner with
      | call id =>
          obtain ⟨mine, d', request, hmine, htask⟩ :=
            (coherent_of_run run).exists_of_building hjob hbuilding
          exact hall id mine d' request hmine htask
      | flushLoop slot =>
          rw [hloops slot] at hjob
          cases hjob
      | refreshLoop =>
          rw [hassigned.calls] at hjob
          cases hjob

/-- Authorizations come back: whenever none is in progress, one that begins comes back by steps of its own, with an
answer, whatever it is told where it waits. -/
def Responsive (s : Manager) : Prop :=
  ∀ h m, Run system s h m → AllAnswered h m → ∀ id d request m',
    m.begin? id (.authorize d request) = some m' → m'.Returns id Result.IsAnswer

/-- **Authorizations come back**, whatever the settings. -/
theorem responsive_new (start : Nat) (limits : Option CacheLimits) (settings : DispatchSettings) :
    Responsive (.new start limits settings) := by
  intro h m run hall id d request m' hbegin
  have hfree := hall.unclaimed run d
  have run' : Run system (.new start limits settings) (.began (.call id) (.authorize d request) :: h) m' :=
    .begins run hbegin
  obtain ⟨-, rfl⟩ := eq_resume_of_begin? hbegin
  exact returns_of_preparing (coherent_of_run run') (Table.find?_insert_self _ _ _) hfree

end

end GatewayAuth.Manager
