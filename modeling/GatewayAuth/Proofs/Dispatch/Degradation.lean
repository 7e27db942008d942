import GatewayAuth.Proofs.Dispatch.Fallback
import GatewayAuth.Proofs.Dispatch.Soundness

/-!
# `GatewayAuth.Proofs.Dispatch.Degradation` — authorizations degrade to direct calls

An authorization that cannot have a buffered backend reports this once and comes to what it would come to without
buffered backends. It leaves buffers and flush loops as they are, and for all others it might as well not have been
there: what they do, they could do without it, and the backend can be created after all.

## Contents
- `AsDirect`, `DirectOutcome.asDirect`: the same request without buffered backends.
- `Creatable`, `creatable_of_cell`: destinations that are open to creation.
- `Degrades`, `degrades_of_run`: what becomes of authorizations at a manager with buffered backends.
-/

namespace GatewayAuth

namespace Manager

variable {m m' : Manager} {h steps : Past} {now id slot : Nat} {actor : Actor} {input : Input}
  {p : Progress Manager Result Event} {d : String} {wire : Wire.Request} {request : AuthRequest}
  {job : ManagerJob}

/-! ## Steps that can be taken -/

theorem begin?_of_free (hfree : m.jobs.find? id = none) (task : Task) :
    system.begin? m (.call id) task = some (m.resume id task.job) := by
  show m.begin? id task = _
  unfold begin?
  simp only [Table.contains_eq_false_iff.2 hfree, Bool.false_eq_true, if_false]
  cases task <;> rfl

theorem step_of_preparing (hjob : m.jobs.find? id = some (.preparing d request))
    (hwire : request.toWire = .ok wire) (hr : m.registry = none) (now : Nat) :
    system.step m now (.call id) .turn = some (.quiet (m.resume id (.opening d wire))) := by
  simp only [system, step, hjob, stepAuthorize, hwire, hr, goOn]

theorem step_of_opening (hjob : m.jobs.find? id = some (.opening d wire)) (now : Nat) :
    system.step m now (.call id) (.built (.ok ())) = some (.quiet (m.resume id (.calling d wire))) := by
  simp only [system, step, hjob, stepAuthorize, goOn]

theorem step_of_notOpened (hjob : m.jobs.find? id = some (.opening d wire)) (now : Nat) (e : AuthorizerError) :
    system.step m now (.call id) (.built (.error e)) =
      some (.done { m with jobs := m.jobs.erase id } (.answered (.error e))) := by
  simp only [system, step, hjob, stepAuthorize, finish]

theorem step_of_calling (hjob : m.jobs.find? id = some (.calling d wire)) (now : Nat)
    (told : Except BackendError Wire.Response) : system.step m now (.call id) (.answered told) =
      some (.done { m with jobs := m.jobs.erase id } (.answered (AuthResponse.ofCall told))) := by
  simp only [system, step, hjob, stepAuthorize, finish]

/-- Only a call in progress takes steps. -/
theorem exists_job_of_step (hstep : system.step m now (.call id) input = some p) :
    ∃ job, m.jobs.find? id = some job := by
  have step : Stepped m now (.call id) input p := stepped_of_step hstep
  cases step with
  | called step => exact Option.ne_none_iff_exists'.1 step.has_job

/-! ## The same without buffered backends -/

/-- A manager without buffered backends that asks the same of the world outside for a request, and is told the same,
comes to the same. -/
structure AsDirect (d : String) (request : AuthRequest) (asked : List (Want × Input))
    (outcome : Except AuthorizerError AuthResponse) : Prop where
  /-- The outcome is the failure to build the direct client, or what the direct call has come to. -/
  direct : ∃ wire, request.toWire = .ok wire ∧ DirectOutcome d wire asked outcome
  /-- From any state on it can ask this, with this outcome. -/
  obtained : ∀ m id, m.registry = none → m.jobs.find? id = none → ∃ since m',
    Run system m since m' ∧ directly (since.path (.call id)) = asked ∧
      since.outcomes = [(.authorize d request, .answered outcome)]
  /-- In no run does it come to anything else. -/
  only : ∀ start limits settings h m now id input p result, settings.buffered = false →
    Run system (.new start limits settings) h m → h.task? (.call id) = some (.authorize d request) →
      system.step m now (.call id) input = some p → p.result? = some result →
        directly (.stepped m now (.call id) input p :: h.path (.call id)) = asked →
          result = .answered outcome

theorem DirectOutcome.obtained {asked : List (Want × Input)} {outcome : Except AuthorizerError AuthResponse}
    (direct : DirectOutcome d wire asked outcome) (hwire : request.toWire = .ok wire)
    (hr : m.registry = none) (hfree : m.jobs.find? id = none) : ∃ since m', Run system m since m' ∧
      directly (since.path (.call id)) = asked ∧
        since.outcomes = [(.authorize d request, .answered outcome)] := by
  let m₁ := m.resume id (.preparing d request)
  let m₂ := m₁.resume id (.opening d wire)
  have hbegin : system.begin? m (.call id) (.authorize d request) = some m₁ :=
    begin?_of_free hfree _
  have hjob₁ : m₁.jobs.find? id = some (.preparing d request) := Table.find?_insert_self _ _ _
  have hjob₂ : m₂.jobs.find? id = some (.opening d wire) := Table.find?_insert_self _ _ _
  have hprepared : system.step m₁ 0 (.call id) .turn = some (.quiet m₂) := step_of_preparing hjob₁ hwire hr 0
  have run₂ : Run system m
      [.stepped m₁ 0 (.call id) .turn (.quiet m₂), .began (.call id) (.authorize d request)] m₂ :=
    .steps (.begins .start hbegin) hprepared
  have hturn : (m₁.want (.call id)).isDirect = false := by
    rw [want_of_preparing hjob₁]
    rfl
  have hclient : system.want m₂ (.call id) = .client (.direct d) := want_of_opening hjob₂
  have htask : History.task? (.call id) ([.began (.call id) (.authorize d request)] : Past) =
      some (.authorize d request) := if_pos rfl
  cases direct with
  | notOpened e =>
      refine ⟨_, _, .steps run₂ (step_of_notOpened hjob₂ 0 e), ?_, ?_⟩
      · rw [History.path_stepped_self, History.path_stepped_self, History.path_began_self,
          directly_of_client hclient, directly_of_not hturn]
        rfl
      · exact History.outcomes_stepped_of_some rfl htask
  | called told =>
      let m₃ := m₂.resume id (.calling d wire)
      have hjob₃ : m₃.jobs.find? id = some (.calling d wire) := Table.find?_insert_self _ _ _
      have hreply : system.want m₃ (.call id) = .reply (.authrep d wire) := want_of_calling hjob₃
      have hopened : system.step m₂ 0 (.call id) (.built (.ok ())) = some (.quiet m₃) := step_of_opening hjob₂ 0
      have run₃ : Run system m (.stepped m₂ 0 (.call id) (.built (.ok ())) (.quiet m₃) :: _) m₃ :=
        .steps run₂ hopened
      refine ⟨_, _, .steps run₃ (step_of_calling hjob₃ 0 told), ?_, ?_⟩
      · rw [History.path_stepped_self, History.path_stepped_self, History.path_stepped_self,
          History.path_began_self, directly_of_reply hreply, directly_of_client hclient,
          directly_of_not hturn]
        rfl
      · exact History.outcomes_stepped_of_some rfl htask

/-- **What a direct call comes to is what it comes to without buffered backends.** -/
theorem DirectOutcome.asDirect {asked : List (Want × Input)} {outcome : Except AuthorizerError AuthResponse}
    (direct : DirectOutcome d wire asked outcome) (hwire : request.toWire = .ok wire) :
    AsDirect d request asked outcome := by
  refine ⟨⟨wire, hwire, direct⟩, fun m id hr hfree => direct.obtained hwire hr hfree, ?_⟩
  intro start limits settings h m now id input p result hdirect run htask hstep hresult hasked
  obtain ⟨job, hjob⟩ := exists_job_of_step hstep
  cases (sought_of_run run id d request job htask hjob).stepped run hstep hjob with
  | goesOn hmore => exact nomatch hmore.symm.trans hresult
  | ends hlast hgone completed =>
      rw [hresult] at hlast
      cases hlast
      cases completed with
      | malformed hwire' => exact nomatch hwire'.symm.trans hwire
      | served served =>
          -- it has asked for something directly
          rw [served.direct] at hasked
          subst hasked
          cases direct
      | direct hwire' turned direct' =>
          rw [hwire] at hwire'
          cases hwire'
          rw [hasked] at direct'
          rw [direct.unique direct']

/-! ## Creation after all -/

/-- Until a shutdown takes the handles of the flush loops, every call can come to a new backend for `d`. -/
def Creatable (m : Manager) (d : String) : Prop :=
  m.backends.handles ≠ none → ∀ id request, m.jobs.find? id = none → request.transactions ≠ [] →
    ∃ since m' slot, Run system m since m' ∧ since.task? (.call id) = some (.authorize d request) ∧
      m'.jobs.find? id = some (.authorizing slot) ∧ m'.backends.HasSlot slot d ∧
        m'.backendCount = m.backendCount + 1

theorem exists_toWire_of_transactions (hsome : request.transactions ≠ []) : ∃ wire, request.toWire = .ok wire := by
  unfold AuthRequest.toWire
  cases htransactions : request.transactions with
  | nil => exact absurd htransactions hsome
  | cons first rest => exact ⟨_, rfl⟩

/-- A call goes on with its acquisition as the registry does. -/
theorem step_of_acquiring {r r' : Registry} (hjob : m.jobs.find? id = some (.acquiring d wire))
    (hr : m.registry = some r) (hstep : r.step now (.call id) input = some (.quiet r')) :
    system.step m now (.call id) input = some (.quiet { m with registry := some r' }) := by
  simp only [system, step, hjob, stepAuthorize, stepRegistry, hr, hstep]
  rfl

/-- When the acquisition has come to a backend, the call can start work there. -/
theorem exists_step_of_acquired {r r' : Registry} {s : Slot} (hjob : m.jobs.find? id = some (.acquiring d wire))
    (hr : m.registry = some r) (hstep : r.step now (.call id) input = some (.done r' (.acquired (.ok slot))))
    (hslot : r'.slots[slot]? = some s) (hidle : r'.jobs.find? (.call id) = none)
    (hfree : s.backend.jobs.find? (.call id) = none) : ∃ r'', system.step m now (.call id) input =
        some (.quiet (({ m with registry := some r'' } : Manager).resume id (.authorizing slot))) ∧
      r''.HasSlot slot s.backend.destination ∧ r''.slots.length = r'.slots.length := by
  obtain ⟨r'', hbegin⟩ : ∃ r'', r'.begin? (.call id) (.use slot (.authorize wire)) = some r'' := by
    unfold Registry.begin? BufferedBackend.begin?
    simp only [Table.contains, hidle, hfree, hslot, Option.isSome_none, Bool.false_eq_true, if_false]
    exact ⟨_, rfl⟩
  obtain ⟨-, began⟩ := Registry.began_of_begin? hbegin
  refine ⟨r'', ?_, ?_, ?_⟩
  · simp only [system, step, hjob, stepAuthorize, stepRegistry, hr, hstep, Progress.done, afterAcquire, withRegistry,
      hbegin]
    rfl
  · obtain ⟨s', -, hs', hd, -⟩ := began.atWork ⟨s, hslot, rfl⟩
    exact ⟨s', hs', hd⟩
  · cases began with
    | use => exact List.length_set

section
variable {start : Nat} {limits : Option CacheLimits} {settings : DispatchSettings}

/-- **A destination that has no backend, and that nobody has claimed, is open to creation.** -/
theorem creatable_of_cell (run : Run system (.new start limits settings) h m)
    (hcell : m.backends.cells.find? d = none ∨ m.backends.cells.find? d = some .vacant) : m.Creatable d := by
  intro hhandles id request hfree hsome
  obtain ⟨handles, hhandles⟩ := Option.ne_none_iff_exists'.1 hhandles
  obtain ⟨wire, hwire⟩ := exists_toWire_of_transactions hsome
  obtain ⟨r, hr⟩ : ∃ r, m.registry = some r := by
    cases hr : m.registry with
    | none =>
        unfold backends at hhandles
        rw [hr] at hhandles
        cases hhandles
    | some r => exact ⟨r, rfl⟩
  have hidle := (coherent_of_run run).idle id hfree
  rw [backends_of_registry hr] at hhandles hcell hidle
  obtain ⟨r₁, r₂, r₃, r₄, r₅, h₁, h₂, h₃, h₄, h₅, hslots, hidle₅⟩ :=
    Registry.exists_creation hhandles hcell 0
  -- the manager when its registry has come to a state in which the call acquires its backend
  let acquiring (r' : Registry) : Manager :=
    ({ m.resume id (.preparing d request) with registry := some r' } : Manager).resume id (.acquiring d wire)
  have hjob : ∀ r', (acquiring r').jobs.find? id = some (.acquiring d wire) :=
    fun r' => Table.find?_insert_self _ _ _
  have hgoes : ∀ {r' r'' : Registry} {input : Input}, r'.step 0 (.call id) input = some (.quiet r'') →
      system.step (acquiring r') 0 (.call id) input = some (.quiet (acquiring r'')) :=
    fun hstep => step_of_acquiring (hjob _) rfl hstep
  have hbegin : system.begin? m (.call id) (.authorize d request) = some (m.resume id (.preparing d request)) :=
    begin?_of_free hfree _
  have hprepared : system.step (m.resume id (.preparing d request)) 0 (.call id) .turn =
      some (.quiet (acquiring (r.resume (.call id) (.checking d)))) := by
    have hfree : r.jobs.contains (.call id) = false := Table.contains_eq_false_iff.2 hidle
    have hr : (m.resume id (.preparing d request)).registry = some r := hr
    simp only [system, step, jobs_resume, Table.find?_insert_self, stepAuthorize, hwire, hr, withRegistry,
      Registry.begin?, hfree, Bool.false_eq_true, if_false]
    rfl
  have hslot₅ : r₅.slots[r.slots.length]? = some ⟨.new d r.policy, .idle (0 + r.flushEvery)⟩ := by
    rw [hslots]
    exact List.getElem?_concat_length
  obtain ⟨r₆, hacquired, hslot, hlength⟩ := exists_step_of_acquired (hjob r₄) rfl h₅ hslot₅ hidle₅ rfl
  have runs : Run system m _ (acquiring r₄) :=
    .steps (.steps (.steps (.steps (.steps (.begins .start hbegin) hprepared) (hgoes h₁)) (hgoes h₂)) (hgoes h₃))
      (hgoes h₄)
  have runs := Run.steps runs hacquired
  refine ⟨_, _, r.slots.length, runs, ?_, Table.find?_insert_self _ _ _, hslot, ?_⟩
  · exact if_pos rfl
  · rw [backendCount_eq (tidy_of_run run), backendCount_eq (tidy_of_run (run.trans runs)), backends_of_registry hr]
    refine hlength.trans ?_
    rw [hslots, List.length_append]
    rfl

theorem creatable_of_unclaimed (run : Run system (.new start limits settings) h m)
    (hfilled : ∀ slot, m.backends.cells.find? d ≠ some (.filled slot)) (hunclaimed : m.backends.Unclaimed d) :
    m.Creatable d := by
  refine creatable_of_cell run ?_
  cases hcell : m.backends.cells.find? d with
  | none => exact .inl rfl
  | some cell =>
      cases cell with
      | vacant => exact .inr rfl
      | claimed owner => exact absurd hcell (hunclaimed owner)
      | filled slot => exact absurd hcell (hfilled slot)

end

/-! ## Degradation -/

/-- How far an authorization has come towards a buffered backend for `d`. -/
inductive Course (d : String) (steps : Past) : Prop where
  | seeking (seeking : Seeking steps)
  | served (served : Served steps)
  | turned (turned : Turned d steps)

/-- What becomes of authorizations at a manager with buffered backends. -/
structure Degrades (start : Manager) (h : Past) (m : Manager) : Prop where
  /-- A request without transactions is turned away with its first step, which does nothing else. -/
  empty : ∀ id d request, h.task? (.call id) = some (.authorize d request) → m.jobs.find? id ≠ none →
    request.transactions = [] → h.path (.call id) = [] ∧ ∀ now input p,
      system.step m now (.call id) input = some p ↔ input = .turn ∧
        p = .done { m with jobs := m.jobs.erase id } (.answered (.error .emptyTransaction))
  /-- An authorization in progress has acquired nothing yet, or a backend, or has been turned away, with one report. -/
  course : ∀ id d request, h.task? (.call id) = some (.authorize d request) → m.jobs.find? id ≠ none →
    Course d (h.path (.call id))
  /-- Once it has been turned away, it comes back with an answer, whatever it is told. -/
  comesBack : ∀ id d request, h.task? (.call id) = some (.authorize d request) → m.jobs.find? id ≠ none →
    Turned d (h.path (.call id)) → m.Returns id Result.IsAnswer
  /-- An authorization that comes back has acquired a backend, or it has been turned away and comes to what it would
  come to without buffered backends, with a step that only takes it away. -/
  completes : ∀ id d request now input p result, h.task? (.call id) = some (.authorize d request) →
    request.transactions ≠ [] → system.step m now (.call id) input = some p → p.result? = some result →
      ∃ outcome, result = .answered outcome ∧
        (Served (.stepped m now (.call id) input p :: h.path (.call id)) ∨
          Turned d (.stepped m now (.call id) input p :: h.path (.call id)) ∧ p.state = m.without id ∧
            AsDirect d request (directly (.stepped m now (.call id) input p :: h.path (.call id))) outcome)
  /-- As long as it has not acquired a backend, all others have done what they could have done without it. -/
  unserved : ∀ id d request, h.task? (.call id) = some (.authorize d request) → m.jobs.find? id ≠ none →
    ¬ Served (h.path (.call id)) → Undone start id h m
  /-- Once it has been turned away, nothing but its direct call tells the manager, now or ever after, from one where all
  others have done the same and it has never been there. -/
  forgotten : ∀ id d request, h.task? (.call id) = some (.authorize d request) → m.jobs.find? id ≠ none →
    Turned d (h.path (.call id)) → ∃ h' m', Run system start h' m' ∧
      h'.map system.seen = (h.undo (.call id)).map system.seen ∧ SameFuture (m.without id) m'
  /-- Where it is turned away, the backend can be created after all, until a shutdown. -/
  reopens : ∀ id d request now input p e, h.task? (.call id) = some (.authorize d request) →
    system.step m now (.call id) input = some p →
      acquisition? (.stepped m now (.call id) input p) = some (.error e) → p.state.Creatable d
  /-- So it can wherever there is none, and nobody is building one. -/
  creatable : ∀ d, (∀ slot, m.backends.cells.find? d ≠ some (.filled slot)) → m.backends.Unclaimed d →
    m.Creatable d

theorem Sought.course {buffered : Bool} (sought : Sought buffered d request steps job)
    (hbuffered : buffered = true) : Course d steps := by
  cases sought with
  | preparing => exact .seeking ⟨rfl, rfl, rfl, fun _ hmem => nomatch hmem⟩
  | acquiring hwire seeking => exact .seeking seeking
  | served hwire hhas served => exact .served served
  | opening hwire turned => exact .turned (turned hbuffered)
  | calling hwire turned => exact .turned (turned hbuffered)

/-- An authorization without transactions never gets beyond its first phase. -/
theorem Sought.of_empty {buffered : Bool} (sought : Sought buffered d request steps job)
    (hempty : request.transactions = []) : steps = [] ∧ job = .preparing d request := by
  have hmalformed : ∀ wire, request.toWire ≠ .ok wire := by
    unfold AuthRequest.toWire
    rw [hempty]
    exact nofun
  cases sought with
  | preparing => exact ⟨rfl, rfl⟩
  | acquiring hwire | served hwire | opening hwire | calling hwire => exact absurd hwire (hmalformed _)

/-- Without a buffered backend an authorization is in a phase without one. -/
theorem Sought.isUnserved {buffered : Bool} (sought : Sought buffered d request steps job)
    (hnot : ¬ Served steps) : job.isUnserved = true := by
  cases sought with
  | served hwire hhas served => exact absurd served hnot
  | preparing | acquiring | opening | calling => rfl

/-- It takes one step, which turns it away. -/
theorem step_iff_of_empty (hjob : m.jobs.find? id = some (.preparing d request))
    (hempty : request.transactions = []) : system.step m now (.call id) input = some p ↔
      input = .turn ∧ p = .done { m with jobs := m.jobs.erase id } (.answered (.error .emptyTransaction)) := by
  have hwire : request.toWire = .error .emptyTransaction := by
    unfold AuthRequest.toWire
    rw [hempty]
  constructor
  · intro hstep
    have step : Stepped m now (.call id) input p := stepped_of_step hstep
    cases step with
    | called step =>
        obtain ⟨rfl, ⟨e, hwire', rfl⟩ | ⟨wire, hwire', -⟩ | ⟨wire, r, hwire', -⟩⟩ := step.of_preparing hjob
        · cases hwire.symm.trans hwire'
          exact ⟨rfl, rfl⟩
        · exact nomatch hwire.symm.trans hwire'
        · exact nomatch hwire.symm.trans hwire'
  · rintro ⟨rfl, rfl⟩
    simp only [system, step, hjob, stepAuthorize, hwire, finish]

/-- A call that has been turned away goes to its backend directly. -/
theorem Sought.of_turned {buffered : Bool} (sought : Sought buffered d request steps job)
    (turned : Turned d steps) : ∃ wire, job = .opening d wire ∨ job = .calling d wire := by
  obtain ⟨e, hrefused⟩ := turned.acquired
  cases sought with
  | preparing => cases hrefused
  | acquiring hwire seeking => exact nomatch seeking.acquired.symm.trans hrefused
  | served hwire hhas served =>
      obtain ⟨slot, hacquired⟩ := served.acquired
      exact nomatch hacquired.symm.trans hrefused
  | opening => exact ⟨_, .inl rfl⟩
  | calling => exact ⟨_, .inr rfl⟩

section
variable {start : Nat} {limits : Option CacheLimits} {settings : DispatchSettings}

/-- Where an authorization finds no backend to be had, its destination is open to creation. -/
theorem Sought.creatable {buffered : Bool} {e : AuthorizerError} (sought : Sought buffered d request steps job)
    (run : Run system (.new start limits settings) h m) (hstep : system.step m now (.call id) input = some p)
    (hjob : m.jobs.find? id = some job)
    (hrefused : acquisition? (.stepped m now (.call id) input p) = some (.error e)) : p.state.Creatable d := by
  have hacquiring : ¬ ∀ d wire, job ≠ .acquiring d wire := by
    intro hnot
    cases (acquisition?_eq_none (coherent_of_run run) hjob hnot).symm.trans hrefused
  cases sought with
  | acquiring hwire seeking =>
      cases (acquiring_of_step hstep (coherent_of_run run) hjob).2 with
      | goesOn hjob' hnone => cases hnone.symm.trans hrefused
      | acquired slot hjob' hacquired => cases hacquired.symm.trans hrefused
      | notAcquired e hjob' hacquired hevents hsame hvacant =>
          intro hhandles
          exact creatable_of_cell (.steps run hstep) (.inr (hvacant hhandles)) hhandles
  | served hwire hhas =>
      refine absurd ?_ hacquiring
      rintro d wire rfl
      cases hhas
  | preparing | opening | calling => exact absurd nofun hacquiring

/-- A direct call that comes back is taken away, and nothing else. -/
theorem exists_run_without (run : Run system (.new start limits settings) h m) (hjob : m.jobs.find? id = some job)
    (hdirect : job = .opening d wire ∨ job = .calling d wire) :
    ∃ h', Run system (.new start limits settings) h' (m.without id) := by
  rcases hdirect with rfl | rfl
  · exact ⟨_, .steps run (step_of_notOpened hjob 0 .emptyTransaction)⟩
  · exact ⟨_, .steps run (step_of_calling hjob 0 (.error (.transport "")))⟩

/-- **Authorizations degrade to direct calls.** In every run of a manager with buffered backends, whatever the order of
the steps, before, during and after a shutdown, and whatever comes of clients and calls: an authorization that tries in
vain to acquire a backend reports this once, leaves all backends as they are, comes to what it would come to without
buffered backends, and is forgotten; one that acquires a backend reports nothing of the kind and asks for nothing
directly. -/
theorem degrades_of_run (run : Run system (.new start limits settings) h m)
    (hbuffered : settings.buffered = true) : Degrades (.new start limits settings) h m := by
  have sought := sought_of_run run
  constructor
  case empty =>
    intro id d request htask hin hempty
    obtain ⟨job, hjob⟩ := Option.ne_none_iff_exists'.1 hin
    obtain ⟨hpath, rfl⟩ := (sought id d request job htask hjob).of_empty hempty
    exact ⟨hpath, fun now input p => step_iff_of_empty hjob hempty⟩
  case course =>
    intro id d request htask hin
    obtain ⟨job, hjob⟩ := Option.ne_none_iff_exists'.1 hin
    exact (sought id d request job htask hjob).course hbuffered
  case comesBack =>
    intro id d request htask hin turned
    obtain ⟨job, hjob⟩ := Option.ne_none_iff_exists'.1 hin
    obtain ⟨wire, rfl | rfl⟩ := (sought id d request job htask hjob).of_turned turned
    · exact returns_of_opening hjob
    · exact returns_of_calling hjob
  case completes =>
    intro id d request now input p result htask hsome hstep hresult
    obtain ⟨job, hjob⟩ := exists_job_of_step hstep
    obtain ⟨wire, hwire⟩ := exists_toWire_of_transactions hsome
    cases (sought id d request job htask hjob).stepped run hstep hjob with
    | goesOn hmore => exact nomatch hmore.symm.trans hresult
    | ends hlast hgone completed =>
        rw [hresult] at hlast
        cases hlast
        refine ⟨_, rfl, ?_⟩
        cases completed with
        | malformed hwire' => exact nomatch hwire'.symm.trans hwire
        | served served => exact .inl served
        | direct hwire' turned direct hstate =>
            exact .inr ⟨turned hbuffered, hstate, direct.asDirect hwire'⟩
  case unserved =>
    intro id d request htask hin hnot
    obtain ⟨job, hjob⟩ := Option.ne_none_iff_exists'.1 hin
    exact undone_of_run run id job hjob ((sought id d request job htask hjob).isUnserved hnot)
  case forgotten =>
    intro id d request htask hin turned
    obtain ⟨job, hjob⟩ := Option.ne_none_iff_exists'.1 hin
    obtain ⟨wire, hdirect⟩ := (sought id d request job htask hjob).of_turned turned
    have hunserved : job.isUnserved = true := by
      rcases hdirect with rfl | rfl <;> rfl
    obtain ⟨h', m', run', hseen, alike⟩ := undone_of_run run id job hjob hunserved
    obtain ⟨h₁, run₁⟩ := exists_run_without run hjob hdirect
    have alike := alike.erase_left.forget (coherent_of_run run₁) (tidy_of_run run₁) (Table.find?_erase_self _ _)
    exact ⟨h', m', run', hseen, alike.sameFuture run₁ run'⟩
  case reopens =>
    intro id d request now input p e htask hstep hrefused
    obtain ⟨job, hjob⟩ := exists_job_of_step hstep
    exact (sought id d request job htask hjob).creatable run hstep hjob hrefused
  case creatable => exact fun d hfilled hunclaimed => creatable_of_unclaimed run hfilled hunclaimed

end

/-- Whether an answer authorizes, or why there is none. -/
def Result.verdict? : Result → Option (AuthorizerError ⊕ Bool)
  | .answered (.ok answer) => some (.inr answer.authorized)
  | .answered (.error e) => some (.inl e)
  | _ => none

/-- Whether a failed creation is reported. -/
def Event.isCreationFailed : Event → Bool
  | .creationFailed _ => true
  | _ => false

/-- A request without transactions is turned away. No buffered client can be built for the first call for "a", which
is answered directly; the second one has its backend. A shutdown takes the handles, and is followed by two calls for
"b": one of them comes to nothing, and one is still about to go there directly. -/
def degraded : List (Move Task) :=
  let refused (d : String) : Input := .built (.error (.clientBuild d "refused"))
  let granted : Input := .answered (.ok { (default : Wire.Response) with authorized := true })
  let turns (n id : Nat) : List (Move Task) := List.replicate n (.step id (.call id) .turn)
  [.begin (.call 0) (.authorize "a" { access with transactions := [] })] ++ turns 1 0 ++
    [.begin (.call 1) (.authorize "a" access)] ++ turns 4 1 ++
    [.step 1 (.call 1) (refused "a"), .step 1 (.call 1) (.built (.ok ())), .step 1 (.call 1) granted] ++
    [.begin (.call 2) (.authorize "a" access)] ++ turns 4 2 ++ [.step 2 (.call 2) (.built (.ok ()))] ++ turns 1 2 ++
    [.step 2 (.call 2) granted] ++ turns 2 2 ++
    [.begin (.call 3) .shutdown] ++ turns 2 3 ++
    [.begin (.call 4) (.authorize "b" access)] ++ turns 2 4 ++ [.step 4 (.call 4) (refused "b")] ++
    [.begin (.call 5) (.authorize "b" access)] ++ turns 2 5

theorem degrades_degraded :
    let run := system.play (.new 0 none openSettings) degraded
    run.1.outcomes.map (fun outcome => outcome.2.verdict?) =
        [some (.inl (.clientBuild "b" "refused")), some (.inr true), some (.inr true),
          some (.inl .emptyTransaction)] ∧
      run.1.events.filter Event.isCreationFailed =
        [.creationFailed "b", .creationFailed "b", .creationFailed "a"] ∧
      run.2.backendCount = 1 ∧ Degrades (.new 0 none openSettings) run.1 run.2 := by
  refine ⟨by decide +kernel, by decide +kernel, by decide +kernel, ?_⟩
  exact degrades_of_run (system.run_play _ _) rfl

end Manager

end GatewayAuth
