import GatewayAuth.Proofs.Dispatch.Direct
import GatewayAuth.Proofs.Dispatch.Undone

/-!
# `GatewayAuth.Proofs.Dispatch.Fallback` — an authorization on its way to a backend

With buffered backends, an authorization first acquires one. If that comes to nothing, because the client cannot be
built or because of a shutdown, it reports this and goes on as it would without buffered backends. What it has done is
told by the phase that it is in: each of its steps leads from one phase, and what goes with it, to another one.

## Contents
- `acquisitions`, `directly`: what a call has acquired, and what it has asked for direct calls; `Spared`: steps that
  leave all backends as they are.
- `Seeking`, `Served`, `Turned`: how far a call has come with its acquisition.
- `Acquiring`, `acquiring_of_step`: how it goes on there.
- `DirectOutcome`: what a direct call comes to.
- `Sought`, `Sought.stepped`, `sought_of_run`: what an authorization has done when it comes to a phase.
-/

namespace GatewayAuth

/-- Whether something is asked of the world outside for a direct call. -/
def Want.isDirect : Want → Bool
  | .client (.direct _) => true
  | .reply (.authrep _ _) => true
  | _ => false

theorem BufferedBackend.isDirect_want (b : BufferedBackend) (actor : Actor) :
    (b.want actor).isDirect = false := by
  unfold want
  split <;> rfl

theorem Registry.isDirect_want (r : Registry) (actor : Actor) : (r.want actor).isDirect = false := by
  unfold want
  split
  · split
    · rfl
    · split
      · split <;> rfl
      · rfl
      · exact BufferedBackend.isDirect_want _ _
  · split
    · rfl
    · split <;> rfl
    · rfl
    · split
      · exact BufferedBackend.isDirect_want _ _
      · rfl
    · split <;> rfl
    · rfl

/-- Only a job that acquires a backend comes to one. -/
theorem Registry.Called.serves_of_acquired {r : Registry} {now : Nat} {actor : Actor} {input : Input}
    {q : Progress Registry Registry.Result Registry.Event} (work : Called r now actor input q)
    {answer : Except AuthorizerError Nat} (hresult : q.result? = some (.acquired answer)) :
    ∃ d job, r.jobs.find? actor = some job ∧ job.Serves (.acquire d) := by
  cases work with
  | turnedAway job | found job | buildFailed job | builtLate job | opened job => exact ⟨_, _, job, rfl⟩
  | _ => cases hresult

/-- The cell of a destination whose backend could not be had is vacant, unless there has been a shutdown. -/
theorem Registry.Called.vacant_of_error {r : Registry} {now : Nat} {actor : Actor} {input : Input}
    {q : Progress Registry Registry.Result Registry.Event} (work : Called r now actor input q) {d : String}
    (hserves : ∀ job, r.jobs.find? actor = some job → job.Serves (.acquire d)) {e : AuthorizerError}
    (hresult : q.result? = some (.acquired (.error e))) (hhandles : q.state.handles ≠ none) :
    q.state.cells.find? d = some .vacant := by
  cases work with
  | turnedAway job closed => exact absurd closed hhandles
  | builtLate job closed => exact absurd closed hhandles
  | buildFailed job =>
      cases hserves _ job
      exact Table.find?_insert_self _ _ _
  | _ => cases hresult

namespace Manager

variable {m m' : Manager} {h steps : Past} {now id slot : Nat} {actor : Actor} {input : Input}
  {p : Progress Manager Result Event} {d : String} {wire : Wire.Request} {request : AuthRequest}
  {job : ManagerJob}

/-! ## What a call has done -/

/-- What the acquisition of a buffered backend comes to, if it comes to something at this moment. -/
def acquisition? : Moment Manager Task Result Event → Option (Except AuthorizerError Nat)
  | .began _ _ => none
  | .stepped m now actor input _ =>
    (m.backends.step now actor input).bind fun q =>
      match q.result? with
      | some (.acquired answer) => some answer
      | _ => none

/-- What has been acquired. -/
def acquisitions (steps : Past) : List (Except AuthorizerError Nat) := steps.filterMap acquisition?

/-- What has been asked of the world outside for direct calls, with what has come of it. -/
def directly (steps : Past) : List (Want × Input) :=
  (system.exchanges steps).filter fun asked => asked.1.isDirect

/-- A step that leaves the number of backends, their buffers and their flush loops as they are, and what is known of a
shutdown. -/
def Spared : Moment Manager Task Result Event → Prop
  | .began _ _ => False
  | .stepped m _ _ _ p =>
    p.state.backendCount = m.backendCount ∧ Registry.SameBackends m.backends p.state.backends

theorem directly_of_client {c : Client} (hwant : system.want m actor = .client c) :
    directly (.stepped m now actor input p :: steps) =
      if (Want.client c).isDirect then (.client c, input) :: directly steps else directly steps := by
  unfold directly
  rw [System.exchanges_of_client hwant]
  exact List.filter_cons

theorem directly_of_reply {call : RemoteCall} (hwant : system.want m actor = .reply call) :
    directly (.stepped m now actor input p :: steps) =
      if (Want.reply call).isDirect then (.reply call, input) :: directly steps else directly steps := by
  unfold directly
  rw [System.exchanges_of_reply hwant]
  exact List.filter_cons

/-- Who waits for anything else asks for nothing there. -/
theorem directly_of_not (hnot : (m.want actor).isDirect = false) :
    directly (.stepped m now actor input p :: steps) = directly steps := by
  cases hwant : system.want m actor with
  | client c =>
      rw [directly_of_client hwant, ← hwant]
      exact if_neg (Bool.not_eq_true _ ▸ hnot)
  | reply call =>
      rw [directly_of_reply hwant, ← hwant]
      exact if_neg (Bool.not_eq_true _ ▸ hnot)
  | nothing | turn | tick =>
      refine congrArg (List.filter _) (System.exchanges_of_inside ?_ ?_)
      · intro c hclient
        cases hwant.symm.trans hclient
      · intro call hreply
        cases hwant.symm.trans hreply

/-- A call that waits for the registry asks for nothing there. -/
theorem isDirect_of_isAtRegistry (hjob : m.jobs.find? id = some job) (hat : job.isAtRegistry = true) :
    (m.want (.call id)).isDirect = false := by
  have hregistry : (m.wantRegistry (.call id)).isDirect = false := by
    unfold wantRegistry
    split
    · exact Registry.isDirect_want _ _
    · rfl
  unfold want
  cases job with
  | acquiring | authorizing | flushing | drainingBackends =>
      simp only [hjob]
      exact hregistry
  | _ => cases hat

/-- Only a call that acquires a backend comes to one, or to none. -/
theorem acquisition?_eq_none (hc : Coherent h m) (hjob : m.jobs.find? id = some job)
    (hnot : ∀ d wire, job ≠ .acquiring d wire) : acquisition? (.stepped m now (.call id) input p) = none := by
  unfold acquisition?
  refine Option.bind_eq_none_iff.2 fun q hq => ?_
  have work := Registry.called_of_stepCall (show m.backends.stepCall now (.call id) input = some q from hq)
  split
  · next answer hresult =>
    obtain ⟨d, mine, hmine, hserves⟩ := work.serves_of_acquired hresult
    obtain ⟨job', task, hjob', -, hat, hfits⟩ := hc.fits_of_busy hmine
    rw [hjob] at hjob'
    cases hjob'
    cases job with
    | acquiring d wire => exact absurd rfl (hnot d wire)
    | authorizing slot | flushing slot answer =>
        obtain ⟨d', wire, -, hwork⟩ := hfits
        rw [hwork.uses] at hmine
        cases hmine
        obtain ⟨work, hwork⟩ := hserves
        cases hwork
    | drainingBackends =>
        obtain ⟨-, hworking⟩ := hfits
        have hserves' := serves_of_working hworking mine hmine
        cases mine with
        | checking | entering | waiting | building | registering => cases hserves'
        | taking | signalling | joining => cases hserves
        | _ =>
            obtain ⟨work, hwork⟩ := hserves
            cases hwork
    | _ => cases hat
  · rfl

theorem acquisitions_of_job (hc : Coherent h m) (hjob : m.jobs.find? id = some job)
    (hnot : ∀ d wire, job ≠ .acquiring d wire) :
    acquisitions (.stepped m now (.call id) input p :: steps) = acquisitions steps :=
  List.filterMap_cons_none (acquisition?_eq_none hc hjob hnot)

/-- There are as many backends as slots. -/
theorem backendCount_eq (htidy : ∀ r, m.registry = some r → Tidy r) :
    m.backendCount = m.backends.slots.length := by
  unfold backendCount
  cases hr : m.registry with
  | none =>
      unfold backends
      rw [hr]
      rfl
  | some r =>
      rw [backends_of_registry hr]
      exact (htidy r hr).size

theorem spared_of_sameBackends (htidy : ∀ r, m.registry = some r → Tidy r)
    (htidy' : ∀ r, p.state.registry = some r → Tidy r)
    (hsame : Registry.SameBackends m.backends p.state.backends) :
    Spared (.stepped m now actor input p) := by
  refine ⟨?_, hsame⟩
  rw [backendCount_eq htidy, backendCount_eq htidy', hsame.slots]

/-! ## Phases -/

/-- A call has acquired nothing yet, and has left all backends as they are. -/
structure Seeking (steps : Past) : Prop where
  acquired : acquisitions steps = []
  events : steps.events = []
  direct : directly steps = []
  spared : ∀ step ∈ steps, Spared step

/-- A call has acquired a buffered backend, has reported no failure, and has asked for nothing directly. -/
structure Served (steps : Past) : Prop where
  acquired : ∃ slot, acquisitions steps = [.ok slot]
  events : ∀ d, .creationFailed d ∉ steps.events
  direct : directly steps = []

/-- A call has tried in vain to acquire the buffered backend of `d`, has reported this once, and nothing else, and has
left all backends as they are. -/
structure Turned (d : String) (steps : Past) : Prop where
  acquired : ∃ e, acquisitions steps = [.error e]
  events : steps.events = [.creationFailed d]
  spared : ∀ step ∈ steps, Spared step

/-- What a step of a call that acquires a buffered backend comes to. -/
inductive Acquiring (m : Manager) (now id : Nat) (input : Input) (p : Progress Manager Result Event)
    (d : String) (wire : Wire.Request) : Prop where
  | goesOn (hjob : p.state.jobs.find? id = some (.acquiring d wire))
      (hnone : acquisition? (.stepped m now (.call id) input p) = none) (hevents : p.events = [])
      (hsame : Registry.SameBackends m.backends p.state.backends)
  | acquired (slot : Nat) (hjob : p.state.jobs.find? id = some (.authorizing slot))
      (hacquired : acquisition? (.stepped m now (.call id) input p) = some (.ok slot)) (hevents : p.events = [])
  | notAcquired (e : AuthorizerError) (hjob : p.state.jobs.find? id = some (.opening d wire))
      (hacquired : acquisition? (.stepped m now (.call id) input p) = some (.error e))
      (hevents : p.events = [.creationFailed d])
      (hsame : Registry.SameBackends m.backends p.state.backends)
      (hvacant : p.state.backends.handles ≠ none → p.state.backends.cells.find? d = some .vacant)

theorem acquiring_of_step (hstep : m.step now (.call id) input = some p) (hc : Coherent h m)
    (hjob : m.jobs.find? id = some (.acquiring d wire)) :
    p.result? = none ∧ Acquiring m now id input p d wire := by
  obtain ⟨task, -, -, hworking⟩ := hc.fits id _ hjob
  simp only [step, hjob, stepAuthorize] at hstep
  obtain ⟨r, q, hr, hq, hcases⟩ := eq_of_stepRegistry hstep
  rw [backends_of_registry hr] at hworking
  have work := Registry.called_of_stepCall (show r.stepCall now (.call id) input = some q from hq)
  have hevents := work.events_of_serves (serves_of_working hworking)
  have hsame : (∀ slot, q.result? ≠ some (.acquired (.ok slot))) →
      Registry.SameBackends m.backends q.state := by
    rw [backends_of_registry hr]
    exact work.sameBackends (serves_of_working hworking)
  rcases hcases with ⟨more, rfl⟩ | ⟨result, p', last, hafter, rfl⟩
  · refine ⟨rfl, .goesOn hjob ?_ ?_ ?_⟩
    · simp only [acquisition?, backends_of_registry hr, hq, Option.bind_some, more]
    · exact congrArg (List.map ofRegistry) hevents
    · refine hsame fun slot hslot => ?_
      cases more.symm.trans hslot
  · unfold afterAcquire at hafter
    split at hafter
    · next slot =>
      obtain ⟨r₁, r', hr₁, -, -, rfl⟩ := exists_of_withRegistry hafter
      refine ⟨rfl, .acquired slot (Table.find?_insert_self _ _ _) ?_ ?_⟩
      · simp only [acquisition?, backends_of_registry hr, hq, Option.bind_some, last]
      · exact congrArg (fun events => List.map ofRegistry events ++ []) hevents
    · next e =>
      cases hafter
      refine ⟨rfl, .notAcquired e (Table.find?_insert_self _ _ _) ?_ ?_ ?_ ?_⟩
      · simp only [acquisition?, backends_of_registry hr, hq, Option.bind_some, last]
      · exact congrArg (fun events => List.map ofRegistry events ++ [.creationFailed d]) hevents
      · refine hsame fun slot hslot => ?_
        cases last.symm.trans hslot
      · exact work.vacant_of_error (serves_of_working hworking) last
    · cases hafter

theorem creationFailed_not_mem_map (events : List Registry.Event) (d : String) :
    Event.creationFailed d ∉ events.map ofRegistry := by
  intro hmem
  obtain ⟨e, -, he⟩ := List.mem_map.1 hmem
  cases e
  cases he

/-- A call that has a buffered backend goes on there, or comes back with its answer; it reports no failed creation. -/
theorem Called.of_hasBackend (step : Called m now id input p) (hjob : m.jobs.find? id = some job)
    (hhas : job.hasBackend = true) :
    (∀ d, .creationFailed d ∉ p.events) ∧
      ((p.result? = none ∧ ∃ job', p.state.jobs.find? id = some job' ∧ job'.hasBackend = true) ∨
        p.state.jobs.find? id = none ∧ ∃ answer, p.result? = some (.answered answer)) := by
  have hquiet : ∀ d, Event.creationFailed d ∉ [] := fun _ => List.not_mem_nil
  cases step with
  | waited => exact ⟨creationFailed_not_mem_map _, .inl ⟨rfl, _, hjob, hhas⟩⟩
  | answered =>
      exact ⟨creationFailed_not_mem_map _, .inl ⟨rfl, _, Table.find?_insert_self _ _ _, rfl⟩⟩
  | overtaken => exact ⟨hquiet, .inl ⟨rfl, _, Table.find?_insert_self _ _ _, rfl⟩⟩
  | returned => exact ⟨hquiet, .inr ⟨Table.find?_erase_self _ _, _, rfl⟩⟩
  | flushed => exact ⟨creationFailed_not_mem_map _, .inr ⟨Table.find?_erase_self _ _, _, rfl⟩⟩
  | fetched hjob' step =>
      rw [hjob] at hjob'
      cases hjob'
      rw [ManagerJob.hasBackend_of_isFetch step.isFetch] at hhas
      cases hhas
  | malformed hjob' | acquires hjob' | goesDirect hjob' | acquired hjob' | notAcquired hjob' | opened hjob'
  | notOpened hjob' | called hjob' | followed hjob' | drains hjob' | drainsNothing hjob' | drained hjob'
  | stopsRefresh hjob' | stopsNothing hjob' | joined hjob' =>
      rw [hjob] at hjob'
      cases hjob'
      cases hhas

/-- It asks for nothing directly. -/
theorem isDirect_of_hasBackend (hjob : m.jobs.find? id = some job) (hhas : job.hasBackend = true) :
    (m.want (.call id)).isDirect = false := by
  cases job with
  | authorizing | flushing => exact isDirect_of_isAtRegistry hjob rfl
  | rechecking =>
      unfold want
      simp only [hjob]
      rfl
  | _ => cases hhas

/-! ## What an authorization has done -/

/-- What a direct call to a backend comes to, by what has been asked for it and what has come of that. -/
inductive DirectOutcome (d : String) (wire : Wire.Request) :
    List (Want × Input) → Except AuthorizerError AuthResponse → Prop where
  | notOpened (e : AuthorizerError) :
      DirectOutcome d wire [(.client (.direct d), .built (.error e))] (.error e)
  | called (told : Except BackendError Wire.Response) :
      DirectOutcome d wire
        [(.reply (.authrep d wire), .answered told), (.client (.direct d), .built (.ok ()))]
        (AuthResponse.ofCall told)

/-- What has been asked for it, and what has come of that, says what it comes to. -/
theorem DirectOutcome.unique {asked : List (Want × Input)} {outcome outcome' : Except AuthorizerError AuthResponse}
    (direct : DirectOutcome d wire asked outcome) (direct' : DirectOutcome d wire asked outcome') :
    outcome' = outcome := by
  cases direct with
  | notOpened e => cases direct' with
    | notOpened => rfl
  | called told => cases direct' with
    | called => rfl

/-- What an authorization has done when it comes to a phase. Where there are buffered backends, it goes to its backend
directly only once it has tried in vain to acquire one. -/
inductive Sought (buffered : Bool) (d : String) (request : AuthRequest) : Past → ManagerJob → Prop where
  | preparing : Sought buffered d request [] (.preparing d request)
  | acquiring {steps : Past} {wire : Wire.Request} (hwire : request.toWire = .ok wire)
      (seeking : Seeking steps) : Sought buffered d request steps (.acquiring d wire)
  | served {steps : Past} {job : ManagerJob} {wire : Wire.Request} (hwire : request.toWire = .ok wire)
      (hhas : job.hasBackend = true) (served : Served steps) : Sought buffered d request steps job
  | opening {steps : Past} {wire : Wire.Request} (hwire : request.toWire = .ok wire)
      (turned : buffered = true → Turned d steps) (hdirectly : directly steps = []) :
      Sought buffered d request steps (.opening d wire)
  | calling {steps : Past} {wire : Wire.Request} (hwire : request.toWire = .ok wire)
      (turned : buffered = true → Turned d steps)
      (hdirectly : directly steps = [(.client (.direct d), .built (.ok ()))]) :
      Sought buffered d request steps (.calling d wire)

/-- The same manager without a call. -/
def without (m : Manager) (id : Nat) : Manager := { m with jobs := m.jobs.erase id }

/-- What an authorization has done in the end, what it has come to, and what it leaves behind. -/
inductive Completed (buffered : Bool) (d : String) (request : AuthRequest) (m : Manager) (id : Nat) (m' : Manager)
    (steps : Past) : Except AuthorizerError AuthResponse → Prop where
  | malformed {e : AuthorizerError} (hwire : request.toWire = .error e) :
      Completed buffered d request m id m' steps (.error e)
  | served {outcome : Except AuthorizerError AuthResponse} (served : Served steps) :
      Completed buffered d request m id m' steps outcome
  | direct {wire : Wire.Request} {outcome : Except AuthorizerError AuthResponse}
      (hwire : request.toWire = .ok wire) (turned : buffered = true → Turned d steps)
      (direct : DirectOutcome d wire (directly steps) outcome) (hstate : m' = m.without id) :
      Completed buffered d request m id m' steps outcome

/-- Where an authorization has come to with a step: to another phase, or to its end. -/
inductive Advanced (buffered : Bool) (d : String) (request : AuthRequest) (m : Manager) (id : Nat)
    (p : Progress Manager Result Event) (steps : Past) : Prop where
  | goesOn {job : ManagerJob} (hmore : p.result? = none) (hjob : p.state.jobs.find? id = some job)
      (sought : Sought buffered d request steps job)
  | ends {outcome : Except AuthorizerError AuthResponse} (hlast : p.result? = some (.answered outcome))
      (hgone : p.state.jobs.find? id = none) (completed : Completed buffered d request m id p.state steps outcome)

section
variable {start : Nat} {limits : Option CacheLimits} {settings : DispatchSettings}

/-- A step that leaves backends and flush loops as they are. -/
theorem spared_of_run (run : Run system (.new start limits settings) h m)
    (hstep : m.step now actor input = some p) (hsame : Registry.SameBackends m.backends p.state.backends) :
    Spared (.stepped m now actor input p) := by
  have run' : Run system (.new start limits settings) (.stepped m now actor input p :: h) p.state :=
    .steps run hstep
  exact spared_of_sameBackends (tidy_of_run run) (tidy_of_run run') hsame

/-- The request is put in its wire form, which fails only if there is none. -/
theorem advanced_of_preparing (run : Run system (.new start limits settings) h m)
    (hstep : m.step now (.call id) input = some p) (hjob : m.jobs.find? id = some (.preparing d request)) :
    Advanced settings.buffered d request m id p [.stepped m now (.call id) input p] := by
  have hregistry := registry_isSome_of_run run
  have hnone : acquisitions [.stepped m now (.call id) input p] = [] :=
    acquisitions_of_job (coherent_of_run run) hjob nofun
  have hdirectly : directly [.stepped m now (.call id) input p] = [] := by
    refine directly_of_not ?_
    rw [want_of_preparing hjob]
    rfl
  cases stepped_of_step hstep with
  | called step =>
      obtain ⟨rfl, ⟨e, hwire, rfl⟩ | ⟨wire, hwire, hr, rfl⟩ | ⟨wire, r, hwire, hr, rfl⟩⟩ := step.of_preparing hjob
      · exact .ends rfl (Table.find?_erase_self _ _) (.malformed hwire)
      · refine .goesOn rfl (Table.find?_insert_self _ _ _) (.opening hwire (fun hbuffered => ?_) hdirectly)
        rw [hr, hbuffered] at hregistry
        cases hregistry
      · refine .goesOn rfl (Table.find?_insert_self _ _ _) (.acquiring hwire ⟨hnone, rfl, hdirectly, ?_⟩)
        intro step hmem
        cases List.mem_singleton.1 hmem
        refine spared_of_run run hstep ?_
        rw [backends_of_registry hr]
        exact ⟨rfl, rfl, rfl, rfl, rfl⟩

/-- The acquisition goes on, or comes to a backend, or has been in vain. -/
theorem advanced_of_acquiring (run : Run system (.new start limits settings) h m)
    (hstep : m.step now (.call id) input = some p) (hjob : m.jobs.find? id = some (.acquiring d wire))
    (hwire : request.toWire = .ok wire) (seeking : Seeking steps) :
    Advanced settings.buffered d request m id p (.stepped m now (.call id) input p :: steps) := by
  have hdirectly : directly (.stepped m now (.call id) input p :: steps) = [] :=
    (directly_of_not (isDirect_of_isAtRegistry hjob rfl)).trans seeking.direct
  have hspared : Registry.SameBackends m.backends p.state.backends →
      ∀ step ∈ (.stepped m now (.call id) input p :: steps : Past), Spared step :=
    fun hsame => List.forall_mem_cons.2 ⟨spared_of_run run hstep hsame, seeking.spared⟩
  obtain ⟨hmore, acquiring⟩ := acquiring_of_step hstep (coherent_of_run run) hjob
  cases acquiring with
  | goesOn hjob' hnone hevents hsame =>
      refine .goesOn hmore hjob' (.acquiring hwire ⟨?_, ?_, hdirectly, hspared hsame⟩)
      · rw [acquisitions, List.filterMap_cons_none hnone]
        exact seeking.acquired
      · rw [History.events_stepped, hevents, seeking.events]
        rfl
  | acquired slot hjob' hacquired hevents =>
      refine .goesOn hmore hjob' (.served hwire rfl ⟨⟨slot, ?_⟩, fun d' => ?_, hdirectly⟩)
      · rw [acquisitions, List.filterMap_cons_some hacquired]
        exact congrArg (List.cons _) seeking.acquired
      · rw [History.events_stepped, hevents, seeking.events]
        exact List.not_mem_nil
  | notAcquired e hjob' hacquired hevents hsame =>
      refine .goesOn hmore hjob' (.opening hwire (fun _ => ⟨⟨e, ?_⟩, ?_, hspared hsame⟩) hdirectly)
      · rw [acquisitions, List.filterMap_cons_some hacquired]
        exact congrArg (List.cons _) seeking.acquired
      · rw [History.events_stepped, hevents, seeking.events]
        rfl

/-- At a buffered backend it stays until it comes back. -/
theorem advanced_of_served (run : Run system (.new start limits settings) h m)
    (hstep : m.step now (.call id) input = some p) (hjob : m.jobs.find? id = some job)
    (hwire : request.toWire = .ok wire) (hhas : job.hasBackend = true) (served : Served steps) :
    Advanced settings.buffered d request m id p (.stepped m now (.call id) input p :: steps) := by
  have hnot : ∀ d wire, job ≠ .acquiring d wire := by
    rintro d wire rfl
    cases hhas
  cases stepped_of_step hstep with
  | called step =>
      obtain ⟨hevents, hcases⟩ := step.of_hasBackend hjob hhas
      have served' : Served (.stepped m now (.call id) input p :: steps) := by
        refine ⟨?_, fun d => ?_, ?_⟩
        · rw [acquisitions_of_job (coherent_of_run run) hjob hnot]
          exact served.acquired
        · rw [History.events_stepped, List.mem_append, not_or]
          exact ⟨hevents d, served.events d⟩
        · rw [directly_of_not (isDirect_of_hasBackend hjob hhas)]
          exact served.direct
      rcases hcases with ⟨hmore, job', hjob', hhas'⟩ | ⟨hgone, answer, hlast⟩
      · exact .goesOn hmore hjob' (.served hwire hhas' served')
      · exact .ends hlast hgone (.served served')

/-- A direct call is no business of the backends. -/
theorem Turned.stepped (turned : Turned d steps) (run : Run system (.new start limits settings) h m)
    (hstep : m.step now (.call id) input = some p) (hjob : m.jobs.find? id = some job)
    (hnot : ∀ d wire, job ≠ .acquiring d wire) (hevents : p.events = [])
    (hbackends : p.state.backends = m.backends) : Turned d (.stepped m now (.call id) input p :: steps) := by
  constructor
  case acquired =>
    rw [acquisitions_of_job (coherent_of_run run) hjob hnot]
    exact turned.acquired
  case events =>
    rw [History.events_stepped, hevents]
    exact turned.events
  case spared =>
    refine List.forall_mem_cons.2 ⟨spared_of_run run hstep ?_, turned.spared⟩
    rw [hbackends]
    exact ⟨rfl, rfl, rfl, rfl, rfl⟩

theorem advanced_of_opening (run : Run system (.new start limits settings) h m)
    (hstep : m.step now (.call id) input = some p) (hjob : m.jobs.find? id = some (.opening d wire))
    (hwire : request.toWire = .ok wire) (turned : settings.buffered = true → Turned d steps)
    (hdirectly : directly steps = []) :
    Advanced settings.buffered d request m id p (.stepped m now (.call id) input p :: steps) := by
  have hwant : system.want m (.call id) = .client (.direct d) := want_of_opening hjob
  cases stepped_of_step hstep with
  | called step =>
      rcases step.of_opening hjob with ⟨rfl, rfl⟩ | ⟨e, rfl, rfl⟩
      · refine .goesOn rfl (Table.find?_insert_self _ _ _) (.calling hwire (fun hbuffered => ?_) ?_)
        · exact (turned hbuffered).stepped run hstep hjob nofun rfl rfl
        · rw [directly_of_client hwant, hdirectly]
          rfl
      · refine .ends rfl (Table.find?_erase_self _ _) (.direct hwire (fun hbuffered => ?_) ?_ rfl)
        · exact (turned hbuffered).stepped run hstep hjob nofun rfl rfl
        · rw [directly_of_client hwant, hdirectly]
          exact .notOpened e

theorem advanced_of_calling (run : Run system (.new start limits settings) h m)
    (hstep : m.step now (.call id) input = some p) (hjob : m.jobs.find? id = some (.calling d wire))
    (hwire : request.toWire = .ok wire) (turned : settings.buffered = true → Turned d steps)
    (hdirectly : directly steps = [(.client (.direct d), .built (.ok ()))]) :
    Advanced settings.buffered d request m id p (.stepped m now (.call id) input p :: steps) := by
  have hwant : system.want m (.call id) = .reply (.authrep d wire) := want_of_calling hjob
  cases stepped_of_step hstep with
  | called step =>
      obtain ⟨told, rfl, rfl⟩ := step.of_calling hjob
      refine .ends rfl (Table.find?_erase_self _ _) (.direct hwire (fun hbuffered => ?_) ?_ rfl)
      · exact (turned hbuffered).stepped run hstep hjob nofun rfl rfl
      · rw [directly_of_reply hwant, hdirectly]
        exact .called told

/-- **Each step of an authorization takes it one phase further, or to its end.** -/
theorem Sought.stepped (sought : Sought settings.buffered d request steps job)
    (run : Run system (.new start limits settings) h m) (hstep : m.step now (.call id) input = some p)
    (hjob : m.jobs.find? id = some job) :
    Advanced settings.buffered d request m id p (.stepped m now (.call id) input p :: steps) := by
  cases sought with
  | preparing => exact advanced_of_preparing run hstep hjob
  | acquiring hwire seeking => exact advanced_of_acquiring run hstep hjob hwire seeking
  | served hwire hhas served => exact advanced_of_served run hstep hjob hwire hhas served
  | opening hwire turned hdirectly => exact advanced_of_opening run hstep hjob hwire turned hdirectly
  | calling hwire turned hdirectly => exact advanced_of_calling run hstep hjob hwire turned hdirectly

/-- **In every run, every authorization has done what takes it to its phase.** -/
theorem sought_of_run (run : Run system (.new start limits settings) h m) : ∀ id d request job,
    h.task? (.call id) = some (.authorize d request) → m.jobs.find? id = some job →
      Sought settings.buffered d request (h.path (.call id)) job := by
  induction run with
  | start => exact fun id d request job htask => (nomatch htask)
  | @begins h m m' actor task run hbegin ih =>
      intro id d request job htask hjob
      cases actor with
      | call other =>
          obtain ⟨-, rfl⟩ := eq_resume_of_begin? (show m.begin? other task = some m' from hbegin)
          rw [jobs_resume, Table.find?_insert] at hjob
          by_cases hother : other = id
          · subst hother
            rw [if_pos rfl] at hjob
            rw [History.task?_began, if_pos rfl] at htask
            cases htask
            cases hjob
            rw [History.path_began_self]
            exact .preparing
          · have hne : Actor.call other ≠ .call id := fun heq => hother (Actor.call.inj heq)
            rw [if_neg hother] at hjob
            rw [History.task?_began, if_neg hne] at htask
            rw [History.path_began_of_ne hne]
            exact ih id d request job htask hjob
      | flushLoop slot => cases hbegin
      | refreshLoop => cases hbegin
  | @steps h m now actor input p run hstep ih =>
      intro id d request job htask hjob
      rw [History.task?_stepped] at htask
      have step := stepped_of_step hstep
      by_cases hother : actor = .call id
      · subst hother
        rw [History.path_stepped_self]
        cases step with
        | called step =>
            obtain ⟨before, hbefore⟩ := Option.ne_none_iff_exists'.1 step.has_job
            cases (ih id d request before htask hbefore).stepped run hstep hbefore with
            | goesOn hmore hjob' sought =>
                rw [hjob] at hjob'
                cases hjob'
                exact sought
            | ends hlast hgone =>
                rw [hjob] at hgone
                cases hgone
      · rw [step.others hother] at hjob
        rw [History.path_stepped_of_ne hother]
        exact ih id d request job htask hjob

end

end Manager

end GatewayAuth
