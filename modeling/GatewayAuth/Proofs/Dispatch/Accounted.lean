import GatewayAuth.Proofs.Dispatch.Consulted

/-!
# `GatewayAuth.Proofs.Dispatch.Accounted` — how authorizations end

The invariant `Accountable` ties what a call has been told to what its job holds, in every reachable state: a call
without an answer has asked nothing, and one with an answer from a buffered backend has asked its one question there.
From it, `Accounted` lists the ways in which an authorization can end.

## Contents
- `builtAs`: runs in which clients are built by a rule.
- `GoesDirect`: how a call comes to go to its backend directly.
- `Accountable`, `Stepped.accountable`, `accountable_of_run`: questions and answers in every reachable state.
- `Accounted`, `accounted_of_run`: how authorizations end.
-/

namespace GatewayAuth

/-- The destination that an authorization goes to directly. -/
def ManagerJob.direct? : ManagerJob → Option String
  | .opening d _ => some d
  | .calling d _ => some d
  | _ => none

theorem ManagerJob.direct?_of_isFetch {job : ManagerJob} (h : job.isFetch = true) :
    job.direct? = none := by
  cases job <;> first | rfl | cases h

theorem ManagerJob.direct?_of_isAtRegistry {job : ManagerJob} (h : job.isAtRegistry = true) :
    job.direct? = none := by
  cases job <;> first | rfl | cases h

namespace Manager

variable {m : Manager} {h : Past} {now id : Nat} {actor : Actor} {input : Input}
  {p : Progress Manager Result Event} {direct : String → Except AuthorizerError Unit → Prop}
  {settings : DispatchSettings}

/-! ## The invariant -/

/-- Clients are built as `direct` says, and one for a buffered backend only where a direct one would be. -/
def builtAs (direct : String → Except AuthorizerError Unit → Prop) (_ : Past) (_ : Actor)
    (want : Want) (input : Input) : Prop :=
  (∀ d result, want = .client (.direct d) → input = .built result → direct d result) ∧
    ∀ d, want = .client (.buffered d) → input = .built (.ok ()) → direct d (.ok ())

/-- The one question of a call was to check limits at its destination, and what it was told has been settled as
`answer`. -/
def SettledAs (direct : String → Except AuthorizerError Unit → Prop) (settings : DispatchSettings)
    (h : Past) (id : Nat) (answer : Except BackendError Wire.Response) : Prop :=
  ∃ task d wire past told, h.task? (.call id) = some task ∧ task.Wants d wire ∧ direct d (.ok ()) ∧
    consulted id h = [⟨past, .authorize d wire, told⟩] ∧ settings.policy.settle told = answer

/-- What calls have asked and been told, and what they ask with. -/
structure Accountable (direct : String → Except AuthorizerError Unit → Prop)
    (settings : DispatchSettings) (h : Past) (m : Manager) : Prop where
  buffered : m.registry.isSome = settings.buffered
  made : Made settings.policy (fun d => direct d (.ok ())) m
  opened : ∀ id d wire, m.jobs.find? id = some (.calling d wire) → direct d (.ok ())
  unasked : ∀ id, m.jobs.find? id ≠ none → m.answer? id = none → consulted id h = []
  asked : ∀ id answer, m.answer? id = some answer → SettledAs direct settings h id answer

/-- How an authorization can end: its request has no wire form, no client could be built, or it has asked its one
question, directly or through a buffered backend. -/
inductive Accounted (direct : String → Except AuthorizerError Unit → Prop)
    (settings : DispatchSettings) (d : String) (request : AuthRequest) :
    List Consultation → Except AuthorizerError AuthResponse → Prop where
  | malformed {e : AuthorizerError} (hwire : request.toWire = .error e) :
      Accounted direct settings d request [] (.error e)
  | notOpened {wire : Wire.Request} {e : AuthorizerError} (hwire : request.toWire = .ok wire)
      (notBuilt : direct d (.error e)) : Accounted direct settings d request [] (.error e)
  | direct {wire : Wire.Request} {past : Past} {told : Except BackendError Wire.Response}
      (hwire : request.toWire = .ok wire) (built : direct d (.ok ())) :
      Accounted direct settings d request [⟨past, .authrep d wire, told⟩] (AuthResponse.ofCall told)
  | buffered {wire : Wire.Request} {past : Past} {told : Except BackendError Wire.Response}
      (hwire : request.toWire = .ok wire) (built : direct d (.ok ()))
      (hbuffered : settings.buffered = true) :
      Accounted direct settings d request [⟨past, .authorize d wire, told⟩]
        (AuthResponse.ofCall (settings.policy.settle told))

theorem consulted_stepped (id : Nat) (m : Manager) (now : Nat) (actor : Actor) (input : Input)
    (p : Progress Manager Result Event) (h : Past) :
    consulted id (.stepped m now actor input p :: h) =
      if actor = .call id then consultedNow h (m.want actor) input ++ consulted id h
      else consulted id h := rfl

/-- A manager has buffered backends for good, or never. -/
theorem Stepped.registry_isSome (step : Stepped m now actor input p) :
    p.state.registry.isSome = m.registry.isSome := by
  cases step with
  | looped hr work => rw [hr]; rfl
  | refreshed work => rfl
  | called step =>
      cases step with
      | fetched hjob step => rw [step.frame.1]
      | acquires _ _ hr | waited _ _ hr | acquired _ hr | notAcquired _ hr | answered _ hr
      | overtaken _ hr | flushed _ hr | drains _ _ hr | drained _ hr => rw [hr]; rfl
      | _ => rfl

/-- How a call comes to go to its backend directly: there are no buffered backends, or it could not have its own and has
reported that; then the client for it is built. -/
inductive GoesDirect (m : Manager) (now id : Nat) (input : Input)
    (p : Progress Manager Result Event) (d : String) : ManagerJob → Prop where
  | unbuffered {wire : Wire.Request} (hr : m.registry = none) :
      GoesDirect m now id input p d (.opening d wire)
  | fallsBack {wire : Wire.Request} {r : Registry} {e : AuthorizerError}
      {q : Progress Registry Registry.Result Registry.Event}
      (hjob : m.jobs.find? id = some (.acquiring d wire)) (hr : m.registry = some r)
      (work : Registry.Called r now (.call id) input q)
      (last : q.result? = some (.acquired (.error e))) (reported : .creationFailed d ∈ p.events) :
      GoesDirect m now id input p d (.opening d wire)
  | opened {wire : Wire.Request} (hjob : m.jobs.find? id = some (.opening d wire))
      (hinput : input = .built (.ok ())) : GoesDirect m now id input p d (.calling d wire)

theorem Called.goesDirect_of_job (step : Called m now id input p) {job : ManagerJob} {d : String}
    (hjob : p.state.jobs.find? id = some job) (hdirect : job.direct? = some d) :
    GoesDirect m now id input p d job := by
  cases step with
  | fetched hjob' step =>
      obtain ⟨-, -, -, ⟨-, job', hjobs, hfetch, -⟩ | ⟨hjobs, -⟩⟩ := step.frame
      · rw [hjobs, Table.find?_insert_self] at hjob
        cases hjob
        rw [ManagerJob.direct?_of_isFetch hfetch] at hdirect
        cases hdirect
      · rw [hjobs, Table.find?_erase_self] at hjob
        cases hjob
  | waited hjob' hat =>
      have hjob : m.jobs.find? id = some job := hjob
      rw [hjob'] at hjob
      cases hjob
      rw [ManagerJob.direct?_of_isAtRegistry hat] at hdirect
      cases hdirect
  | @goesDirect d' request wire _ _ hr =>
      have hjob : (m.jobs.insert id (.opening d' wire)).find? id = some job := hjob
      rw [Table.find?_insert_self] at hjob
      cases hjob
      cases hdirect
      exact .unbuffered hr
  | @notAcquired d' wire e r _ q hacquiring hr work last =>
      have hjob : (m.jobs.insert id (.opening d' wire)).find? id = some job := hjob
      rw [Table.find?_insert_self] at hjob
      cases hjob
      cases hdirect
      exact .fallsBack hacquiring hr work last (List.mem_append_right _ (List.mem_singleton_self _))
  | @opened d' wire hopening =>
      have hjob : (m.jobs.insert id (.calling d' wire)).find? id = some job := hjob
      rw [Table.find?_insert_self] at hjob
      cases hjob
      cases hdirect
      exact .opened hopening rfl
  | malformed | returned | flushed | notOpened | called | followed | stopsNothing | joined =>
      have hjob : (m.jobs.erase id).find? id = some job := hjob
      rw [Table.find?_erase_self] at hjob
      cases hjob
  | _ =>
      have hjob : (Table.insert m.jobs id _).find? id = some job := hjob
      rw [Table.find?_insert_self] at hjob
      cases hjob
      cases hdirect

/-- A call is at a direct call only once its client has been built. -/
theorem Called.opened_of_calling (step : Called m now id input p) {d : String} {wire : Wire.Request}
    (hjob : p.state.jobs.find? id = some (.calling d wire)) :
    m.want (.call id) = .client (.direct d) ∧ input = .built (.ok ()) := by
  cases step.goesDirect_of_job hjob rfl with
  | opened hopening hinput =>
      refine ⟨?_, hinput⟩
      unfold want
      simp only [hopening]

/-- **How an authorization ends.** -/
theorem Called.accounted (step : Called m now id input p) (hc : Coherent h m)
    (ha : Accountable direct settings h m)
    (hrule : builtAs direct h (.call id) (m.want (.call id)) input) {d : String}
    {request : AuthRequest} {result : Except AuthorizerError AuthResponse}
    (htask : h.task? (.call id) = some (.authorize d request))
    (hresult : p.result? = some (.answered result)) :
    Accounted direct settings d request
      (consultedNow h (m.want (.call id)) input ++ consulted id h) result := by
  -- a call that has its answer from a buffered backend, and comes back with it
  have hanswered : ∀ {answer : Except BackendError Wire.Response} {r : Registry},
      (∀ told, input ≠ .answered told) → m.registry = some r → m.answer? id = some answer →
      Accounted direct settings d request
        (consultedNow h (m.want (.call id)) input ++ consulted id h) (AuthResponse.ofCall answer) := by
    intro answer r hsilent hr hanswer
    obtain ⟨task, d', wire, past, told, htask', ⟨request', rfl, hwire⟩, hbuilt, hconsulted, rfl⟩ :=
      ha.asked id answer hanswer
    rw [htask] at htask'
    cases htask'
    have hbuffered := ha.buffered
    rw [hr] at hbuffered
    rw [consultedNow_eq_nil h _ hsilent, hconsulted]
    exact .buffered hwire hbuilt hbuffered.symm
  -- a call that has none yet
  have hunasked : ∀ {job : ManagerJob}, m.jobs.find? id = some job → job.hasBackend = false →
      consulted id h = [] := by
    intro job hjob hnot
    have hbusy : m.jobs.find? id ≠ none := by
      rw [hjob]
      exact Option.some_ne_none job
    exact ha.unasked id hbusy (answer?_eq_none hjob hnot)
  cases step with
  | fetched hjob step =>
      obtain ⟨-, -, -, ⟨hnone, -⟩ | ⟨-, config, hconfig⟩⟩ := step.frame
      · rw [hresult] at hnone
        cases hnone
      · rw [hresult] at hconfig
        cases hconfig
  | malformed hjob hwire =>
      obtain ⟨task, htask', rfl, -⟩ := hc.fits id _ hjob
      rw [htask] at htask'
      cases htask'
      cases hresult
      rw [hunasked hjob rfl]
      exact .malformed hwire
  | @notOpened d' wire e hjob =>
      obtain ⟨task, htask', ⟨request', rfl, hwire⟩, -⟩ := hc.fits id _ hjob
      rw [htask] at htask'
      cases htask'
      cases hresult
      have hwant : m.want (.call id) = .client (.direct d) := by
        unfold want
        simp only [hjob]
      rw [hunasked hjob rfl]
      exact .notOpened hwire (hrule.1 d _ hwant rfl)
  | @called d' wire answer hjob =>
      obtain ⟨task, htask', ⟨request', rfl, hwire⟩, -⟩ := hc.fits id _ hjob
      rw [htask] at htask'
      cases htask'
      cases hresult
      have hwant : m.want (.call id) = .reply (.authrep d wire) := by
        unfold want
        simp only [hjob]
      rw [hwant, hunasked hjob rfl]
      exact .direct hwire (ha.opened id d wire hjob)
  | returned hjob hr opened =>
      cases hresult
      exact hanswered (fun told heq => (by cases heq)) hr (answer?_of_rechecking hjob)
  | flushed hjob hr work last =>
      cases hresult
      obtain ⟨task, -, d', wire, -, s, job, hs, -, husing, hwork, hserves⟩ := hc.fits id _ hjob
      rw [backends_of_registry hr] at husing hs
      obtain ⟨q', stepped, -⟩ := work.works husing hs
      exact hanswered (stepped.silent_of_flush hwork hserves) hr (answer?_of_flushing hjob)
  | _ => cases hresult

/-- **What calls have asked and been told, after a step.** -/
theorem Stepped.accountable (step : Stepped m now actor input p) (hc : Coherent h m)
    (ha : Accountable direct settings h m) (hrule : builtAs direct h actor (m.want actor) input) :
    Accountable direct settings (.stepped m now actor input p :: h) p.state := by
  -- the call that takes the step
  have hown : ∀ {id : Nat}, actor = .call id → m.jobs.find? id ≠ none ∧
      (p.state.jobs.find? id = none ∨
        Learns direct settings h m id input (p.state.answer? id)) := by
    rintro id rfl
    cases step with
    | called step =>
        refine ⟨step.has_job, ?_⟩
        cases hresult : p.result? with
        | none => exact .inr (step.learns hc ha.made hresult)
        | some result => exact .inl (step.job_gone (by rw [hresult]; nofun))
  constructor
  case buffered => rw [step.registry_isSome, ha.buffered]
  case made => exact step.made ha.made hrule.2
  case opened =>
    intro id d wire hjob
    by_cases hne : actor = .call id
    · subst hne
      cases step with
      | called step =>
          obtain ⟨hwant, hinput⟩ := step.opened_of_calling hjob
          exact hrule.1 d _ hwant hinput
    · rw [step.others hne] at hjob
      exact ha.opened id d wire hjob
  case unasked =>
    intro id hjob hnone
    rw [consulted_stepped]
    by_cases hne : actor = .call id
    · rw [if_pos hne]
      obtain ⟨hbusy, hgone | hlearns⟩ := hown hne
      · exact absurd hgone hjob
      · cases hlearns with
        | nothing silent same =>
            rw [hne, silent, ha.unasked id hbusy (same ▸ hnone)]
            rfl
        | answer htask wants built unasked learned settled =>
            rw [settled] at hnone
            cases hnone
    · rw [if_neg hne]
      rw [step.others hne] at hjob
      exact ha.unasked id hjob (step.answer?_of_ne hc hne ▸ hnone)
  case asked =>
    intro id answer hanswer
    unfold SettledAs
    rw [consulted_stepped, History.task?_stepped]
    by_cases hne : actor = .call id
    · rw [if_pos hne]
      obtain ⟨hbusy, hgone | hlearns⟩ := hown hne
      · unfold answer? at hanswer
        rw [hgone] at hanswer
        cases hanswer
      · cases hlearns with
        | nothing silent same =>
            rw [hne, silent]
            exact ha.asked id answer (same ▸ hanswer)
        | @answer task d wire told htask wants built unasked learned settled =>
            rw [settled] at hanswer
            cases hanswer
            rw [hne, learned, ha.unasked id hbusy unasked]
            exact ⟨task, d, wire, h, told, htask, wants, built, rfl, rfl⟩
    · rw [if_neg hne]
      exact ha.asked id answer (step.answer?_of_ne hc hne ▸ hanswer)

/-- A manager as it starts. -/
theorem accountable_new (start : Nat) (limits : Option CacheLimits) (settings : DispatchSettings) :
    Accountable direct settings [] (new start limits settings) := by
  constructor
  case buffered =>
    unfold new DispatchSettings.withDefaults
    dsimp only
    split
    · next hbuffered => exact hbuffered.symm
    · next hnot => exact (Bool.not_eq_true _ ▸ hnot).symm
  case made =>
    intro r hr
    unfold new DispatchSettings.withDefaults at hr
    dsimp only at hr
    split at hr
    · cases hr
      exact Registry.made_new _ _ _
    · cases hr
  case opened => exact fun id d wire hjob => (by cases hjob)
  case unasked => exact fun id hjob => absurd rfl hjob
  case asked => exact fun id answer hanswer => (by cases hanswer)

/-- A call that starts has asked nothing; what the others have been told stays. -/
theorem Accountable.begins (ha : Accountable direct settings h m) (id : Nat) (task : Task) :
    Accountable direct settings (.began (.call id) task :: h) (m.resume id task.job) := by
  have hother : ∀ {other : Nat}, id ≠ other →
      (m.resume id task.job).answer? other = m.answer? other := by
    intro other hne
    unfold answer?
    rw [jobs_resume, Table.find?_insert, if_neg hne]
    rfl
  have hself : (m.resume id task.job).answer? id = none :=
    answer?_eq_none (Table.find?_insert_self _ _ _) (by cases task <;> rfl)
  have hne : ∀ {other : Nat}, id ≠ other → Actor.call id ≠ .call other :=
    fun hne heq => hne (Actor.call.inj heq)
  constructor
  case buffered => exact ha.buffered
  case made => exact ha.made
  case opened =>
    intro other d wire hjob
    rw [jobs_resume, Table.find?_insert] at hjob
    split at hjob
    · cases task <;> cases hjob
    · exact ha.opened other d wire hjob
  case unasked =>
    intro other hjob hnone
    unfold consulted
    by_cases heq : id = other
    · rw [if_pos (congrArg _ heq)]
    · rw [if_neg (hne heq)]
      rw [jobs_resume, Table.find?_insert, if_neg heq] at hjob
      exact ha.unasked other hjob (hother heq ▸ hnone)
  case asked =>
    intro other answer hanswer
    by_cases heq : id = other
    · subst heq
      rw [hself] at hanswer
      cases hanswer
    · unfold SettledAs consulted
      rw [if_neg (hne heq), History.task?_began, if_neg (hne heq)]
      exact ha.asked other answer (hother heq ▸ hanswer)

/-- **What calls have asked and been told, in every reachable state.** -/
theorem accountable_of_run {start : Nat} {limits : Option CacheLimits}
    (run : Run system (.new start limits settings) h m) (told : system.Told (builtAs direct) h) :
    Accountable direct settings h m := by
  induction run with
  | start => exact accountable_new start limits settings
  | @begins h m m' actor task run hbegin ih =>
      cases actor with
      | call id =>
          obtain ⟨-, rfl⟩ := eq_resume_of_begin? hbegin
          exact (ih told.of_began).begins id task
      | flushLoop slot => cases hbegin
      | refreshLoop => cases hbegin
  | steps run hstep ih =>
      obtain ⟨hrule, earlier⟩ := told.of_stepped
      exact (stepped_of_step hstep).accountable (coherent_of_run run) (ih earlier) hrule

/-- A manager has buffered backends if its settings say so. -/
theorem registry_isSome_of_run {start : Nat} {limits : Option CacheLimits}
    (run : Run system (.new start limits settings) h m) : m.registry.isSome = settings.buffered := by
  have built : system.Told (builtAs fun _ _ => True) h :=
    .of_forall (fun _ _ _ _ => ⟨fun _ _ _ _ => trivial, fun _ _ _ => trivial⟩) h
  exact (accountable_of_run run built).buffered

/-- A call in progress that has been told something has its answer from a buffered backend. -/
theorem Accountable.answer?_of_consulted (ha : Accountable direct settings h m)
    (hbusy : m.jobs.find? id ≠ none) {c : Consultation} (hc : c ∈ consulted id h) :
    m.answer? id = some (settings.policy.settle c.told) := by
  cases hanswer : m.answer? id with
  | none =>
      rw [ha.unasked id hbusy hanswer] at hc
      cases hc
  | some answer =>
      obtain ⟨task, d, wire, past, told, -, -, -, hconsulted, hsettled⟩ := ha.asked id answer hanswer
      rw [hconsulted] at hc
      cases List.mem_singleton.1 hc
      rw [hsettled]

/-- **Every authorization that has come back has ended in one of these ways.** -/
theorem accounted_of_run {start : Nat} {limits : Option CacheLimits}
    (run : Run system (.new start limits settings) h m) (told : system.Told (builtAs direct) h) :
    ∀ a ∈ authorizations h, Accounted direct settings a.destination a.request a.asked a.result := by
  refine forall_authorizations run told ?_
  intro h m now id input p d request result run step told hrule htask hresult
  cases step with
  | called step =>
      exact step.accounted (coherent_of_run run) (accountable_of_run run told) hrule htask hresult

end Manager

end GatewayAuth
