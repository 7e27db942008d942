import GatewayAuth.Proofs.Registry.Made
import GatewayAuth.Proofs.Shutdown.Barrier

/-!
# `GatewayAuth.Proofs.Dispatch.Consulted` — what an authorization asks backends

An authorization asks a backend to check limits, if it goes through a buffered backend, or to check limits and record
usage, if it goes to the backend directly. What it is told through a buffered backend is then kept by its job until it
comes back: `Learns` says what a step adds to that.

## Contents
- `FailurePolicy.settle`: what a buffered backend makes of an answer; `BufferedBackend.Stepped.settles`.
- `Consultation`, `consulted`: what a call has asked backends since it began.
- `Authorization`, `authorizations`: the authorizations that have come back; `Authorization.isAuthorized`.
- `forall_authorizations`, `told_of_consulted`, `told_of_asked`: what is true of them, and of what they have been told.
- `answer?`, `Stepped.answer?_of_ne`: the answer that a call has from its buffered backend.
- `Stepped.registry`: what the registry keeps; `Made`, `Stepped.made`: how the buffered backends were made.
- `Learns`, `Called.learns`: what a step of a call adds to what it has been told.
-/

namespace GatewayAuth

/-! ## What a buffered backend makes of an answer -/

/-- The answer that a buffered backend gives where it has been told `told`: the policy may override a failure. -/
def FailurePolicy.settle (policy : FailurePolicy) :
    Except BackendError Wire.Response → Except BackendError Wire.Response
  | .ok response => .ok response
  | .error e => if policy.allows e then .ok (BufferedBackend.openResponse e) else .error e

/-- The closed policy overrides nothing. -/
@[simp] theorem FailurePolicy.settle_closed (told : Except BackendError Wire.Response) :
    closed.settle told = told := by
  cases told <;> rfl

/-- The answer that a job at a buffered backend is about to come to. -/
def BufferedJob.answer? : BufferedJob → Option (Except BackendError Wire.Response)
  | .recording _ response => some (.ok response)
  | _ => none

/-- Whether a call is an authorization that goes through a buffered backend, and has come there. -/
def ManagerJob.hasBackend : ManagerJob → Bool
  | .authorizing _ => true
  | .rechecking _ _ => true
  | .flushing _ _ => true
  | _ => false

theorem ManagerJob.hasBackend_of_isFetch {job : ManagerJob} (h : job.isFetch = true) :
    job.hasBackend = false := by
  cases job <;> first | rfl | cases h

namespace BufferedBackend

/-- A step of an authorization at its backend: it is told an answer, which settles it, or it records its usage and comes
back with what settled it. -/
theorem Stepped.settles {b : BufferedBackend} {actor : Actor} {input : Input}
    {p : Progress BufferedBackend Result Event} (h : Stepped b actor input p) {job : BufferedJob}
    {wire : Wire.Request} (hjob : b.jobs.find? actor = some job)
    (hserves : job.Serves (.authorize wire)) :
    (∃ told, input = .answered told ∧ b.want actor = .reply (.authorize b.destination wire) ∧
        job.answer? = none ∧
        (p.result? = some (.response (b.policy.settle told)) ∨
          p.result? = none ∧ ∃ job', p.state.jobs.find? actor = some job' ∧
            job'.answer? = some (b.policy.settle told))) ∨
      input = .turn ∧ ∃ answer, job.answer? = some answer ∧
        p.result? = some (.response answer) := by
  have hwant : job = .authorizing wire → b.want actor = .reply (.authorize b.destination wire) := by
    rintro rfl
    unfold want
    rw [hjob]
  cases h with
  | denied job no =>
      rw [job] at hjob
      cases hjob
      cases hserves
      exact .inl ⟨_, rfl, hwant rfl, rfl, .inl rfl⟩
  | granted job yes =>
      rw [job] at hjob
      cases hjob
      cases hserves
      exact .inl ⟨_, rfl, hwant rfl, rfl, .inr ⟨rfl, _, Table.find?_insert_self _ _ _, rfl⟩⟩
  | failed job no =>
      rw [job] at hjob
      cases hjob
      cases hserves
      refine .inl ⟨_, rfl, hwant rfl, rfl, .inl ?_⟩
      simp only [FailurePolicy.settle, no, Bool.false_eq_true, if_false]
      rfl
  | overridden job yes =>
      rw [job] at hjob
      cases hjob
      cases hserves
      refine .inl ⟨_, rfl, hwant rfl, rfl, .inr ⟨rfl, _, Table.find?_insert_self _ _ _, ?_⟩⟩
      simp only [FailurePolicy.settle, yes, if_true]
      rfl
  | recorded job =>
      rw [job] at hjob
      cases hjob
      exact .inr ⟨rfl, _, rfl, rfl⟩
  | drained job | accepted job | refused job | requeued job =>
      rw [job] at hjob
      cases hjob
      cases hserves

/-- Nobody is told an answer in a flush. -/
theorem Stepped.silent_of_flush {b : BufferedBackend} {actor : Actor} {input : Input}
    {p : Progress BufferedBackend Result Event} (h : Stepped b actor input p) {job : BufferedJob}
    (hjob : b.jobs.find? actor = some job) (hserves : job.Serves .flush)
    (told : Except BackendError Wire.Response) : input ≠ .answered told := by
  rintro rfl
  cases h with
  | denied job | granted job | failed job | overridden job =>
      rw [job] at hjob
      cases hjob
      cases hserves

end BufferedBackend

/-- A call that is at work on no backend is told no answer. -/
theorem Registry.Called.silent {r : Registry} {now : Nat} {actor : Actor} {input : Input}
    {q : Progress Registry Result Event} (work : Called r now actor input q) {job : RegistryJob}
    (hjob : r.jobs.find? actor = some job) (hnot : ∀ slot, job ≠ .using slot)
    (told : Except BackendError Wire.Response) : input ≠ .answered told := by
  rintro rfl
  cases work with
  | worked job | used job =>
      rw [job] at hjob
      cases hjob
      exact hnot _ rfl

/-- So neither is one that acquires a backend, nor one that shuts the registry down. -/
theorem Registry.Called.silent_of_working {r : Registry} {now id : Nat} {input : Input}
    {q : Progress Registry Result Event} (work : Called r now (.call id) input q) {task : Task}
    (hworking : r.Working id task) (hnot : ∀ slot work, task ≠ .use slot work)
    (told : Except BackendError Wire.Response) : input ≠ .answered told := by
  obtain ⟨job, hjob, hserves⟩ := hworking
  refine work.silent hjob ?_ told
  rintro slot rfl
  obtain ⟨work, rfl⟩ := hserves
  exact hnot slot work rfl

namespace Manager

/-! ## Questions -/

/-- One question to a backend: what had happened when it was answered, what was asked, and what was told. -/
structure Consultation where
  before : Past
  call : RemoteCall
  told : Except BackendError Wire.Response

/-- The question that is answered where an actor that waits for `want` is told `input`. -/
def consultedNow (h : Past) (want : Want) : Input → List Consultation
  | .answered told =>
    match want with
    | .reply call => [⟨h, call, told⟩]
    | _ => []
  | _ => []

/-- The questions of a call that have been answered since it began, the last one first. -/
def consulted (id : Nat) : Past → List Consultation
  | [] => []
  | .began actor _ :: h => if actor = .call id then [] else consulted id h
  | .stepped m _ actor input _ :: h =>
    if actor = .call id then consultedNow h (m.want actor) input ++ consulted id h else consulted id h

/-- Who is told no answer has asked no question. -/
theorem consultedNow_eq_nil {input : Input} (h : Past) (want : Want)
    (hsilent : ∀ told, input ≠ .answered told) : consultedNow h want input = [] := by
  unfold consultedNow
  split
  · next told => exact absurd rfl (hsilent told)
  · rfl

/-- A question is answered where its past ends. -/
theorem before_of_consultedNow {h : Past} {want : Want} {input : Input} {c : Consultation}
    (hc : c ∈ consultedNow h want input) : c.before = h := by
  unfold consultedNow at hc
  split at hc
  · split at hc
    · rw [List.mem_singleton.1 hc]
    · cases hc
  · cases hc

/-! ## Authorizations that have come back -/

/-- The authorizations that have been asked for, the last one first. -/
def requested : Past → List (String × AuthRequest)
  | [] => []
  | .began _ (.authorize d request) :: h => (d, request) :: requested h
  | .began _ _ :: h => requested h
  | .stepped _ _ _ _ _ :: h => requested h

/-- How many authorizations had been asked for when a call began. -/
def numberOf (id : Nat) : Past → Nat
  | [] => 0
  | .began actor _ :: h => if actor = .call id then (requested h).length else numberOf id h
  | .stepped _ _ _ _ _ :: h => numberOf id h

@[simp] theorem numberOf_began (id : Nat) (actor : Actor) (task : Task) (h : Past) :
    numberOf id (.began actor task :: h) =
      if actor = .call id then (requested h).length else numberOf id h := rfl

/-- An authorization that has come back: its number, what was wanted, what it has asked backends, and what it has come
to. -/
structure Authorization where
  number : Nat
  destination : String
  request : AuthRequest
  asked : List Consultation
  result : Except AuthorizerError AuthResponse

/-- Whether an authorization has come back authorized. -/
def Authorization.isAuthorized (a : Authorization) : Bool :=
  match a.result with
  | .ok response => response.authorized
  | .error _ => false

/-- The authorization that comes back at a step, if any. -/
def completedNow (h : Past) (m : Manager) (actor : Actor) (input : Input)
    (p : Progress Manager Result Event) : List Authorization :=
  match actor, p.result?, h.task? actor with
  | .call id, some (.answered result), some (.authorize d request) =>
    [⟨numberOf id h, d, request, consultedNow h (m.want actor) input ++ consulted id h, result⟩]
  | _, _, _ => []

/-- The authorizations that have come back, the last one first. -/
def authorizations : Past → List Authorization
  | [] => []
  | .began _ _ :: h => authorizations h
  | .stepped m _ actor input p :: h => completedNow h m actor input p ++ authorizations h

variable {m : Manager} {h : Past} {now id : Nat} {actor : Actor} {input : Input}
  {p : Progress Manager Result Event}

/-- What is true of every authorization when it comes back is true of all that have come back. -/
theorem forall_authorizations {s₀ : Manager} {rule : Past → Actor → Want → Input → Prop}
    {P : Authorization → Prop} (run : Run system s₀ h m) (told : system.Told rule h)
    (hnow : ∀ h m now id input p d request result, Run system s₀ h m →
      Stepped m now (.call id) input p → system.Told rule h →
      rule h (.call id) (m.want (.call id)) input →
      h.task? (.call id) = some (.authorize d request) → p.result? = some (.answered result) →
      P ⟨numberOf id h, d, request, consultedNow h (m.want (.call id)) input ++ consulted id h, result⟩) :
    ∀ a ∈ authorizations h, P a := by
  induction run with
  | start => exact fun a ha => (by cases ha)
  | begins run hbegin ih => exact ih told.of_began
  | @steps h m now actor input p run hstep ih =>
      obtain ⟨hrule, earlier⟩ := told.of_stepped
      intro a ha
      rcases List.mem_append.1 ha with hnew | hold
      · unfold completedNow at hnew
        split at hnew
        · next id result d request hresult htask =>
          cases List.mem_singleton.1 hnew
          exact hnow h m now id input p d request result run (stepped_of_step hstep) earlier hrule
            htask hresult
        · cases hnew
      · exact ih earlier a hold

/-- What a call has been told keeps to the rule of the run. -/
theorem told_of_consulted {rule : Past → Actor → Want → Input → Prop} {c : Consultation}
    (told : system.Told rule h) (hc : c ∈ consulted id h) :
    rule c.before (.call id) (.reply c.call) (.answered c.told) ∧
      numberOf id c.before = numberOf id h := by
  induction h with
  | nil => cases hc
  | cons moment h ih =>
      cases moment with
      | began actor task =>
          unfold consulted at hc
          split at hc
          · cases hc
          · next hne =>
            rw [numberOf_began, if_neg hne]
            exact ih told.of_began hc
      | stepped m now actor input p =>
          obtain ⟨hrule, earlier⟩ := told.of_stepped
          unfold consulted at hc
          split at hc
          · next heq =>
            rcases List.mem_append.1 hc with hnew | hold
            · unfold consultedNow at hnew
              split at hnew
              · split at hnew
                · next call hwant =>
                  cases List.mem_singleton.1 hnew
                  refine ⟨?_, rfl⟩
                  rw [← heq, ← hwant]
                  exact hrule
                · cases hnew
              · cases hnew
            · exact ih earlier hold
          · exact ih earlier hc

/-- So does what the authorizations that have come back have been told. -/
theorem told_of_asked {s₀ : Manager} {rule : Past → Actor → Want → Input → Prop}
    (run : Run system s₀ h m) (told : system.Told rule h) :
    ∀ a ∈ authorizations h, ∀ c ∈ a.asked, ∃ id,
      rule c.before (.call id) (.reply c.call) (.answered c.told) ∧
        numberOf id c.before = a.number := by
  refine forall_authorizations run told ?_
  intro h m now id input p d request result run step told hrule htask hresult c hc
  have told' : system.Told rule (.stepped m now (.call id) input p :: h) := .stepped hrule told
  have hc' : c ∈ consulted id (.stepped m now (.call id) input p :: h) := by
    unfold consulted
    rw [if_pos rfl]
    exact hc
  obtain ⟨hkept, hnumber⟩ := told_of_consulted told' hc'
  exact ⟨id, hkept, hnumber⟩

/-! ## What a call has been told -/

/-- The answer that a call has from its buffered backend. -/
def answer? (m : Manager) (id : Nat) : Option (Except BackendError Wire.Response) :=
  match m.jobs.find? id with
  | some (.authorizing slot) => (m.jobAt slot (.call id)).bind BufferedJob.answer?
  | some (.rechecking _ answer) => some answer
  | some (.flushing _ answer) => some answer
  | _ => none

/-- Before there is an answer, a call at a buffered backend has none; then it has the one that its job there has. -/
theorem answer?_of_authorizing {slot : Nat} {s : Slot} {job : BufferedJob}
    (hjob : m.jobs.find? id = some (.authorizing slot)) (hs : m.backends.slots[slot]? = some s)
    (hwork : s.backend.jobs.find? (.call id) = some job) : m.answer? id = job.answer? := by
  unfold answer?
  rw [hjob]
  show (m.jobAt slot (.call id)).bind BufferedJob.answer? = job.answer?
  rw [jobAt_of_slot hs, hwork]
  rfl

/-- Other calls have none. -/
theorem answer?_eq_none {job : ManagerJob} (hjob : m.jobs.find? id = some job)
    (hnot : job.hasBackend = false) : m.answer? id = none := by
  unfold answer?
  rw [hjob]
  cases job <;> first | rfl | cases hnot

theorem answer?_of_rechecking {slot : Nat} {answer : Except BackendError Wire.Response}
    (hjob : m.jobs.find? id = some (.rechecking slot answer)) : m.answer? id = some answer := by
  unfold answer?
  rw [hjob]

theorem answer?_of_flushing {slot : Nat} {answer : Except BackendError Wire.Response}
    (hjob : m.jobs.find? id = some (.flushing slot answer)) : m.answer? id = some answer := by
  unfold answer?
  rw [hjob]

/-- What other actors do changes nothing about the answer that a call has. -/
theorem Stepped.answer?_of_ne (step : Stepped m now actor input p) (hc : Coherent h m)
    (hne : actor ≠ .call id) : p.state.answer? id = m.answer? id := by
  unfold answer?
  rw [step.others hne]
  cases hjob : m.jobs.find? id with
  | none => rfl
  | some job =>
      cases job with
      | authorizing slot =>
          obtain ⟨task, htask, d, wire, -, s, job, hs, -⟩ := hc.fits id _ hjob
          obtain ⟨s', hs', hseen⟩ := step.slot hs
          have hsame : s'.backend.jobs.find? (.call id) = s.backend.jobs.find? (.call id) := by
            rcases hseen with ⟨rfl, -⟩ | move
            · rfl
            · exact move.others fun e => hne e.symm
          show (p.state.jobAt slot (.call id)).bind _ = (m.jobAt slot (.call id)).bind _
          rw [jobAt_of_slot hs, jobAt_of_slot hs', hsame]
      | _ => rfl

variable {direct : String → Except AuthorizerError Unit → Prop} {settings : DispatchSettings}

/-! ### How the backends were made -/

/-- If a manager has buffered backends, they were all made alike. -/
def Made (policy : FailurePolicy) (built : String → Prop) (m : Manager) : Prop :=
  ∀ r, m.registry = some r → r.Made policy built

/-- Where there is a slot there is a registry. -/
theorem exists_registry_of_slot {slot : Nat} {s : Slot} (hs : m.backends.slots[slot]? = some s) :
    ∃ r, m.registry = some r ∧ m.backends = r := by
  cases hr : m.registry with
  | none =>
      unfold backends at hs
      rw [hr] at hs
      cases hs
  | some r => exact ⟨r, rfl, backends_of_registry hr⟩

theorem Made.of_slot {policy : FailurePolicy} {built : String → Prop} (hmade : Made policy built m)
    {slot : Nat} {s : Slot} (hs : m.backends.slots[slot]? = some s) :
    s.backend.policy = policy ∧ built s.backend.destination := by
  obtain ⟨r, hr, hbackends⟩ := exists_registry_of_slot hs
  rw [hbackends] at hs
  exact (hmade r hr).slots slot s hs

/-- A step keeps what tasks and steps of the registry keep. A call that waits for its registry waits for what the registry
lets it wait for. -/
theorem Stepped.registry (step : Stepped m now actor input p) {P : Registry → Prop}
    (hbegan : ∀ {r r' : Registry} {id : Nat} {task : Registry.Task}, r.jobs.find? (.call id) = none →
      Registry.Began r (.call id) task r' → P r → P r')
    (hcalled : ∀ {r : Registry} {id : Nat} {q : Progress Registry Registry.Result Registry.Event},
      m.want actor = r.want (.call id) → Registry.Called r now (.call id) input q → P r → P q.state)
    (hlooped : ∀ {r : Registry} {slot : Nat} {q : Progress Registry Registry.Result Registry.Event},
      Registry.Looped r now slot input q → P r → P q.state)
    (hm : ∀ r, m.registry = some r → P r) : ∀ r, p.state.registry = some r → P r := by
  cases step with
  | looped hr work =>
      intro r' hr'
      cases hr'
      exact hlooped work (hm _ hr)
  | refreshed work => exact hm
  | called step =>
      cases step with
      | fetched hjob step =>
          intro r' hr'
          rw [step.frame.1] at hr'
          exact hm r' hr'
      | acquires hjob hwire hr free began | overtaken hjob hr closed free began
      | drains hjob opened hr free began =>
          intro r' hr'
          cases hr'
          exact hbegan free began (hm _ hr)
      | waited hjob hat hr work more =>
          intro r' hr'
          cases hr'
          exact hcalled (want_of_isAtRegistry hjob hat hr) work (hm _ hr)
      | acquired hjob hr work last free began =>
          intro r' hr'
          cases hr'
          exact hbegan free began (hcalled (want_of_isAtRegistry hjob rfl hr) work (hm _ hr))
      | notAcquired hjob hr work | answered hjob hr work | flushed hjob hr work
      | drained hjob hr work =>
          intro r' hr'
          cases hr'
          exact hcalled (want_of_isAtRegistry hjob rfl hr) work (hm _ hr)
      | _ => exact hm

/-- Steps keep how the backends were made, if the clients that are built for them are such. -/
theorem Stepped.made (step : Stepped m now actor input p) {policy : FailurePolicy}
    {built : String → Prop} (hmade : Made policy built m)
    (hbuilt : ∀ d, m.want actor = .client (.buffered d) → input = .built (.ok ()) → built d) :
    Made policy built p.state := by
  refine step.registry (fun _ began hr => began.made hr) ?_ (fun work hr => work.made hr) hmade
  intro r id q hwant work hr
  exact work.made hr fun d hat => hbuilt d (hwant.trans hat)

/-! ### Answers -/

/-- What a step adds to what a call has been told: nothing, or the answer to its question, which its buffered backend
then settles. -/
inductive Learns (direct : String → Except AuthorizerError Unit → Prop) (settings : DispatchSettings)
    (h : Past) (m : Manager) (id : Nat) (input : Input)
    (after? : Option (Except BackendError Wire.Response)) : Prop where
  | nothing (silent : consultedNow h (m.want (.call id)) input = []) (same : after? = m.answer? id)
  | answer {task : Task} {d : String} {wire : Wire.Request} {told : Except BackendError Wire.Response}
      (htask : h.task? (.call id) = some task) (wants : task.Wants d wire) (built : direct d (.ok ()))
      (unasked : m.answer? id = none)
      (learned : consultedNow h (m.want (.call id)) input = [⟨h, .authorize d wire, told⟩])
      (settled : after? = some (settings.policy.settle told))

/-- A step of a call that is at no buffered backend before it and after it. -/
theorem Learns.of_beside {m' : Manager} {job job' : ManagerJob}
    (hsilent : ∀ told, input ≠ .answered told) (hjob : m.jobs.find? id = some job)
    (hnot : job.hasBackend = false) (hjob' : m'.jobs.find? id = some job')
    (hnot' : job'.hasBackend = false) : Learns direct settings h m id input (m'.answer? id) := by
  refine .nothing (consultedNow_eq_nil h _ hsilent) ?_
  rw [answer?_eq_none hjob hnot, answer?_eq_none hjob' hnot']

/-- A step at the buffered backend of a call, after which the call has the answer that its job there has, or the one
that this job has come to. -/
theorem learns_of_authorizing (hc : Coherent h m)
    (hmade : Made settings.policy (fun d => direct d (.ok ())) m) {slot : Nat} {s : Slot}
    {q : Progress BufferedBackend BufferedBackend.Result BufferedBackend.Event}
    (hjob : m.jobs.find? id = some (.authorizing slot)) (hs : m.backends.slots[slot]? = some s)
    (work : BufferedBackend.Stepped s.backend (.call id) input q)
    {after? : Option (Except BackendError Wire.Response)}
    (hmore : q.result? = none → ∀ job, q.state.jobs.find? (.call id) = some job → after? = job.answer?)
    (hlast : ∀ answer, q.result? = some (.response answer) → after? = some answer) :
    Learns direct settings h m id input after? := by
  obtain ⟨task, htask, d, wire, hwants, s', job, hs', hd, -, hwork, hserves⟩ := hc.fits id _ hjob
  rw [hs] at hs'
  cases hs'
  obtain ⟨hpolicy, hbuilt⟩ := hmade.of_slot hs
  rcases work.settles hwork hserves with
    ⟨told, rfl, hwant, hnone, hsettled⟩ | ⟨rfl, answer, hanswer, hresult⟩
  · rw [← hc.want_of_job hs hwork] at hwant
    rw [hd] at hwant hbuilt
    rw [hpolicy] at hsettled
    refine .answer htask hwants hbuilt ?_ (by rw [hwant]; rfl) ?_
    · rw [answer?_of_authorizing hjob hs hwork]
      exact hnone
    · rcases hsettled with hresult | ⟨hresult, job', hjob', hanswer⟩
      · exact hlast _ hresult
      · rw [hmore hresult job' hjob']
        exact hanswer
  · refine .nothing (consultedNow_eq_nil h _ nofun) ?_
    rw [hlast answer hresult, answer?_of_authorizing hjob hs hwork, hanswer]

/-- **What a step of a call that goes on adds to what the call has been told.** -/
theorem Called.learns (step : Called m now id input p) (hc : Coherent h m)
    (hmade : Made settings.policy (fun d => direct d (.ok ())) m) (more : p.result? = none) :
    Learns direct settings h m id input (p.state.answer? id) := by
  cases step with
  | fetched hjob step =>
      obtain ⟨-, -, -, ⟨-, job', hjobs, hfetch', -⟩ | ⟨-, config, hresult⟩⟩ := step.frame
      · refine .of_beside (fun told heq => by subst heq; cases step) hjob
          (ManagerJob.hasBackend_of_isFetch step.isFetch) ?_
          (ManagerJob.hasBackend_of_isFetch hfetch')
        rw [hjobs, Table.find?_insert_self]
      · rw [hresult] at more
        cases more
  | @waited job r _ q hjob hat hr work unfinished =>
      obtain ⟨task, htask, hfits⟩ := hc.fits id _ hjob
      have hjob' : ({ m with registry := some q.state } : Manager).jobs.find? id = some job := hjob
      cases job with
      | acquiring d wire =>
          rw [backends_of_registry hr] at hfits
          exact .of_beside (work.silent_of_working hfits.2 nofun) hjob rfl hjob' rfl
      | drainingBackends =>
          rw [backends_of_registry hr] at hfits
          exact .of_beside (work.silent_of_working hfits.2 nofun) hjob rfl hjob' rfl
      | authorizing slot =>
          obtain ⟨d, wire, hwants, s, job, hs, hd, husing, hwork, hserves⟩ := hfits
          rw [backends_of_registry hr] at husing
          have hs₀ := hs
          rw [backends_of_registry hr] at hs₀
          obtain ⟨q', stepped, hslots, hresult, -⟩ := work.works husing hs₀
          refine learns_of_authorizing hc hmade hjob hs stepped (fun hmore job' hwork' => ?_) ?_
          · have hs' : q.state.slots[slot]? = some { s with backend := q'.state } := by
              rw [hslots]
              exact List.getElem?_set_self (List.getElem?_eq_some_iff.1 hs₀).1
            exact answer?_of_authorizing hjob' hs' hwork'
          · intro answer hlast
            rw [unfinished, hlast] at hresult
            cases hresult
      | flushing slot answer =>
          obtain ⟨d, wire, hwants, s, job, hs, hd, husing, hwork, hserves⟩ := hfits
          rw [backends_of_registry hr] at husing hs
          obtain ⟨q', stepped, -⟩ := work.works husing hs
          refine .nothing (consultedNow_eq_nil h _ (stepped.silent_of_flush hwork hserves)) ?_
          rw [answer?_of_flushing hjob, answer?_of_flushing hjob']
      | _ => cases hat
  | @acquired d wire slot r r' _ q hjob hr work last free began =>
      obtain ⟨task, htask, hwants, hworking⟩ := hc.fits id _ hjob
      rw [backends_of_registry hr] at hworking
      refine .nothing (consultedNow_eq_nil h _ (work.silent_of_working hworking nofun)) ?_
      rw [answer?_eq_none hjob rfl]
      cases began with
      | @use _ s _ hslot free =>
          -- the work at the slot has been started in this step, and has no answer yet
          let s' : Slot := { s with backend := s.backend.resume (.call id) (.authorizing wire) }
          have hs' : (q.state.slots.set slot s')[slot]? = some s' :=
            List.getElem?_set_self (List.getElem?_eq_some_iff.1 hslot).1
          have hwork : s'.backend.jobs.find? (.call id) = some (.authorizing wire) :=
            Table.find?_insert_self _ _ _
          exact answer?_of_authorizing (Table.find?_insert_self _ _ _) hs' hwork
  | notAcquired hjob hr work last =>
      obtain ⟨task, htask, hwants, hworking⟩ := hc.fits id _ hjob
      rw [backends_of_registry hr] at hworking
      exact .of_beside (work.silent_of_working hworking nofun) hjob rfl
        (Table.find?_insert_self _ _ _) rfl
  | @answered slot answer r _ q hjob hr work last =>
      obtain ⟨task, htask, d, wire, hwants, s, job, hs, hd, husing, hwork, hserves⟩ := hc.fits id _ hjob
      rw [backends_of_registry hr] at husing
      have hs₀ := hs
      rw [backends_of_registry hr] at hs₀
      obtain ⟨q', stepped, -, hresult, -⟩ := work.works husing hs₀
      rw [last] at hresult
      obtain ⟨result, hresult', heq⟩ := Option.map_eq_some_iff.1 hresult.symm
      cases heq
      refine learns_of_authorizing hc hmade hjob hs stepped (fun hmore => ?_) fun answer' hlast => ?_
      · rw [hmore] at hresult'
        cases hresult'
      · rw [hresult'] at hlast
        cases hlast
        exact answer?_of_rechecking (Table.find?_insert_self _ _ _)
  | overtaken hjob hr closed free began =>
      refine .nothing (consultedNow_eq_nil h _ nofun) ?_
      rw [answer?_of_rechecking hjob]
      exact answer?_of_flushing (Table.find?_insert_self _ _ _)
  | drained hjob hr work last =>
      obtain ⟨task, htask, hshutdown, hworking⟩ := hc.fits id _ hjob
      rw [backends_of_registry hr] at hworking
      exact .of_beside (work.silent_of_working hworking nofun) hjob rfl
        (Table.find?_insert_self _ _ _) rfl
  | acquires hjob | goesDirect hjob | opened hjob | drains hjob | drainsNothing hjob
  | stopsRefresh hjob =>
      exact .of_beside nofun hjob rfl (Table.find?_insert_self _ _ _) rfl
  | malformed | returned | flushed | notOpened | called | followed | stopsNothing | joined =>
      cases more

end Manager

end GatewayAuth
