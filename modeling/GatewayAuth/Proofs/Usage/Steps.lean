import GatewayAuth.Proofs.Run
import GatewayAuth.Proofs.Usage.Totals
import GatewayAuth.Usage.Buffered

/-!
# `GatewayAuth.Proofs.Usage.Steps` — what one step of a buffered backend does

`Stepped` says once what a step can be, one constructor for each phase of a job and each thing it can be told.
Everything later is read off its cases: where the actor's job goes, that other jobs stay, and the balance of a
step, which is the heart of the conservation of usage.

## Contents
- `BufferedJob.Serves`, `authorizedBy`: the task behind a job, and the request that its result authorizes.
- `eq_resume_of_begin?`, `Stepped`, `stepped_of_step`: how a task starts, and the cases of a step.
- `Stepped.others`, `goes_on`, `job_gone`: jobs after a step; `recordedOf_events`: what it records.
- `heldAt`: the usage in the buffer and in batches that are out; `Stepped.balance`: how a step changes it.
-/

namespace GatewayAuth

/-! ## Tasks, jobs and events -/

/-- The task that a job carries out; a request that is about to be recorded has been authorized. -/
def BufferedJob.Serves : BufferedJob → BufferedBackend.Task → Prop
  | .authorizing request, task => task = .authorize request
  | .recording request response, task => task = .authorize request ∧ response.authorized = true
  | _, task => task = .flush

namespace BufferedBackend

/-- The request that is answered as authorized when a task comes to a result, if any. -/
def authorizedBy : Task → Result → List Wire.Request
  | .authorize request, .response (.ok response) => if response.authorized then [request] else []
  | _, _ => []

/-- The requests whose usage went into the buffer. -/
def recordedOf (events : List Event) : List Wire.Request :=
  events.filterMap fun e => match e with | .recorded request => some request | _ => none

/-- The batches that the backend accepted. -/
def acceptedOf (events : List Event) : List Wire.Batch :=
  events.filterMap fun e => match e with | .accepted batch => some batch | _ => none

theorem recordedOf_append (events events' : List Event) :
    recordedOf (events ++ events') = recordedOf events ++ recordedOf events' := List.filterMap_append

@[simp] theorem recordedOf_nil : recordedOf [] = [] := rfl

@[simp] theorem acceptedOf_nil : acceptedOf [] = [] := rfl

@[simp] theorem recordedOf_recorded (r : Wire.Request) (events : List Event) :
    recordedOf (.recorded r :: events) = r :: recordedOf events := rfl

@[simp] theorem acceptedOf_recorded (r : Wire.Request) (events : List Event) :
    acceptedOf (.recorded r :: events) = acceptedOf events := rfl

@[simp] theorem recordedOf_accepted (b : Wire.Batch) (events : List Event) :
    recordedOf (.accepted b :: events) = recordedOf events := rfl

@[simp] theorem acceptedOf_accepted (b : Wire.Batch) (events : List Event) :
    acceptedOf (.accepted b :: events) = b :: acceptedOf events := rfl

/-! ## Changes of one job -/

variable {b : BufferedBackend} {actor : Actor} {input : Input}
  {p : Progress BufferedBackend Result Event}

@[simp] theorem jobs_resume (b : BufferedBackend) (actor : Actor) (job : BufferedJob) :
    (b.resume actor job).jobs = b.jobs.insert actor job := rfl

@[simp] theorem jobs_release (b : BufferedBackend) (actor : Actor) :
    (b.release actor).jobs = b.jobs.erase actor := rfl

@[simp] theorem buffer_resume (b : BufferedBackend) (actor : Actor) (job : BufferedJob) :
    (b.resume actor job).buffer = b.buffer := rfl

@[simp] theorem buffer_release (b : BufferedBackend) (actor : Actor) :
    (b.release actor).buffer = b.buffer := rfl

@[simp] theorem buffer_next (b : BufferedBackend) (actor : Actor) (summary : FlushSummary)
    (rest : List Wire.Batch) : (b.next actor summary rest).state.buffer = b.buffer := by
  cases rest <;> rfl

@[simp] theorem destination_next (b : BufferedBackend) (actor : Actor) (summary : FlushSummary)
    (rest : List Wire.Batch) : (b.next actor summary rest).state.destination = b.destination := by
  cases rest <;> rfl

@[simp] theorem recordedOf_next (b : BufferedBackend) (actor : Actor) (summary : FlushSummary)
    (rest : List Wire.Batch) : recordedOf (b.next actor summary rest).events = [] := by
  cases rest <;> rfl

@[simp] theorem acceptedOf_next (b : BufferedBackend) (actor : Actor) (summary : FlushSummary)
    (rest : List Wire.Batch) : acceptedOf (b.next actor summary rest).events = [] := by
  cases rest <;> rfl

/-- What an actor's job is after a batch has been dealt with. -/
theorem find?_next (b : BufferedBackend) (actor : Actor) (summary : FlushSummary)
    (rest : List Wire.Batch) :
    (b.next actor summary rest).state.jobs.find? actor =
      match rest with
      | [] => none
      | batch :: rest => some (.reporting batch rest summary) := by
  cases rest <;> simp [next, Progress.quiet]

theorem find?_next_of_ne {b : BufferedBackend} {actor other : Actor} (hne : other ≠ actor)
    (summary : FlushSummary) (rest : List Wire.Batch) :
    (b.next actor summary rest).state.jobs.find? other = b.jobs.find? other := by
  have hne' : actor ≠ other := fun e => hne e.symm
  cases rest with
  | nil => simp [next, Table.find?_erase, hne']
  | cons batch rest => simp [next, Progress.quiet, Table.find?_insert, hne']

/-! ## The cases of a step -/

/-- The phase in which a task starts. -/
def Task.job : Task → BufferedJob
  | .authorize request => .authorizing request
  | .flush => .draining

theorem Task.serves_job (task : Task) : task.job.Serves task := by
  cases task <;> rfl

/-- A task starts where its actor has none, and changes nothing else. -/
theorem eq_resume_of_begin? {b' : BufferedBackend} {task : Task}
    (h : b.begin? actor task = some b') :
    b.jobs.find? actor = none ∧ b' = b.resume actor task.job := by
  unfold begin? at h
  split at h
  · cases h
  · next hfree =>
    refine ⟨Table.contains_eq_false_iff.1 (Bool.not_eq_true _ ▸ hfree), ?_⟩
    cases task <;> cases h <;> rfl

/-- What a step of an actor can be: one case for each phase of its job and each thing it can be told. -/
inductive Stepped (b : BufferedBackend) (actor : Actor) :
    Input → Progress BufferedBackend Result Event → Prop where
  | denied {request : Wire.Request} {response : Wire.Response}
      (job : b.jobs.find? actor = some (.authorizing request)) (no : response.authorized = false) :
      Stepped b actor (.answered (.ok response))
        (.done (b.release actor) (.response (.ok response)))
  | granted {request : Wire.Request} {response : Wire.Response}
      (job : b.jobs.find? actor = some (.authorizing request)) (yes : response.authorized = true) :
      Stepped b actor (.answered (.ok response))
        (.quiet (b.resume actor (.recording request response)))
  | failed {request : Wire.Request} {e : BackendError}
      (job : b.jobs.find? actor = some (.authorizing request)) (no : b.policy.allows e = false) :
      Stepped b actor (.answered (.error e)) (.done (b.release actor) (.response (.error e)))
  | overridden {request : Wire.Request} {e : BackendError}
      (job : b.jobs.find? actor = some (.authorizing request)) (yes : b.policy.allows e = true) :
      Stepped b actor (.answered (.error e))
        (.quiet (b.resume actor (.recording request (openResponse e))))
  | recorded {request : Wire.Request} {response : Wire.Response}
      (job : b.jobs.find? actor = some (.recording request response)) :
      Stepped b actor .turn
        ⟨({ b with buffer := b.buffer.record request } : BufferedBackend).release actor,
          some (.response (.ok response)), [.recorded request]⟩
  | drained (job : b.jobs.find? actor = some .draining) :
      Stepped b actor .turn
        (({ b with buffer := .empty } : BufferedBackend).next actor .zero b.buffer.batches)
  | accepted {batch : Wire.Batch} {rest : List Wire.Batch} {summary : FlushSummary}
      (job : b.jobs.find? actor = some (.reporting batch rest summary)) :
      Stepped b actor (.reported (.ok ()))
        (let p := b.next actor { summary with reported := summary.reported + 1 } rest;
          { p with events := .accepted batch :: p.events })
  | refused {batch : Wire.Batch} {rest : List Wire.Batch} {summary : FlushSummary}
      {e : BackendError} (job : b.jobs.find? actor = some (.reporting batch rest summary)) :
      Stepped b actor (.reported (.error e))
        (.quiet (b.resume actor (.requeueing batch rest summary)))
  | requeued {batch : Wire.Batch} {rest : List Wire.Batch} {summary : FlushSummary}
      (job : b.jobs.find? actor = some (.requeueing batch rest summary)) :
      Stepped b actor .turn
        (({ b with buffer := b.buffer.merge batch } : BufferedBackend).next actor
          { summary with requeued := summary.requeued + 1 } rest)

/-- Every step is one of these cases. -/
theorem stepped_of_step (h : b.step actor input = some p) : Stepped b actor input p := by
  unfold step at h
  split at h
  · next request response job =>
    split at h
    · next yes => cases h; exact .granted job yes
    · next no => cases h; exact .denied job (Bool.not_eq_true _ ▸ no)
  · next request e job =>
    split at h
    · next yes => cases h; exact .overridden job yes
    · next no => cases h; exact .failed job (Bool.not_eq_true _ ▸ no)
  · next request response job => cases h; exact .recorded job
  · next job => cases h; exact .drained job
  · next batch rest summary job => cases h; exact .accepted job
  · next batch rest summary e job => cases h; exact .refused job
  · next batch rest summary job => cases h; exact .requeued job
  · cases h

/-- The reports that an actor waits for go to the destination of its backend. -/
theorem acceptedNow_want_of_ne {d : String} (hd : b.destination ≠ d) (actor : Actor)
    (input : Input) : System.acceptedNow d (b.want actor) input = none := by
  unfold System.acceptedNow want
  split
  · cases b.jobs.find? actor with
    | none => rfl
    | some job =>
        cases job with
        | reporting batch rest summary => exact if_neg hd
        | _ => rfl
  · rfl

namespace Stepped

/-- A step leaves the jobs of other actors alone. -/
theorem others (h : Stepped b actor input p) {other : Actor} (hne : other ≠ actor) :
    p.state.jobs.find? other = b.jobs.find? other := by
  have hne' : actor ≠ other := fun e => hne e.symm
  cases h with
  | denied | failed => simp [Progress.done, Table.find?_erase, hne']
  | granted | overridden | refused => simp [Progress.quiet, Table.find?_insert, hne']
  | recorded => simp [Table.find?_erase, hne']
  | drained | accepted | requeued => exact find?_next_of_ne hne _ _

theorem destination (h : Stepped b actor input p) : p.state.destination = b.destination := by
  cases h <;> simp [Progress.done, Progress.quiet, resume, release]

/-- Only an actor with a job takes steps. -/
theorem has_job (h : Stepped b actor input p) : ∃ job, b.jobs.find? actor = some job := by
  cases h <;> exact ⟨_, ‹_›⟩

/-- A step without a result leads to another phase of the same task. -/
theorem goes_on (h : Stepped b actor input p) (hp : p.result? = none) {job : BufferedJob}
    {task : Task} (hjob : b.jobs.find? actor = some job) (hserves : job.Serves task) :
    ∃ job', p.state.jobs.find? actor = some job' ∧ job'.Serves task := by
  cases h with
  | denied | failed | recorded => cases hp
  | granted job yes =>
      rw [job] at hjob
      cases hjob
      exact ⟨_, Table.find?_insert_self _ _ _, hserves, yes⟩
  | overridden job yes =>
      rw [job] at hjob
      cases hjob
      exact ⟨_, Table.find?_insert_self _ _ _, hserves, rfl⟩
  | drained job =>
      rw [job] at hjob
      cases hjob
      rw [find?_next]
      -- a flush goes on as long as there is a batch to report
      cases hbatches : b.buffer.batches with
      | nil => rw [hbatches] at hp; cases hp
      | cons batch rest => exact ⟨_, rfl, hserves⟩
  | @accepted batch rest summary job | @requeued batch rest summary job =>
      rw [job] at hjob
      cases hjob
      rw [find?_next]
      cases rest with
      | nil => cases hp
      | cons batch rest => exact ⟨_, rfl, hserves⟩
  | refused job =>
      rw [job] at hjob
      cases hjob
      exact ⟨_, Table.find?_insert_self _ _ _, hserves⟩

/-- A step with a result takes the job away. -/
theorem job_gone (h : Stepped b actor input p) {result : Result} (hp : p.result? = some result) :
    p.state.jobs.find? actor = none := by
  cases h with
  | granted | overridden | refused => cases hp
  | denied | failed | recorded => exact Table.find?_erase_self _ _
  | drained job =>
      rw [find?_next]
      cases hbatches : b.buffer.batches with
      | nil => rfl
      | cons batch rest => rw [hbatches] at hp; cases hp
  | @accepted batch rest summary job | @requeued batch rest summary job =>
      rw [find?_next]
      cases rest with
      | nil => rfl
      | cons batch rest => cases hp

/-- A step without a result records nothing. -/
theorem recordedOf_of_more (h : Stepped b actor input p) (hp : p.result? = none) :
    recordedOf p.events = [] := by
  cases h with
  | granted | overridden | refused => rfl
  | drained | accepted | requeued => exact recordedOf_next _ _ _ _
  | denied | failed | recorded => cases hp

/-- A step with a result records what that result calls for. -/
theorem recordedOf_events (h : Stepped b actor input p) {result : Result}
    (hp : p.result? = some result) {job : BufferedJob} {task : Task}
    (hjob : b.jobs.find? actor = some job) (hserves : job.Serves task) :
    recordedOf p.events = authorizedBy task result := by
  cases h with
  | granted | overridden | refused => cases hp
  | denied job no =>
      rw [job] at hjob
      cases hjob
      cases hp
      cases hserves
      simp [authorizedBy, no, Progress.done]
  | failed job no =>
      rw [job] at hjob
      cases hjob
      cases hp
      cases hserves
      rfl
  | recorded job =>
      rw [job] at hjob
      cases hjob
      cases hp
      obtain ⟨rfl, yes⟩ := hserves
      simp [authorizedBy, yes]
  | drained job | accepted job | requeued job =>
      rw [job] at hjob
      cases hjob
      cases hserves
      exact recordedOf_next _ _ _ _

/-- A flush records nothing. -/
theorem recordedOf_of_flush (h : Stepped b actor input p) {job : BufferedJob}
    (hjob : b.jobs.find? actor = some job) (hserves : job.Serves .flush) :
    recordedOf p.events = [] := by
  cases hresult : p.result? with
  | none => exact h.recordedOf_of_more hresult
  | some result => rw [h.recordedOf_events hresult hjob hserves]; rfl

/-- What the backend accepts at a step is what its answer to a report says. -/
theorem acceptedOf_events (h : Stepped b actor input p) :
    acceptedOf p.events = (System.acceptedNow b.destination (b.want actor) input).toList := by
  unfold want
  cases h with
  | denied job | granted job | failed job | overridden job | recorded job | refused job =>
      rw [job]
      rfl
  | drained job | requeued job =>
      rw [job]
      exact acceptedOf_next _ _ _ _
  | accepted job =>
      rw [job]
      simp [System.acceptedNow]

/-- Whoever drains empties the buffer. -/
theorem buffer_of_draining (h : Stepped b actor input p)
    (hjob : b.jobs.find? actor = some .draining) : p.state.buffer = .empty := by
  cases h with
  | drained job => exact buffer_next _ _ _ _
  | _ => simp_all only [Option.some.injEq, reduceCtorEq]

/-- A request that is being recorded is answered at the same step. -/
theorem result?_of_recording (h : Stepped b actor input p) {request : Wire.Request}
    {response : Wire.Response} (hjob : b.jobs.find? actor = some (.recording request response)) :
    p.result? = some (.response (.ok response)) := by
  cases h with
  | recorded job =>
      rw [job] at hjob
      cases hjob
      rfl
  | _ => simp_all only [Option.some.injEq, reduceCtorEq]

/-- A batch is put back only after its report has failed. -/
theorem refusedNow_of_requeueing (h : Stepped b actor input p) {batch : Wire.Batch}
    {rest : List Wire.Batch} {summary : FlushSummary}
    (hjob : p.state.jobs.find? actor = some (.requeueing batch rest summary)) :
    System.refusedNow (b.want actor) input = true := by
  have hnext : ∀ {b' : BufferedBackend} {summary' : FlushSummary} {rest' : List Wire.Batch},
      (b'.next actor summary' rest').state.jobs.find? actor ≠
        some (.requeueing batch rest summary) := by
    intro b' summary' rest' h
    rw [find?_next] at h
    cases rest' <;> cases h
  cases h with
  | denied | failed => exact absurd hjob (by simp [Progress.done])
  | granted | overridden => exact absurd hjob (by simp [Progress.quiet])
  | recorded => exact absurd hjob (by simp)
  | drained | accepted | requeued => exact absurd hjob hnext
  | refused job =>
      unfold want
      rw [job]
      rfl

end Stepped

/-! ## The balance of a step -/

/-- The batches that an actor has taken out. -/
def carried (b : BufferedBackend) (actor : Actor) : List Wire.Batch :=
  match b.jobs.find? actor with
  | some job => job.inFlight
  | none => []

/-- The amount of an account in batches that flushes have taken out and not yet got accepted or put back. -/
def inFlightAt (b : BufferedBackend) (a : Account) : Int :=
  b.jobs.sumOf fun _ job => batchesAt job.inFlight a

/-- The amount of an account that is pending or in flight. -/
def heldAt (b : BufferedBackend) (a : Account) : Int := b.buffer.pendingAt a + b.inFlightAt a

/-- The running totals of an account that the next step of an actor forms in the buffer. -/
def formed (b : BufferedBackend) (actor : Actor) (a : Account) : List Int :=
  match b.jobs.find? actor with
  | some (.recording request _) => b.buffer.recordSums a request request.transactions
  | some (.requeueing batch _ _) => b.buffer.sums batch.key batch.usage a
  | _ => []

theorem inFlightAt_resume (b : BufferedBackend) (actor : Actor) (job : BufferedJob) (a : Account) :
    (b.resume actor job).inFlightAt a + batchesAt (b.carried actor) a =
      b.inFlightAt a + batchesAt job.inFlight a := by
  have h := Table.sumOf_insert (fun _ job => batchesAt job.inFlight a) b.jobs actor job
  unfold inFlightAt carried
  cases hjob : b.jobs.find? actor <;> simpa [hjob] using h

theorem inFlightAt_release (b : BufferedBackend) (actor : Actor) (a : Account) :
    (b.release actor).inFlightAt a + batchesAt (b.carried actor) a = b.inFlightAt a := by
  have h := Table.sumOf_erase (fun _ job => batchesAt job.inFlight a) b.jobs actor
  unfold inFlightAt carried
  cases hjob : b.jobs.find? actor <;> simpa [hjob] using h

/-- After a batch has been dealt with, an actor carries the rest. -/
theorem inFlightAt_next (b : BufferedBackend) (actor : Actor) (summary : FlushSummary)
    (rest : List Wire.Batch) (a : Account) :
    (b.next actor summary rest).state.inFlightAt a + batchesAt (b.carried actor) a =
      b.inFlightAt a + batchesAt rest a := by
  cases rest with
  | nil =>
      rw [batchesAt_nil, Int.add_zero]
      exact inFlightAt_release b actor a
  | cons batch rest => exact inFlightAt_resume b actor _ a

theorem carried_of_job {job : BufferedJob} (h : b.jobs.find? actor = some job) :
    b.carried actor = job.inFlight := by
  unfold carried
  rw [h]

/-- The start of a task changes nothing of what is held. -/
theorem heldAt_resume_job {task : Task} (free : b.jobs.find? actor = none) (a : Account) :
    (b.resume actor task.job).heldAt a = b.heldAt a := by
  have hflight := inFlightAt_resume b actor task.job a
  unfold carried at hflight
  rw [free, show task.job.inFlight = [] by cases task <;> rfl] at hflight
  unfold heldAt
  rw [buffer_resume]
  simp only [batchesAt_nil] at hflight
  omega

/-- **The balance of a step.** What was held before a step, and what it records, is held after it or accepted
by the backend. -/
theorem Stepped.balance (h : Stepped b actor input p) {a : Account}
    (fits : ∀ n ∈ b.formed actor a, InRange n) :
    p.state.heldAt a + batchesAt (acceptedOf p.events) a =
      b.heldAt a + requestsAt (recordedOf p.events) a := by
  unfold heldAt
  cases h with
  | denied job | failed job =>
      have hflight := inFlightAt_release b actor a
      rw [carried_of_job job] at hflight
      simp only [Progress.done, BufferedJob.inFlight, batchesAt_nil, buffer_release,
        acceptedOf_nil, recordedOf_nil, requestsAt_nil] at hflight ⊢
      omega
  | @granted request response job yes =>
      have hflight := inFlightAt_resume b actor (.recording request response) a
      rw [carried_of_job job] at hflight
      simp only [Progress.quiet, BufferedJob.inFlight, batchesAt_nil, buffer_resume,
        acceptedOf_nil, recordedOf_nil, requestsAt_nil] at hflight ⊢
      omega
  | @overridden request e job yes =>
      have hflight := inFlightAt_resume b actor (.recording request (openResponse e)) a
      rw [carried_of_job job] at hflight
      simp only [Progress.quiet, BufferedJob.inFlight, batchesAt_nil, buffer_resume,
        acceptedOf_nil, recordedOf_nil, requestsAt_nil] at hflight ⊢
      omega
  | @recorded request response job =>
      -- the usage of the request goes into the buffer, since no total saturates
      have hpending : (b.buffer.record request).pendingAt a =
          b.buffer.pendingAt a + request.usageAt a := by
        apply UsageBuffer.pendingAt_record
        intro n hn
        apply fits
        unfold formed
        rw [job]
        exact hn
      have hflight := inFlightAt_release { b with buffer := b.buffer.record request } actor a
      rw [carried_of_job (b := { b with buffer := b.buffer.record request }) job] at hflight
      simp only [BufferedJob.inFlight, batchesAt_nil, buffer_release, acceptedOf_recorded,
        acceptedOf_nil, recordedOf_recorded, recordedOf_nil, requestsAt_cons, requestsAt_nil,
        hpending] at hflight ⊢
      have : ({ b with buffer := b.buffer.record request } : BufferedBackend).inFlightAt a =
          b.inFlightAt a := rfl
      omega
  | drained job =>
      -- all that was pending is in flight
      have hflight := inFlightAt_next { b with buffer := .empty } actor .zero b.buffer.batches a
      rw [carried_of_job (b := { b with buffer := .empty }) job,
        UsageBuffer.usageAt_batches] at hflight
      simp only [BufferedJob.inFlight, batchesAt_nil, buffer_next, acceptedOf_next,
        recordedOf_next, requestsAt_nil, UsageBuffer.pendingAt_empty] at hflight ⊢
      have : ({ b with buffer := .empty } : BufferedBackend).inFlightAt a = b.inFlightAt a := rfl
      omega
  | @accepted batch rest summary job =>
      have hflight := inFlightAt_next b actor { summary with reported := summary.reported + 1 }
        rest a
      rw [carried_of_job job] at hflight
      simp only [BufferedJob.inFlight, batchesAt_cons, buffer_next, acceptedOf_accepted,
        acceptedOf_next, batchesAt_nil, recordedOf_accepted, recordedOf_next,
        requestsAt_nil] at hflight ⊢
      omega
  | @refused batch rest summary e job =>
      have hflight := inFlightAt_resume b actor (.requeueing batch rest summary) a
      rw [carried_of_job job] at hflight
      simp only [Progress.quiet, BufferedJob.inFlight, batchesAt_nil, buffer_resume,
        acceptedOf_nil, recordedOf_nil, requestsAt_nil] at hflight ⊢
      omega
  | @requeued batch rest summary job =>
      -- the batch goes back on top of what has come in meanwhile
      have hpending : (b.buffer.merge batch).pendingAt a =
          b.buffer.pendingAt a + batch.usageAt a := by
        apply UsageBuffer.pendingAt_merge
        intro n hn
        apply fits
        unfold formed
        rw [job]
        exact hn
      have hflight := inFlightAt_next { b with buffer := b.buffer.merge batch } actor
        { summary with requeued := summary.requeued + 1 } rest a
      rw [carried_of_job (b := { b with buffer := b.buffer.merge batch }) job] at hflight
      simp only [BufferedJob.inFlight, batchesAt_cons, batchesAt_nil, buffer_next, acceptedOf_next,
        recordedOf_next, requestsAt_nil, hpending] at hflight ⊢
      have : ({ b with buffer := b.buffer.merge batch } : BufferedBackend).inFlightAt a =
          b.inFlightAt a := rfl
      omega

end BufferedBackend

end GatewayAuth
