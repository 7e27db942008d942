import GatewayAuth.Proofs.Usage.Steps

/-!
# `GatewayAuth.Proofs.Usage.Conservation` — no usage is lost or counted twice

A buffered backend is worked on by any number of authorizations and flushes at the same time, and any report
may fail. In every state that can be reached, what has been recorded in an account is what is pending, what is
in flight and what the backend has accepted, and what has been recorded is the usage of the authorized
requests.

## Contents
- `BufferedBackend.system`: a buffered backend and all that it can do.
- `authorizedIn`, `formedIn`: the authorized requests of a run, and the running totals it has formed.
- `served`: every job carries out the task its actor was given.
- `usage_conserved`: the conservation of usage.
-/

namespace GatewayAuth.BufferedBackend

/-- A buffered backend as a system of actors. -/
def system : System BufferedBackend Task Result Event :=
  ⟨begin?, want, fun b _ actor input => b.step actor input⟩

/-- What has happened at a buffered backend. -/
abbrev Past := History BufferedBackend Task Result Event

/-- The requests among completed tasks that were answered as authorized. -/
def authorizedIn (outcomes : List (Task × Result)) : List Wire.Request :=
  outcomes.flatMap fun o => authorizedBy o.1 o.2

/-- The running totals of an account that have been formed in the buffer. -/
def formedIn (a : Account) : Past → List Int
  | [] => []
  | .began _ _ :: h => formedIn a h
  | .stepped b _ actor _ _ :: h => b.formed actor a ++ formedIn a h

variable {destination : String} {policy : FailurePolicy} {h : Past} {b : BufferedBackend}

/-! ## Jobs and tasks -/

/-- **Every job serves the task that its actor was given.** -/
theorem served (run : Run system (.new destination policy) h b) {actor : Actor}
    {job : BufferedJob} (hjob : b.jobs.find? actor = some job) :
    ∃ task, h.task? actor = some task ∧ job.Serves task := by
  induction run generalizing job with
  | start => cases hjob
  | @begins h b b' who task run hbegin ih =>
      obtain ⟨hfree, rfl⟩ := eq_resume_of_begin? hbegin
      rw [jobs_resume, Table.find?_insert] at hjob
      by_cases hwho : who = actor
      · rw [if_pos hwho] at hjob
        cases hjob
        exact ⟨task, by rw [History.task?_began, if_pos hwho], task.serves_job⟩
      · rw [if_neg hwho] at hjob
        rw [History.task?_began, if_neg hwho]
        exact ih hjob
  | @steps h b now who input p run hstep ih =>
      have hcases := stepped_of_step hstep
      rw [History.task?_stepped]
      by_cases hwho : actor = who
      · subst hwho
        obtain ⟨job₀, hjob₀⟩ := hcases.has_job
        obtain ⟨task, htask, hserves⟩ := ih hjob₀
        cases hresult : p.result? with
        | none =>
            obtain ⟨job', hjob', hserves'⟩ := hcases.goes_on hresult hjob₀ hserves
            rw [hjob] at hjob'
            cases hjob'
            exact ⟨task, htask, hserves'⟩
        | some result =>
            rw [hcases.job_gone hresult] at hjob
            cases hjob
      · rw [hcases.others hwho] at hjob
        exact ih hjob

theorem destination_of_run (run : Run system (.new destination policy) h b) :
    b.destination = destination := by
  induction run with
  | start => rfl
  | begins run hbegin ih =>
      obtain ⟨-, rfl⟩ := eq_resume_of_begin? hbegin
      exact ih
  | steps run hstep ih => rw [(stepped_of_step hstep).destination, ih]

/-! ## Conservation -/

/-- What is recorded is the usage of the requests answered as authorized. -/
theorem recorded_eq_authorized (run : Run system (.new destination policy) h b) :
    recordedOf h.events = authorizedIn h.outcomes := by
  induction run with
  | start => rfl
  | begins run hbegin ih => exact ih
  | @steps h b now actor input p run hstep ih =>
      have hcases := stepped_of_step hstep
      obtain ⟨job, hjob⟩ := hcases.has_job
      obtain ⟨task, htask, hserves⟩ := served run hjob
      rw [History.events_stepped, recordedOf_append, ih]
      cases hresult : p.result? with
      | none =>
          rw [History.outcomes_stepped_of_none hresult,
            hcases.recordedOf_of_more hresult, List.nil_append]
      | some result =>
          rw [History.outcomes_stepped_of_some hresult htask,
            hcases.recordedOf_events hresult hjob hserves]
          rfl

/-- What is recorded in an account is held or accepted. -/
theorem recorded_eq_held_add_accepted (run : Run system (.new destination policy) h b)
    {a : Account} (fits : ∀ n ∈ formedIn a h, InRange n) :
    requestsAt (recordedOf h.events) a =
      b.heldAt a + batchesAt (system.accepted destination h) a := by
  induction run with
  | start => rfl
  | @begins h b b' actor task run hbegin ih =>
      obtain ⟨hfree, rfl⟩ := eq_resume_of_begin? hbegin
      rw [heldAt_resume_job hfree]
      exact ih fits
  | @steps h b now actor input p run hstep ih =>
      have hcases := stepped_of_step hstep
      have hbalance := hcases.balance fun n hn => fits n (List.mem_append_left _ hn)
      have ih := ih fun n hn => fits n (List.mem_append_right _ hn)
      rw [hcases.acceptedOf_events, destination_of_run run] at hbalance
      rw [History.events_stepped, System.accepted_stepped, recordedOf_append, requestsAt_append,
        batchesAt_append, ih, show system.want b actor = b.want actor from rfl]
      omega

/-- **Conservation of usage.** Whatever the order of steps and the outcome of every call: what is recorded is
exactly the usage of the requests answered as authorized; and in every account whose running totals have kept
within 64 bits, it is what is pending, what is in flight and what the backend has accepted. -/
theorem usage_conserved (run : Run system (.new destination policy) h b) :
    recordedOf h.events = authorizedIn h.outcomes ∧
      ∀ a, (∀ n ∈ formedIn a h, InRange n) →
        requestsAt (recordedOf h.events) a =
          b.buffer.pendingAt a + b.inFlightAt a + batchesAt (system.accepted destination h) a :=
  ⟨recorded_eq_authorized run, fun _ fits => recorded_eq_held_add_accepted run fits⟩

/-- A request of one application for some hits. -/
def hits (n : Int64) : Wire.Request :=
  ⟨⟨Credential.serviceToken, "t"⟩, "42", [⟨Table.empty.insert "hits" n, ⟨"", "", "", "u"⟩⟩], .empty⟩

/-- The account of these hits. -/
def hitsAccount : Account := ⟨⟨⟨Credential.serviceToken, "t"⟩, "42", ⟨"", "", "", "u"⟩⟩, "hits"⟩

/-- Two flushes at work on one key: while the report of the first is on its way, new usage comes in, the second
takes it out and gets it accepted, and then the first report fails. A denied request and one that meets an outage
leave no usage, and at the end a third batch is out. -/
def overlappingFlushes : List (Move Task) :=
  let granted : Input := .answered (.ok ⟨true, none, none, none⟩)
  [.begin (.call 0) (.authorize (hits 5)), .step 0 (.call 0) granted, .step 0 (.call 0) .turn,
    .begin (.call 1) .flush, .step 1 (.call 1) .turn,
    .begin (.call 0) (.authorize (hits 7)), .step 2 (.call 0) granted, .step 2 (.call 0) .turn,
    .begin (.call 2) .flush, .step 3 (.call 2) .turn, .step 4 (.call 2) (.reported (.ok ())),
    .step 5 (.call 1) (.reported (.error (.transport "reset"))), .step 5 (.call 1) .turn,
    .begin (.call 0) (.authorize (hits 3)), .step 6 (.call 0) (.answered (.ok default)),
    .begin (.call 0) (.authorize (hits 1)), .step 7 (.call 0) (.answered (.error (.transport ""))),
    .begin (.call 0) (.authorize (hits 2)), .step 8 (.call 0) granted, .step 8 (.call 0) .turn,
    .begin (.call 1) .flush, .step 9 (.call 1) .turn,
    .begin (.call 0) (.authorize (hits 4)), .step 9 (.call 0) granted, .step 9 (.call 0) .turn]

theorem usage_conserved_overlappingFlushes :
    let past := (system.play (.new "b" .closed) overlappingFlushes).1
    let backend := (system.play (.new "b" .closed) overlappingFlushes).2
    requestsAt (recordedOf past.events) hitsAccount = 18 ∧
      backend.buffer.pendingAt hitsAccount = 4 ∧ backend.inFlightAt hitsAccount = 7 ∧
      batchesAt (system.accepted "b" past) hitsAccount = 7 := by
  have hconserved := (usage_conserved (system.run_play (.new "b" .closed) overlappingFlushes)).2
    hitsAccount (by decide +kernel)
  refine ⟨?_, by decide +kernel, by decide +kernel, by decide +kernel⟩
  rw [hconserved]
  decide +kernel

end GatewayAuth.BufferedBackend
