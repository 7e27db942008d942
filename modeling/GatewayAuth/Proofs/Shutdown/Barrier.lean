import GatewayAuth.Proofs.Shutdown.Delivered
import GatewayAuth.Proofs.Usage.Whereabouts

/-!
# `GatewayAuth.Proofs.Shutdown.Barrier` — where earlier usage is when a shutdown returns

A shutdown waits for the final flush of every loop, but not for the flushes that overtaken calls make themselves.
Usage of a call that has come back is pending only as long as the loop still has a drain before it. So when a
shutdown has returned, it has been accepted, or an overtaken call has drained the buffer before the loop did and is
still at its report: the shutdown has returned before that report has.

## Contents
- `jobAt`, `whereabouts`: usage that has been recorded at a slot, followed through a run.
- `Located`, `Stepped.located`, `located_of_run`: where it is, and whose drain it waits for.
- `accepted_or_carried`: what a shutdown leaves of earlier usage.
- `overtaken`: a run in which earlier usage is not accepted when the shutdown returns.
-/

namespace GatewayAuth

/-- What goes into the buffer of a slot goes in from a request that is being recorded. -/
theorem Slot.Moved.recording_of_recorded {stopping : Bool} {slot : Nat} {actor : Actor}
    {input : Input} {s s' : Slot} {events : List BufferedBackend.Event}
    (h : s.Moved stopping slot actor input s' events) {request : Wire.Request}
    (hmem : .recorded request ∈ events) :
    (∃ response, s.backend.jobs.find? actor = some (.recording request response)) ∧
      s'.backend.buffer = s.backend.buffer.record request := by
  cases h with
  | begun hcall work free => cases hmem
  | woken hloop idle free hwoken => cases hmem
  | worked who work => exact work.recording_of_recorded hmem
  | flushed hloop busy work last => exact work.recording_of_recorded hmem

namespace Manager

/-- The job of an actor at the backend of a slot. -/
def jobAt (m : Manager) (slot : Nat) (actor : Actor) : Option BufferedJob :=
  match m.backends.slots[slot]? with
  | some s => s.backend.jobs.find? actor
  | none => none

/-- Where usage is that was recorded under a key at a slot just before the moments of a history. -/
def whereabouts (slot : Nat) (key : BatchKey) : Past → Whereabouts
  | [] => .pending
  | .began _ _ :: h => whereabouts slot key h
  | .stepped m _ actor input _ :: h =>
    (whereabouts slot key h).after key actor (m.jobAt slot actor) input

/-- A call has come back at one of the moments of a history. -/
def Returned (id : Nat) (h : Past) : Prop :=
  ∃ m now input p, .stepped m now (.call id) input p ∈ h ∧ p.result? ≠ none

/-- What is known of usage that a call has recorded at a slot, some moments later: where it is, that somebody is bound
to drain the buffer if it is there, and what batch it was in if it has been accepted. -/
structure Located (m : Manager) (since : Past) (slot id : Nat) (key : BatchKey) (metric : String)
    (s : Slot) : Prop where
  there : m.backends.slots[slot]? = some s
  keeps : s.backend.Keeps key metric (whereabouts slot key since)
  pending : whereabouts slot key since = .pending →
    s.WillDrain slot ∨ ¬ Returned id since ∧ Owes m slot id
  accepted : whereabouts slot key since = .accepted →
    ∃ batch ∈ system.accepted s.backend.destination since,
      batch.key = key ∧ batch.usage.contains metric = true

variable {m : Manager} {h since : Past} {now id slot : Nat} {actor : Actor} {input : Input}
  {p : Progress Manager Result Event} {s : Slot} {key : BatchKey} {metric : String}

theorem jobAt_of_slot (hs : m.backends.slots[slot]? = some s) (actor : Actor) :
    m.jobAt slot actor = s.backend.jobs.find? actor := by
  unfold jobAt
  rw [hs]

/-- A call that comes back has no job any more. -/
theorem Called.job_gone (step : Called m now id input p) (hresult : p.result? ≠ none) :
    p.state.jobs.find? id = none := by
  cases step with
  | fetched hjob step =>
      obtain ⟨-, -, -, ⟨hnone, -⟩ | ⟨hjobs, -⟩⟩ := step.frame
      · exact absurd hnone hresult
      · rw [hjobs, Table.find?_erase_self]
  | malformed | returned | flushed | notOpened | called | followed | stopsNothing | joined =>
      exact Table.find?_erase_self _ _
  | _ => exact absurd rfl hresult

/-- A call that still owes a drain after a step has not come back with it. -/
theorem Stepped.not_returned (step : Stepped m now actor input p)
    (hnot : ¬ Returned id since) (howes : Owes p.state slot id) :
    ¬ Returned id (.stepped m now actor input p :: since) := by
  rintro ⟨m', now', input', p', hmem, hresult⟩
  rcases List.mem_cons.1 hmem with heq | hold
  · cases heq
    cases step with
    | called step =>
        have hgone := step.job_gone hresult
        obtain ⟨answer, hmine | ⟨hmine, -⟩⟩ := howes
        · rw [hgone] at hmine
          cases hmine
        · rw [hgone] at hmine
          cases hmine
  · exact hnot ⟨m', now', input', p', hold, hresult⟩

/-- At its slot, usage is where it is said to be after a step. -/
theorem Stepped.keeps (step : Stepped m now actor input p) (hc : Coherent h m) {s' : Slot}
    {w : Whereabouts} (hs : m.backends.slots[slot]? = some s)
    (hs' : p.state.backends.slots[slot]? = some s') (hkeeps : s.backend.Keeps key metric w) :
    s'.backend.Keeps key metric (w.after key actor (m.jobAt slot actor) input) := by
  rw [jobAt_of_slot hs]
  cases hjob : s.backend.jobs.find? actor with
  | none =>
      rw [Whereabouts.after_none]
      obtain ⟨s₁, hs₁, hseen⟩ := step.slot hs
      rw [hs₁] at hs'
      cases hs'
      rcases hseen with ⟨rfl, -⟩ | move
      · exact hkeeps
      · rcases move.started_or_stepped with ⟨free, task, hstart⟩ | ⟨q, work, -⟩
        · rw [hstart]
          exact hkeeps.resume free task.job
        · obtain ⟨job, hjob'⟩ := work.has_job
          rw [hjob] at hjob'
          cases hjob'
  | some job =>
      obtain ⟨s₁, q, hs₁, hq, work, -⟩ := step.works hc hs hjob
      rw [hs₁] at hs'
      cases hs'
      rw [hq, ← hjob]
      exact work.keeps hkeeps

/-- **A step keeps track of usage.** -/
theorem Stepped.located (step : Stepped m now actor input p) (hc : Coherent h m) (hcalm : Calm m)
    (hl : Located m since slot id key metric s) :
    ∃ s', Located p.state (.stepped m now actor input p :: since) slot id key metric s' := by
  obtain ⟨s', hs', hseen⟩ := step.slot hl.there
  have hjob := jobAt_of_slot hl.there actor
  have hdestination : s'.backend.destination = s.backend.destination := by
    rcases hseen with ⟨rfl, -⟩ | move
    · rfl
    · exact move.destination
  refine ⟨s', hs', step.keeps hc hl.there hs' hl.keeps, ?_, ?_⟩
  · intro hpending
    rcases Whereabouts.of_after_eq_pending hpending with
      ⟨hbefore, hnot⟩ | ⟨batch, rest, summary, hrequeueing⟩
    · -- nobody drains at this step, so that a drain is still to come
      rw [hjob] at hnot
      rcases hl.pending hbefore with hwill | ⟨hreturned, howes⟩
      · exact .inl (step.willDrain hl.there hs' hwill hnot)
      · rcases step.owes hl.there howes hnot with howes' | hsome
        · exact .inr ⟨step.not_returned hreturned howes', howes'⟩
        · exact .inl (step.willDrain hl.there hs' (hc.willDrain_of_handles hl.there hsome) hnot)
    · rw [hjob] at hrequeueing
      exact absurd hrequeueing (hcalm slot s actor batch rest summary hl.there)
  · intro haccepted
    rw [hdestination, System.accepted_stepped]
    rcases Whereabouts.of_after_eq_accepted haccepted with
      hbefore | ⟨hbefore, rfl, batch, rest, summary, hreporting, hkey⟩
    · obtain ⟨batch, hmem, hbatch⟩ := hl.accepted hbefore
      exact ⟨batch, List.mem_append_right _ hmem, hbatch⟩
    · -- the report that ends is that of the batch which the flush carries
      have hkeeps := hl.keeps
      rw [hbefore] at hkeeps
      rw [hjob] at hreporting
      obtain ⟨job, hmine, hcarries⟩ := hkeeps
      rw [hreporting] at hmine
      cases hmine
      refine ⟨batch, List.mem_append_left _ ?_, hkey, hcarries.2 batch List.mem_cons_self hkey⟩
      rw [show system.want m actor = m.want actor from rfl, hc.want_of_job hl.there hreporting]
      unfold BufferedBackend.want
      rw [hreporting]
      simp [System.acceptedNow]

/-- Usage that has just been recorded is pending, and the call that has recorded it owes a drain. -/
theorem Stepped.located_of_recorded (step : Stepped m now (.call id) input p) (hc : Coherent h m)
    {request : Wire.Request} {t : Transaction}
    (hrecorded : .atSlot slot (.recorded request) ∈ p.events) (ht : t ∈ request.transactions)
    (hmetric : t.usage.contains metric = true) :
    ∃ s', Located p.state [] slot id (request.keyOf t) metric s' := by
  obtain ⟨s, s', hs, hs', hevent, move⟩ := step.exists_moved hrecorded
  obtain ⟨⟨response, hrecording⟩, hbuffer⟩ := move.recording_of_recorded hevent
  obtain ⟨id', heq, howes⟩ := step.owes_of_recording hc hs hrecording
  cases heq
  refine ⟨s', hs', ?_, fun _ => .inr ⟨?_, howes⟩, nofun⟩
  · show s'.backend.buffer.Holds (request.keyOf t) metric
    rw [hbuffer]
    exact UsageBuffer.holds_record ht hmetric s.backend.buffer
  · rintro ⟨m', now', input', p', hmoment, -⟩
    cases hmoment

/-- **Usage can be followed through every run**, as long as reports succeed. -/
theorem located_of_run {start : Nat} {limits : Option CacheLimits} {settings : DispatchSettings}
    {m₀ : Manager} {now₀ : Nat} {input₀ : Input} {p₀ : Progress Manager Result Event}
    {before : Past} {request : Wire.Request} {t : Transaction}
    (run : Run system (.new start limits settings)
      (since ++ .stepped m₀ now₀ (.call id) input₀ p₀ :: before) m)
    (reports : system.ReportsSucceed (since ++ .stepped m₀ now₀ (.call id) input₀ p₀ :: before))
    (hrecorded : .atSlot slot (.recorded request) ∈ p₀.events) (ht : t ∈ request.transactions)
    (hmetric : t.usage.contains metric = true) :
    ∃ s, Located m since slot id (request.keyOf t) metric s := by
  induction since generalizing m with
  | nil =>
      cases run with
      | steps run hstep =>
          have step : Stepped m₀ now₀ (.call id) input₀ p₀ := stepped_of_step hstep
          exact step.located_of_recorded (coherent_of_run run) hrecorded ht hmetric
  | cons moment since ih =>
      rw [List.cons_append] at run reports
      cases run with
      | @begins _ m₁ _ actor task run hbegin =>
          cases actor with
          | flushLoop slot => cases hbegin
          | refreshLoop => cases hbegin
          | call other =>
              obtain ⟨hfree, rfl⟩ := eq_resume_of_begin? hbegin
              obtain ⟨s, hl⟩ := ih run reports
              refine ⟨s, hl.there, hl.keeps, fun hpending => ?_, hl.accepted⟩
              refine (hl.pending hpending).imp_right fun ⟨hnot, howes⟩ =>
                ⟨?_, howes.resume hfree task.job⟩
              rintro ⟨m', now', input', p', hmem, hresult⟩
              rcases List.mem_cons.1 hmem with heq | hold
              · cases heq
              · exact hnot ⟨m', now', input', p', hold, hresult⟩
      | steps run hstep =>
          obtain ⟨s, hl⟩ := ih run reports.2
          exact (stepped_of_step hstep).located (coherent_of_run run)
            (calm_of_run run reports.2) hl

/-- A call has usage in its hands that it has taken out of the buffer of a slot in a flush of its own. -/
def CarriedBy (m : Manager) (slot id : Nat) (key : BatchKey) (metric : String) : Prop :=
  ∃ answer job, m.jobs.find? id = some (.flushing slot answer) ∧
    m.jobAt slot (.call id) = some job ∧ job.Carries key metric

/-- **What a shutdown leaves of earlier usage.** Whatever the order of steps, as long as reports succeed: once a
shutdown has returned, usage that was recorded by a call that has come back since has been accepted, or an overtaken
call has drained the buffer before the loop did and carries it in a flush of its own. -/
theorem accepted_or_carried {start : Nat} {limits : Option CacheLimits}
    {settings : DispatchSettings} {m₀ : Manager} {now₀ : Nat} {input₀ : Input}
    {p₀ : Progress Manager Result Event} {before : Past} {request : Wire.Request} {t : Transaction}
    {task : Task}
    (run : Run system (.new start limits settings)
      (since ++ .stepped m₀ now₀ (.call id) input₀ p₀ :: before) m)
    (reports : system.ReportsSucceed (since ++ .stepped m₀ now₀ (.call id) input₀ p₀ :: before))
    (hrecorded : .atSlot slot (.recorded request) ∈ p₀.events) (ht : t ∈ request.transactions)
    (hmetric : t.usage.contains metric = true) (hreturned : Returned id since)
    (hstopped : (task, .stopped) ∈
      History.outcomes (since ++ .stepped m₀ now₀ (.call id) input₀ p₀ :: before)) :
    (whereabouts slot (request.keyOf t) since = .accepted ∧
        ∃ batch ∈ system.accepted (m.backends.destinationOf slot) since,
          batch.key = request.keyOf t ∧ batch.usage.contains metric = true) ∨
      ∃ other, whereabouts slot (request.keyOf t) since = .carried (.call other) ∧
        CarriedBy m slot other (request.keyOf t) metric := by
  have hc := coherent_of_run run
  have hdrained := drained_of_stopped run hstopped
  obtain ⟨s, hl⟩ := located_of_run run reports hrecorded ht hmetric
  have hexited := hdrained.exited slot s hl.there
  have hslot := hc.sound.slots slot s hl.there
  cases hw : whereabouts slot (request.keyOf t) since with
  | pending =>
      -- neither the loop nor the call that recorded it is there any more to drain the buffer
      rcases hl.pending hw with ⟨hrunning, -⟩ | ⟨hnot, -⟩
      · exact absurd hexited hrunning
      · exact absurd hreturned hnot
  | accepted =>
      rw [Registry.destinationOf_of_slot hl.there]
      exact .inl ⟨rfl, hl.accepted hw⟩
  | carried actor =>
      have hkeeps := hl.keeps
      rw [hw] at hkeeps
      obtain ⟨job, hjob, hcarries⟩ := hkeeps
      rcases hslot.actors actor job hjob with ⟨other, rfl⟩ | rfl
      · rcases hc.mine_of_job hl.there hjob with ⟨-, wire, hserves⟩ | ⟨⟨answer, hmine⟩, -⟩
        · -- a call that authorizes carries no batches
          obtain ⟨⟨batch, hmem, -⟩, -⟩ := hcarries
          cases job <;> cases hserves <;> cases hmem
        · refine .inr ⟨other, rfl, answer, job, hmine, ?_, hcarries⟩
          rw [jobAt_of_slot hl.there]
          exact hjob
      · -- the loop has exited, so that it carries nothing
        rw [hslot.idle (by rw [hexited]; rfl)] at hjob
        cases hjob

/-! ## A shutdown that an overtaken call outlives -/

theorem returned_of_any
    (hany : since.any (fun moment => match moment with
      | .stepped _ _ (.call other) _ p => other == id && p.result?.isSome
      | _ => false) = true) : Returned id since := by
  obtain ⟨moment, hmem, hmoment⟩ := List.any_eq_true.1 hany
  split at hmoment
  · next m now other input p =>
    obtain ⟨hid, hresult⟩ := Bool.and_eq_true_iff.1 hmoment
    cases beq_iff_eq.1 hid
    exact ⟨m, now, input, p, hmem, Option.isSome_iff_ne_none.1 hresult⟩
  · cases hmoment

/-- A call is answered, with 5 hits to be recorded. -/
def earlier : List (Move Task) := asks 0 "b" 5 ++ [builds 0, turn (.call 0), answers 0 true]

/-- Once it has come back, another call asks for 7 hits, and a shutdown takes the handles and gives the signal. Then the
other call is answered, and drains the buffer before the loop does: the loop finds nothing and exits, and the shutdown
returns, while the report of all 12 hits is on its way. -/
def overtaken : List (Move Task) :=
  turn (.call 0) :: asks 1 "b" 7 ++ .begin (.call 2) .shutdown :: List.replicate 3 (turn (.call 2)) ++
    [answers 1 true, turn (.call 1), turn (.call 1), turn (.call 1)] ++
    [turn (.flushLoop 0), turn (.flushLoop 0), turn (.call 2), turn (.call 2)]

/-- The step at which the 5 hits go into the buffer. -/
def recordingStep : Progress Manager Result Event :=
  ((system.play bufferedManager earlier).2.step 0 (.call 0) .turn).get (by decide +kernel)

theorem step_eq_recordingStep :
    system.step (system.play bufferedManager earlier).2 0 (.call 0) .turn = some recordingStep :=
  (Option.some_get _).symm

/-- The run from there on. -/
def sinceRecording : Past × Manager := system.playFrom [] recordingStep.state overtaken

/-- All of the run. -/
def overtakenPast : Past :=
  sinceRecording.1 ++ .stepped (system.play bufferedManager earlier).2 0 (.call 0) .turn recordingStep ::
    (system.play bufferedManager earlier).1

theorem run_overtaken : Run system bufferedManager overtakenPast sinceRecording.2 := by
  have run := system.run_playFrom overtaken
    (.steps (system.run_play bufferedManager earlier) step_eq_recordingStep)
  rw [← List.nil_append (_ :: _), System.playFrom_append] at run
  exact run

theorem accepted_or_carried_overtaken :
    whereabouts 0 BufferedBackend.hitsAccount.key sinceRecording.1 = .carried (.call 1) ∧
      CarriedBy sinceRecording.2 0 1 BufferedBackend.hitsAccount.key "hits" := by
  have hcarried : whereabouts 0 BufferedBackend.hitsAccount.key sinceRecording.1 =
      .carried (.call 1) := by decide +kernel
  obtain ⟨task, hstopped⟩ : ∃ task, (task, .stopped) ∈ overtakenPast.outcomes :=
    exists_stopped_of_any (by decide +kernel)
  have hrecorded : .atSlot 0 (.recorded { BufferedBackend.hits 5 with
      extensions := Table.empty.insert Wire.rejectionReasonExtension "1" }) ∈
        recordingStep.events := by decide +kernel
  have hmetric : Table.contains (Table.empty.insert "hits" (5 : Int64)) "hits" = true := by
    decide +kernel
  rcases accepted_or_carried run_overtaken (by decide +kernel) hrecorded List.mem_cons_self hmetric
      (returned_of_any (by decide +kernel)) hstopped with
    ⟨haccepted, -⟩ | ⟨other, hother, hcarries⟩
  · cases hcarried.symm.trans haccepted
  · cases hcarried.symm.trans hother
    exact ⟨hcarried, hcarries⟩

/-- **A shutdown is no barrier for earlier usage.** A call comes back with 5 hits before a shutdown is called, and every
report that has ended has succeeded; but when the shutdown returns, nothing has been accepted. -/
theorem earlier_usage_not_accepted :
    let answered := system.play bufferedManager (earlier ++ [turn (.call 0), turn (.call 0)])
    let stopped := system.play bufferedManager (earlier ++ turn (.call 0) :: overtaken)
    answered.1.outcomes.map Prod.fst = [.authorize "b" (hits 5)] ∧
      requestsAt (answeredIn "b" answered.1) BufferedBackend.hitsAccount = 5 ∧
      stopped.1.outcomes.map Prod.fst = [.shutdown, .authorize "b" (hits 5)] ∧
      system.ReportsSucceed stopped.1 ∧
      batchesAt (system.accepted "b" stopped.1) BufferedBackend.hitsAccount = 0 := by
  decide +kernel

end Manager

end GatewayAuth
