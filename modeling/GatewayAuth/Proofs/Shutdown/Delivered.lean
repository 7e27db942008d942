import GatewayAuth.Proofs.Shutdown.LastFlush
import GatewayAuth.Proofs.Usage.Conservation

/-!
# `GatewayAuth.Proofs.Shutdown.Delivered` — no usage is lost across a shutdown

What the backends hold and have accepted is what the calls have recorded; and what the calls have recorded is what
has been answered as authorized, or is about to be. Once a shutdown and all authorizations have come back, the
buffers are empty, no flush is under way and no call has an answer to return, so that exactly what has been answered
as authorized has been accepted.

## Contents
- `answeredIn`, `recordedIn`, `formedIn`: what has been answered, recorded and formed in a run, by destination.
- `Stepped.balance_for`, `recorded_eq_held_add_accepted`: what is recorded is held or accepted.
- `Called.recorded`, `recorded_eq_answered_add_owed`: what is recorded is answered, or is about to be.
- `usage_reported_at_shutdown`: the delivery of all usage.
-/

namespace GatewayAuth.Manager

/-! ## Answers -/

/-- Whether a call has its answer from a buffered backend. -/
def isBuffered (m : Manager) (id : Nat) : Bool :=
  match m.jobs.find? id with
  | some (.rechecking _ _) => true
  | some (.flushing _ _) => true
  | _ => false

/-- The request that a task makes at a destination. -/
def requestsFor (d : String) : Option Task → List Wire.Request
  | some (.authorize d' request) =>
    match request.toWire with
    | .ok wire => if d' = d then [wire] else []
    | .error _ => []
  | _ => []

/-- The request that a call makes at a destination, if it comes back at a step with an answer that authorizes it and
has this answer from the buffered backend. -/
def answeredNow (d : String) (h : Past) (m : Manager) (actor : Actor)
    (p : Progress Manager Result Event) : List Wire.Request :=
  match actor, p.result? with
  | .call id, some (.answered (.ok response)) =>
    if response.authorized && m.isBuffered id then requestsFor d (h.task? actor) else []
  | _, _ => []

/-- The requests at a destination that have been answered as authorized through its buffered backend. -/
def answeredIn (d : String) : Past → List Wire.Request
  | [] => []
  | .began _ _ :: h => answeredIn d h
  | .stepped m _ actor _ p :: h => answeredNow d h m actor p ++ answeredIn d h

/-- The requests whose usage has gone into a buffer for a destination. -/
def recordedIn (d : String) : Past → List Wire.Request
  | [] => []
  | .began _ _ :: h => recordedIn d h
  | .stepped m _ _ _ p :: h => m.backends.recordedFor d (slotEvents p.events) ++ recordedIn d h

/-- The running totals of an account that have been formed in buffers for a destination. -/
def formedIn (d : String) (a : Account) : Past → List Int
  | [] => []
  | .began _ _ :: h => formedIn d a h
  | .stepped m _ actor _ _ :: h => m.backends.formedFor actor d a ++ formedIn d a h

variable {m : Manager} {h : Past} {now id : Nat} {actor : Actor} {input : Input}
  {p : Progress Manager Result Event} {d : String} {a : Account}

/-! ## What is recorded is held or accepted -/

/-- A slot that has just been opened holds nothing. -/
theorem heldFor_opened (slots : List Slot) (d' : String) (policy : FailurePolicy) (due : Nat)
    (d : String) (a : Account) :
    Registry.heldFor (slots ++ [⟨.new d' policy, .idle due⟩]) d a = Registry.heldFor slots d a := by
  have hempty : (BufferedBackend.new d' policy).heldAt a = 0 := rfl
  unfold Registry.heldFor
  rw [List.map_append, List.sum_append]
  simp [hempty]

/-- **The balance of a step**, destination by destination. -/
theorem Stepped.balance_for (step : Stepped m now actor input p)
    (fits : ∀ n ∈ m.backends.formedFor actor d a, InRange n) :
    Registry.heldFor p.state.backends.slots d a +
        batchesAt (m.backends.acceptedFor d (slotEvents p.events)) a =
      Registry.heldFor m.backends.slots d a +
        requestsAt (m.backends.recordedFor d (slotEvents p.events)) a := by
  rcases step.slotsMoved with hmoved | ⟨hnil, id, r, slot, work, rfl, hslots, began⟩
  · exact hmoved.balance_for fits
  · -- neither a slot that is opened nor the work that is started there holds anything
    have hheld : Registry.heldFor r.slots d a = Registry.heldFor m.backends.slots d a := by
      rcases hslots with hsame | ⟨d', policy, due, hopened⟩
      · rw [hsame]
      · rw [hopened, heldFor_opened]
    rw [hnil, began.heldFor_eq, hheld]
    rfl

/-- What is recorded in an account is held by the backends or accepted. -/
theorem recorded_eq_held_add_accepted {limits : Option CacheLimits} {settings : DispatchSettings}
    (run : Run system (.new now limits settings) h m) (fits : ∀ n ∈ formedIn d a h, InRange n) :
    requestsAt (recordedIn d h) a =
      Registry.heldFor m.backends.slots d a + batchesAt (system.accepted d h) a := by
  induction run with
  | start =>
      unfold new backends
      dsimp only
      split <;> rfl
  | @begins h m m' actor task run hbegin ih =>
      cases actor with
      | call id =>
          obtain ⟨-, rfl⟩ := eq_resume_of_begin? hbegin
          exact ih fits
      | flushLoop slot => cases hbegin
      | refreshLoop => cases hbegin
  | @steps h m now actor input p run hstep ih =>
      have step := stepped_of_step hstep
      have hbalance := step.balance_for fun n hn => fits n (List.mem_append_left _ hn)
      have ih := ih fun n hn => fits n (List.mem_append_right _ hn)
      rw [step.acceptedFor_eq] at hbalance
      rw [System.accepted_stepped, batchesAt_append]
      unfold recordedIn
      rw [requestsAt_append, ih]
      omega

/-! ## What is recorded is answered, or is about to be -/

/-- The request that a call is about to come back with, answered as authorized. -/
def owedBy (d : String) (task? : Option Task) : ManagerJob → List Wire.Request
  | .rechecking _ (.ok response) => if response.authorized then requestsFor d task? else []
  | .flushing _ (.ok response) => if response.authorized then requestsFor d task? else []
  | _ => []

/-- The same for a call that may have come back already. -/
def owedOf (d : String) (h : Past) (m : Manager) (id : Nat) : List Wire.Request :=
  match m.jobs.find? id with
  | some job => owedBy d (h.task? (.call id)) job
  | none => []

/-- The usage that calls are about to come back with. -/
def owedAt (d : String) (h : Past) (m : Manager) (a : Account) : Int :=
  m.jobs.sumOf fun id job => requestsAt (owedBy d (h.task? (.call id)) job) a

theorem owedOf_of_job {job : ManagerJob} (hjob : m.jobs.find? id = some job) :
    owedOf d h m id = owedBy d (h.task? (.call id)) job := by
  unfold owedOf
  rw [hjob]

theorem requestsFor_of_wants {task : Task} {d' : String} {wire : Wire.Request}
    (h : task.Wants d' wire) : requestsFor d (some task) = if d' = d then [wire] else [] := by
  obtain ⟨request, rfl, hwire⟩ := h
  simp only [requestsFor, hwire]

/-- A fetch is not about to come back with any usage. -/
theorem owedBy_of_isFetch {job : ManagerJob} (h : job.isFetch = true) (task? : Option Task) :
    owedBy d task? job = [] := by
  cases job <;> first | rfl | cases h

/-- At the backend of a slot, a call records what it then has an answer for. -/
theorem recordedFor_of_answered {r : Registry} {q : Progress Registry Registry.Result Registry.Event}
    {slot : Nat} {d' : String} {work : BufferedBackend.Task} {result : BufferedBackend.Result}
    (step : Registry.Called r now (.call id) input q) (hwork : r.AtWork id slot d' work)
    (last : q.result? = some (.used result)) :
    r.recordedFor d q.events =
      if d' = d then BufferedBackend.authorizedBy work result else [] := by
  obtain ⟨s, job, hs, hd, husing, hjob, hserves⟩ := hwork
  obtain ⟨q', stepped, -, hresult, hevents, -⟩ := step.works husing hs
  rw [last] at hresult
  obtain ⟨result', hresult', heq⟩ := Option.map_eq_some_iff.1 hresult.symm
  cases heq
  rw [hevents, Registry.recordedFor_map hs, hd, stepped.recordedOf_events hresult' hjob hserves]

/-- A step of the registry that does not come to a result records nothing. -/
theorem recordedFor_of_more {r : Registry} {q : Progress Registry Registry.Result Registry.Event}
    (step : Registry.Called r now actor input q) (more : q.result? = none) :
    r.recordedFor d q.events = [] := by
  cases step with
  | worked job hslot work more' =>
      rw [Registry.recordedFor_map hslot, work.recordedOf_of_more more', ite_self]
  | used job hslot work last => cases more
  | _ => rfl

/-- The flush loops record nothing. -/
theorem recordedFor_of_looped {r : Registry} {slot : Nat}
    {q : Progress Registry Registry.Result Registry.Event} (hr : r.Sound)
    (step : Registry.Looped r now slot input q) : r.recordedFor d q.events = [] := by
  have hflush : ∀ {s : Slot}
      {q : Progress BufferedBackend BufferedBackend.Result BufferedBackend.Event},
      r.slots[slot]? = some s → s.loop.isBusy = true →
      BufferedBackend.Stepped s.backend (.flushLoop slot) input q →
        r.recordedFor d (q.events.map (.atSlot slot)) = [] := by
    intro s q hslot busy work
    obtain ⟨job, hjob, hserves⟩ := (hr.slots slot s hslot).busy busy
    rw [Registry.recordedFor_map hslot, work.recordedOf_of_flush hjob hserves, ite_self]
  cases step with
  | ticked hslot idle hdue free => rfl
  | told hslot idle stop free => rfl
  | worked hslot busy work more => exact hflush hslot busy work
  | flushed hslot busy work last => exact hflush hslot busy work

theorem answeredNow_of_more (more : p.result? = none) : answeredNow d h m actor p = [] := by
  unfold answeredNow
  rw [more]
  cases actor <;> rfl

/-- Only a call that has its answer from a buffered backend counts. -/
theorem answeredNow_of_not_isBuffered (hnot : m.isBuffered id = false) :
    answeredNow d h m (.call id) p = [] := by
  unfold answeredNow
  split
  · next heq _ =>
    cases heq
    rw [hnot, Bool.and_false, if_neg Bool.false_ne_true]
  · rfl

/-- A call that comes back with the answer of a buffered backend counts if it is authorized. -/
theorem answeredNow_of_isBuffered {slot : Nat} {answer : Except BackendError Wire.Response}
    {job : ManagerJob} (hjob : m.jobs.find? id = some job)
    (hbuffered : job = .rechecking slot answer ∨ job = .flushing slot answer)
    (last : p.result? = some (.answered (AuthResponse.ofCall answer))) :
    answeredNow d h m (.call id) p = owedOf d h m id := by
  have his : m.isBuffered id = true := by
    unfold isBuffered
    rw [hjob]
    rcases hbuffered with rfl | rfl <;> rfl
  unfold answeredNow
  rw [owedOf_of_job hjob, last]
  cases answer with
  | error e => rcases hbuffered with rfl | rfl <;> rfl
  | ok response =>
      show (if response.authorized && m.isBuffered id then _ else _) = _
      rw [his, Bool.and_true]
      rcases hbuffered with rfl | rfl <;> rfl

/-- **What a call records is what it is then about to come back with**, and it comes back with nothing else. -/
theorem Called.recorded (step : Called m now id input p) (hc : Coherent h m) (d : String) :
    answeredNow d h m (.call id) p ++ owedOf d h p.state id =
      owedOf d h m id ++ m.backends.recordedFor d (slotEvents p.events) := by
  -- a step before there is an answer, or beside the buffered backends
  have hbeside : m.isBuffered id = false → owedOf d h m id = [] → owedOf d h p.state id = [] →
      m.backends.recordedFor d (slotEvents p.events) = [] →
      answeredNow d h m (.call id) p ++ owedOf d h p.state id =
        owedOf d h m id ++ m.backends.recordedFor d (slotEvents p.events) := by
    intro hnot hbefore hafter hrecorded
    rw [answeredNow_of_not_isBuffered hnot, hbefore, hafter, hrecorded]
  cases step with
  | fetched hjob step =>
      obtain ⟨-, -, hevents, hend⟩ := step.frame
      have hfetch := step.isFetch
      refine hbeside ?_ ?_ ?_ ?_
      · unfold isBuffered
        rw [hjob]
        split <;> simp_all [ManagerJob.isFetch]
      · rw [owedOf_of_job hjob, owedBy_of_isFetch hfetch]
      · rcases hend with ⟨-, job', hjobs, hfetch', -⟩ | ⟨hjobs, -⟩
        · unfold owedOf
          rw [hjobs, Table.find?_insert_self]
          exact owedBy_of_isFetch hfetch' _
        · unfold owedOf
          rw [hjobs, Table.find?_erase_self]
      · rw [slotEvents_eq_nil hevents]
        rfl
  | @waited job r _ q hjob hat hr work more =>
      rw [answeredNow_of_more rfl, slotEvents_map, backends_of_registry hr,
        recordedFor_of_more work more, List.append_nil]
      rfl
  | @acquired d' wire slot r r' _ q hjob hr work last free began =>
      refine hbeside (by simp [isBuffered, hjob]) (by simp [owedOf, hjob, owedBy])
        (by simp [owedOf, owedBy]) ?_
      rw [slotEvents_map, (slots_of_acquired work last).1]
      rfl
  | notAcquired hjob hr work last =>
      refine hbeside (by simp [isBuffered, hjob]) (by simp [owedOf, hjob, owedBy])
        (by simp [owedOf, owedBy]) ?_
      rw [(slots_of_acquired work last).1]
      rfl
  | @answered slot answer r _ q hjob hr work last =>
      -- the answer and the record come in one step, and the answer is kept until the call returns
      obtain ⟨task, htask, d', wire, hwants, hwork⟩ := hc.fits id _ hjob
      rw [backends_of_registry hr] at hwork
      rw [answeredNow_of_more rfl, owedOf_of_job hjob, slotEvents_map, backends_of_registry hr,
        recordedFor_of_answered work hwork last, owedOf_of_job (Table.find?_insert_self _ _ _),
        htask]
      cases answer with
      | error e => simp [owedBy, BufferedBackend.authorizedBy]
      | ok response =>
          simp only [owedBy, BufferedBackend.authorizedBy, requestsFor_of_wants hwants,
            List.nil_append]
          split <;> split <;> rfl
  | @overtaken slot answer r r' hjob hr closed free began =>
      rw [answeredNow_of_more rfl, owedOf_of_job hjob, owedOf_of_job (Table.find?_insert_self _ _ _)]
      cases answer <;> exact (List.append_nil _).symm
  | returned hjob hr opened =>
      rw [answeredNow_of_isBuffered hjob (.inl rfl) rfl]
      simp [Progress.done, owedOf, slotEvents, Registry.recordedFor]
  | @flushed slot answer summary r _ q hjob hr work last =>
      obtain ⟨task, htask, d', wire, hwants, hwork⟩ := hc.fits id _ hjob
      rw [backends_of_registry hr] at hwork
      rw [answeredNow_of_isBuffered hjob (.inr rfl) rfl, slotEvents_map, backends_of_registry hr,
        recordedFor_of_answered work hwork last]
      simp [owedOf, BufferedBackend.authorizedBy]
  | drained hjob hr work last =>
      refine hbeside (by simp [isBuffered, hjob]) (by simp [owedOf, hjob, owedBy])
        (by simp [owedOf, owedBy]) ?_
      rw [slotEvents_map]
      cases work with
      | tookNothing job closed => rfl
      | joined job exited => rfl
      | _ => cases last
  | malformed hjob =>
      exact hbeside (by simp [isBuffered, hjob]) (by simp [owedOf, hjob, owedBy])
        (by simp [owedOf, Progress.done]) rfl
  | _ =>
      refine hbeside ?_ ?_ ?_ rfl <;>
        simp [*, isBuffered, owedOf, owedBy, Progress.done, Progress.quiet]

/-- What is owed changes with the call that takes a step, and with no other. -/
theorem Called.owedAt_eq (step : Called m now id input p) (d : String) (h : Past) (a : Account) :
    owedAt d h p.state a + requestsAt (owedOf d h m id) a =
      owedAt d h m a + requestsAt (owedOf d h p.state id) a := by
  unfold owedAt owedOf
  rcases step.jobs with hsame | ⟨job, hinsert⟩ | herase
  · rw [hsame]
  · have hsum := Table.sumOf_insert
      (fun id job => requestsAt (owedBy d (h.task? (.call id)) job) a) m.jobs id job
    rw [hinsert, Table.find?_insert_self]
    cases hjob : m.jobs.find? id <;> simpa [hjob] using hsum
  · have hsum := Table.sumOf_erase
      (fun id job => requestsAt (owedBy d (h.task? (.call id)) job) a) m.jobs id
    rw [herase, Table.find?_erase_self]
    cases hjob : m.jobs.find? id <;> simpa [hjob] using hsum

/-- **The balance of a step, between calls and backends.** -/
theorem Stepped.owed_balance (step : Stepped m now actor input p) (hc : Coherent h m)
    (d : String) (a : Account) :
    requestsAt (answeredNow d h m actor p) a + owedAt d h p.state a =
      owedAt d h m a + requestsAt (m.backends.recordedFor d (slotEvents p.events)) a := by
  cases step with
  | looped hr work =>
      have hsound := hc.sound
      rw [backends_of_registry hr] at hsound
      rw [slotEvents_map, backends_of_registry hr, recordedFor_of_looped hsound work,
        answeredNow_of_more rfl, requestsAt_nil]
      exact Int.add_comm _ _
  | refreshed work =>
      rw [answeredNow_of_more rfl]
      exact Int.add_comm _ _
  | @called id _ _ step =>
      have hmine := step.owedAt_eq d h a
      have hrecorded := congrArg (requestsAt · a) (step.recorded hc d)
      simp only [requestsAt_append] at hrecorded
      omega

/-- What is recorded in an account is what has been answered as authorized and what is about to be. -/
theorem recorded_eq_answered_add_owed {limits : Option CacheLimits} {settings : DispatchSettings}
    (run : Run system (.new now limits settings) h m) (d : String) (a : Account) :
    requestsAt (recordedIn d h) a = requestsAt (answeredIn d h) a + owedAt d h m a := by
  induction run with
  | start => rfl
  | @begins h m m' actor task run hbegin ih =>
      cases actor with
      | flushLoop slot => cases hbegin
      | refreshLoop => cases hbegin
      | call id =>
          obtain ⟨hfree, rfl⟩ := eq_resume_of_begin? hbegin
          have hsum := Table.sumOf_insert
            (fun other job => requestsAt (owedBy d
              (History.task? (.call other) (.began (.call id) task :: h)) job) a) m.jobs id task.job
          rw [hfree, show ∀ task?, owedBy d task? task.job = [] by cases task <;> exact fun _ => rfl]
            at hsum
          -- the new task is that of a call that had none
          have hothers : owedAt d h m a = m.jobs.sumOf fun other job => requestsAt (owedBy d
              (History.task? (.call other) (.began (.call id) task :: h)) job) a := by
            refine Table.sumOf_congr fun other job hjob => ?_
            have hne : Actor.call id ≠ .call other := by
              intro heq
              cases heq
              rw [hfree] at hjob
              cases hjob
            rw [History.task?_began, if_neg hne]
          show requestsAt (recordedIn d h) a = requestsAt (answeredIn d h) a +
            owedAt d (.began (.call id) task :: h) (m.resume id task.job) a
          rw [ih, hothers]
          unfold owedAt
          rw [jobs_resume]
          simp only [Option.elim_none, requestsAt_nil] at hsum
          omega
  | @steps h m now actor input p run hstep ih =>
      have hbalance := (stepped_of_step hstep).owed_balance (coherent_of_run run) d a
      have htasks : owedAt d (.stepped m now actor input p :: h) p.state a =
          owedAt d h p.state a := rfl
      rw [htasks]
      unfold recordedIn answeredIn
      rw [requestsAt_append, requestsAt_append, ih]
      omega

/-! ## When all have come back -/

/-- No authorization is in progress. -/
def AllAnswered (h : Past) (m : Manager) : Prop :=
  ∀ id job d request, m.jobs.find? id = some job →
    h.task? (.call id) ≠ some (.authorize d request)

/-- A call that has an answer from a buffered backend, or is at work there, is an authorization. -/
theorem AllAnswered.no_answer (hall : AllAnswered h m) (hc : Coherent h m) {job : ManagerJob}
    (hjob : m.jobs.find? id = some job) :
    (∀ slot, job ≠ .authorizing slot) ∧ (∀ slot answer, job ≠ .rechecking slot answer) ∧
      ∀ slot answer, job ≠ .flushing slot answer := by
  obtain ⟨task, htask, hfits⟩ := hc.fits id job hjob
  refine ⟨?_, ?_, ?_⟩
  · rintro slot rfl
    obtain ⟨d, wire, ⟨request, rfl, -⟩, -⟩ := hfits
    exact hall id _ d request hjob htask
  · rintro slot answer rfl
    obtain ⟨d, wire, ⟨request, rfl, -⟩, -⟩ := hfits
    exact hall id _ d request hjob htask
  · rintro slot answer rfl
    obtain ⟨d, wire, ⟨request, rfl, -⟩, -⟩ := hfits
    exact hall id _ d request hjob htask

theorem AllAnswered.owedAt_eq_zero (hall : AllAnswered h m) (hc : Coherent h m) :
    owedAt d h m a = 0 := by
  refine Table.sumOf_eq_zero fun id job hjob => ?_
  obtain ⟨-, hrechecking, hflushing⟩ := hall.no_answer hc hjob
  cases job with
  | rechecking slot answer => exact absurd rfl (hrechecking slot answer)
  | flushing slot answer => exact absurd rfl (hflushing slot answer)
  | _ => rfl

/-- Where all loops have exited and no call is under way, nobody is at work at a backend. -/
theorem AllAnswered.nobody_at_work (hall : AllAnswered h m) (hc : Coherent h m)
    (hdrained : m.backends.Drained) {slot : Nat} {s : Slot}
    (hs : m.backends.slots[slot]? = some s) (actor : Actor) :
    s.backend.jobs.find? actor = none := by
  have hslot := hc.sound.slots slot s hs
  cases hjob : s.backend.jobs.find? actor with
  | none => rfl
  | some job =>
      rcases hslot.actors actor job hjob with ⟨id, rfl⟩ | rfl
      · rcases hc.mine_of_job hs hjob with ⟨hmine, -⟩ | ⟨⟨answer, hmine⟩, -⟩
        · exact absurd rfl ((hall.no_answer hc hmine).1 slot)
        · exact absurd rfl ((hall.no_answer hc hmine).2.2 slot answer)
      · have hidle := hslot.idle (by rw [hdrained.exited slot s hs]; rfl)
        rw [hidle] at hjob
        cases hjob

/-- **No usage is lost across a shutdown.** Whatever the order of steps, as long as reports succeed: once a shutdown
has returned and no authorization is in progress, every buffer is empty; and in every account whose running totals
have kept within 64 bits, a destination has accepted exactly the usage of the requests that were answered as
authorized through its buffered backend. -/
theorem usage_reported_at_shutdown {limits : Option CacheLimits} {settings : DispatchSettings}
    {task : Task} (run : Run system (.new now limits settings) h m)
    (reports : system.ReportsSucceed h) (hstopped : (task, .stopped) ∈ h.outcomes)
    (hall : AllAnswered h m) :
    (∀ s ∈ m.backends.slots, s.backend.buffer = .empty) ∧
      ∀ d a, (∀ n ∈ formedIn d a h, InRange n) →
        batchesAt (system.accepted d h) a = requestsAt (answeredIn d h) a := by
  have hc := coherent_of_run run
  have hdrained := drained_of_stopped run hstopped
  have hempty : ∀ s ∈ m.backends.slots, s.backend.buffer = .empty := by
    intro s hmem
    obtain ⟨slot, hs⟩ := List.getElem?_of_mem hmem
    rcases buffer_empty_or_last run reports hs with
      hempty | ⟨id, ⟨hrunning, -⟩ | ⟨answer, hmine | ⟨hmine, -⟩⟩⟩
    · exact hempty
    · -- the loop has exited, after its final flush
      exact absurd (hdrained.exited slot s hs) hrunning
    · exact absurd rfl ((hall.no_answer hc hmine).2.1 slot answer)
    · exact absurd rfl ((hall.no_answer hc hmine).2.2 slot answer)
  refine ⟨hempty, fun d a fits => ?_⟩
  have hheld : Registry.heldFor m.backends.slots d a = 0 := by
    have hzero : ∀ s ∈ m.backends.slots,
        (if s.backend.destination = d then s.backend.heldAt a else 0) = 0 := by
      intro s hmem
      obtain ⟨slot, hs⟩ := List.getElem?_of_mem hmem
      have hflight : s.backend.inFlightAt a = 0 := by
        refine Table.sumOf_eq_zero fun actor job hjob => ?_
        rw [hall.nobody_at_work hc hdrained hs actor] at hjob
        cases hjob
      unfold BufferedBackend.heldAt
      rw [hempty s hmem, hflight, UsageBuffer.pendingAt_empty, Int.add_zero, ite_self]
    exact sum_map_eq_zero hzero
  have hrecorded := recorded_eq_held_add_accepted run fits
  have hanswered := recorded_eq_answered_add_owed run d a
  rw [hheld, Int.zero_add] at hrecorded
  rw [hall.owedAt_eq_zero hc, Int.add_zero] at hanswered
  rw [← hrecorded, hanswered]

/-! ## A run in which usage is late -/

/-- A manager with buffered backends and no cache. -/
def bufferedManager : Manager := .new 0 none ⟨true, 15000, .closed⟩

/-- A request of one application for some hits. -/
def hits (n : Int64) : AuthRequest :=
  ⟨⟨Credential.serviceToken, "t"⟩, "42", [⟨Table.empty.insert "hits" n, ⟨"", "", "", "u"⟩⟩]⟩

/-- A turn of an actor, at the beginning of time. -/
def turn (actor : Actor) : Move Task := .step 0 actor .turn

/-- A call asks for some hits, and is at the backend of its destination after that, or at the builder of one. -/
def asks (id : Nat) (d : String) (n : Int64) : List (Move Task) :=
  .begin (.call id) (.authorize d (hits n)) :: List.replicate 4 (turn (.call id))

/-- The backend answers the request of a call. -/
def answers (id : Nat) (authorized : Bool) : Move Task :=
  .step 0 (.call id) (.answered (.ok ⟨authorized, none, none, none⟩))

/-- The backend accepts a batch from an actor. -/
def accepts (actor : Actor) : Move Task := .step 0 actor (.reported (.ok ()))

/-- A client for a call has been built. -/
def builds (id : Nat) : Move Task := .step 0 (.call id) (.built (.ok ()))

/-- A periodic flush takes the first 5 hits. Then two calls are at their backends when a shutdown begins, and both
come out of them after the final flush of 7 hits: one with 3 hits more, which it flushes itself, one without. Another
shutdown waits for the first, and a last call finds no backend and is answered directly. -/
def lateUsage : List (Move Task) :=
  asks 0 "a" 5 ++ [builds 0, turn (.call 0), answers 0 true, turn (.call 0), turn (.call 0)] ++
    [.step 15000 (.flushLoop 0) .tick, turn (.flushLoop 0), accepts (.flushLoop 0)] ++
    asks 0 "a" 7 ++ [answers 0 true, turn (.call 0), turn (.call 0)] ++
    asks 1 "a" 3 ++ asks 2 "b" 2 ++ [builds 2, turn (.call 2)] ++
    .begin (.call 3) .shutdown :: List.replicate 3 (turn (.call 3)) ++
    [.begin (.call 4) .shutdown, answers 1 true] ++
    [turn (.flushLoop 0), turn (.flushLoop 0), accepts (.flushLoop 0)] ++
    [turn (.flushLoop 1), turn (.flushLoop 1), turn (.call 3), turn (.call 3)] ++
    [turn (.call 1), turn (.call 1), turn (.call 1), accepts (.call 1)] ++
    [answers 2 false, turn (.call 2), turn (.call 2), turn (.call 4)] ++
    [.begin (.call 5) (.authorize "a" (hits 4)), turn (.call 5), turn (.call 5), builds 5,
      answers 5 true]

theorem usage_reported_lateUsage :
    let past := (system.play bufferedManager lateUsage).1
    let manager := (system.play bufferedManager lateUsage).2
    manager.backends.slots.length = 2 ∧ (∀ s ∈ manager.backends.slots, s.backend.buffer = .empty) ∧
      batchesAt (system.accepted "a" past) BufferedBackend.hitsAccount = 15 := by
  intro past manager
  have run : Run system bufferedManager past manager := system.run_play _ _
  have hstopped : ∃ task, (task, .stopped) ∈ past.outcomes :=
    exists_stopped_of_any (by decide +kernel)
  have hall : AllAnswered past manager := by
    intro id job d request hjob
    have hfree : manager.jobs.toList = [] := List.isEmpty_iff.1 (by decide +kernel)
    unfold Table.find? at hjob
    rw [hfree] at hjob
    cases hjob
  obtain ⟨task, hmem⟩ := hstopped
  obtain ⟨hempty, hreported⟩ := usage_reported_at_shutdown run (by decide +kernel) hmem hall
  refine ⟨by decide +kernel, hempty, ?_⟩
  rw [hreported "a" BufferedBackend.hitsAccount (by decide +kernel)]
  decide +kernel

end GatewayAuth.Manager
