import GatewayAuth.Proofs.Dispatch.Recorded
import GatewayAuth.Proofs.Shutdown.Barrier
import GatewayAuth.Proofs.Shutdown.Silence
import GatewayAuth.Proofs.Usage.Lone

/-!
# `GatewayAuth.Proofs.Shutdown.Lone` — the usage of the only authorization

Where only one authorization is asked for, its usage is alone at the backends: nothing is held until it is recorded, and
then one batch is, at its own destination. So every report that is made carries exactly that batch. And once a shutdown
has returned, a report has been made: as long as none has ended, the usage is where it was recorded, and the final flush
takes it out.

## Contents
- `HoldsNothing`, `HoldsOnly`: what all backends hold; `Stepped.holdsNothing`, `Stepped.holdsOnly`,
  `Stepped.holdsOnly_of_recorded`: and after a step.
- `Undecided`, `Lone`, `lone_of_run`: the only authorization, before and after its usage is recorded.
- `exists_of_want_report`, `eq_of_reported`: every report is that of its usage.
- `exists_reported`: a report has been made once the shutdown has returned.
-/

namespace GatewayAuth

namespace Slot.Moved

variable {stopping : Bool} {slot : Nat} {actor : Actor} {input : Input} {s s' : Slot}
  {events : List BufferedBackend.Event} {batch : Wire.Batch}

/-- A move of a slot starts a task, which moves no usage, or it is a step. -/
theorem same_or_stepped (h : s.Moved stopping slot actor input s' events) :
    s'.backend.buffer = s.backend.buffer ∧
        (∀ other, s'.backend.carried other = s.backend.carried other) ∨
      ∃ q, BufferedBackend.Stepped s.backend actor input q ∧ s'.backend = q.state ∧
        events = q.events := by
  cases h with
  | begun hcall work free => exact .inl ⟨rfl, BufferedBackend.carried_resume_job free work⟩
  | woken hloop idle free hwoken => exact .inl ⟨rfl, BufferedBackend.carried_resume_job free .flush⟩
  | worked who work => exact .inr ⟨_, work, rfl, rfl⟩
  | flushed hloop busy work last => exact .inr ⟨_, work, rfl, rfl⟩

theorem holdsNothing (h : s.Moved stopping slot actor input s' events)
    (hs : s.backend.HoldsNothing) (hquiet : BufferedBackend.recordedOf events = []) :
    s'.backend.HoldsNothing := by
  rcases h.same_or_stepped with ⟨hbuffer, hcarried⟩ | ⟨q, work, hbackend, hevents⟩
  · exact hs.congr hbuffer hcarried
  · rw [hbackend]
    exact work.holdsNothing hs (hevents ▸ hquiet)

theorem alone (h : s.Moved stopping slot actor input s' events) (hs : s.backend.Alone batch)
    (hquiet : BufferedBackend.recordedOf events = []) : s'.backend.Alone batch := by
  rcases h.same_or_stepped with ⟨hbuffer, hcarried⟩ | ⟨q, work, hbackend, hevents⟩
  · exact hs.congr hbuffer hcarried
  · rw [hbackend]
    exact work.alone hs (hevents ▸ hquiet)

end Slot.Moved

namespace Manager

variable {m : Manager} {h : Past} {now id : Nat} {actor : Actor} {input : Input}
  {p : Progress Manager Result Event} {d : String} {batch : Wire.Batch} {slot : Nat} {s s' : Slot}
  {wire : Wire.Request} {t : Transaction}

/-! ## What all backends hold -/

/-- No backend holds anything. -/
def HoldsNothing (m : Manager) : Prop :=
  ∀ (slot : Nat) (s : Slot), m.backends.slots[slot]? = some s → s.backend.HoldsNothing

/-- No backend holds anything but one batch, and only those of one destination hold that. -/
def HoldsOnly (m : Manager) (d : String) (batch : Wire.Batch) : Prop :=
  ∀ (slot : Nat) (s : Slot), m.backends.slots[slot]? = some s →
    s.backend.HoldsNothing ∨ s.backend.destination = d ∧ s.backend.Alone batch

/-- No usage is recorded at a step. -/
def Quiet (p : Progress Manager Result Event) : Prop :=
  ∀ slot request, .atSlot slot (.recorded request) ∉ p.events

theorem HoldsNothing.holdsOnly (hm : m.HoldsNothing) (d : String) (batch : Wire.Batch) :
    m.HoldsOnly d batch := fun slot s hs => .inl (hm slot s hs)

/-- A slot that has just been opened holds nothing. -/
theorem Fresh.holdsNothing (hs : Fresh s) : s.backend.HoldsNothing := by
  refine ⟨hs.buffer, fun actor => ?_⟩
  cases hjob : s.backend.jobs.find? actor with
  | none => exact BufferedBackend.carried_of_free hjob
  | some job =>
      obtain ⟨task, rfl⟩ := hs.jobs actor job hjob
      rw [BufferedBackend.carried_of_job hjob]
      cases task <;> rfl

/-- What a quiet step brings about at a slot records nothing there. -/
theorem Quiet.recordedOf (hquiet : Quiet p) (slot : Nat) :
    BufferedBackend.recordedOf (Registry.eventsAt slot (slotEvents p.events)) = [] := by
  refine List.filterMap_eq_nil_iff.2 fun e he => ?_
  cases e with
  | recorded request => exact absurd (mem_of_mem_eventsAt he) (hquiet slot request)
  | accepted batch => rfl
  | flushed summary pending => rfl

/-- A slot that there is after a step has just been opened, or was there before. -/
theorem Stepped.slot_before (step : Stepped m now actor input p)
    (hs' : p.state.backends.slots[slot]? = some s') :
    Fresh s' ∨ ∃ s, m.backends.slots[slot]? = some s ∧ SlotSeen m actor input p slot s s' := by
  cases hs : m.backends.slots[slot]? with
  | none => exact .inl (step.slot_of_new hs' hs)
  | some s =>
      obtain ⟨s'', hs'', hseen⟩ := step.slot hs
      rw [hs'] at hs''
      cases hs''
      exact .inr ⟨s, rfl, hseen⟩

theorem Stepped.holdsNothing (step : Stepped m now actor input p) (hm : m.HoldsNothing)
    (hquiet : Quiet p) : p.state.HoldsNothing := by
  intro slot s' hs'
  rcases step.slot_before hs' with hfresh | ⟨s, hs, ⟨rfl, -⟩ | move⟩
  · exact hfresh.holdsNothing
  · exact hm slot s' hs
  · exact move.holdsNothing (hm slot s hs) (hquiet.recordedOf slot)

theorem Stepped.holdsOnly (step : Stepped m now actor input p) (hm : m.HoldsOnly d batch)
    (hquiet : Quiet p) : p.state.HoldsOnly d batch := by
  intro slot s' hs'
  rcases step.slot_before hs' with hfresh | ⟨s, hs, ⟨rfl, -⟩ | move⟩
  · exact .inl hfresh.holdsNothing
  · exact hm slot s' hs
  · rcases hm slot s hs with hnothing | ⟨hdestination, halone⟩
    · exact .inl (move.holdsNothing hnothing (hquiet.recordedOf slot))
    · exact .inr ⟨move.destination.trans hdestination, move.alone halone (hquiet.recordedOf slot)⟩

/-- What is recorded at a slot is recorded from the request of a job there, and at no other slot. -/
theorem Stepped.recording (step : Stepped m now actor input p) (hc : Coherent h m)
    (hrecorded : .atSlot slot (.recorded wire) ∈ p.events) :
    ∃ s response q, m.backends.slots[slot]? = some s ∧
      s.backend.jobs.find? actor = some (.recording wire response) ∧
      BufferedBackend.Stepped s.backend actor input q ∧
      slotEvents p.events = q.events.map (.atSlot slot) ∧
      BufferedBackend.recordedOf q.events = [wire] := by
  obtain ⟨s, s', hs, -, hevent, move⟩ := step.exists_moved hrecorded
  obtain ⟨⟨response, hjob⟩, -⟩ := move.recording_of_recorded hevent
  obtain ⟨s'', q, -, -, work, hevents⟩ := step.works hc hs hjob
  refine ⟨s, response, q, hs, hjob, work, hevents, ?_⟩
  rw [hevents, Registry.eventsAt_map_self] at hevent
  cases work with
  | recorded job =>
      rw [job] at hjob
      cases hjob
      rfl
  | _ => simp_all only [Option.some.injEq, reduceCtorEq]

/-- **Usage that is recorded where nothing is held is alone**, at the destination of its backend. -/
theorem Stepped.holdsOnly_of_recorded (step : Stepped m now actor input p) (hc : Coherent h m)
    (hm : m.HoldsNothing) (hrecorded : .atSlot slot (.recorded wire) ∈ p.events)
    (ht : wire.transactions = [t]) :
    p.state.HoldsOnly (m.backends.destinationOf slot) ((wire.keyOf t).batch t.usage) := by
  obtain ⟨s₀, response, q, hs₀, hjob, -, hevents, hown⟩ := step.recording hc hrecorded
  intro other s' hs'
  rcases step.slot_before hs' with hfresh | ⟨s, hs, ⟨rfl, -⟩ | move⟩
  · exact .inl hfresh.holdsNothing
  · exact .inl (hm other s' hs)
  · by_cases hother : slot = other
    · subst hother
      have hrecordedOf : BufferedBackend.recordedOf
          (Registry.eventsAt slot (slotEvents p.events)) = [wire] := by
        rw [hevents, Registry.eventsAt_map_self, hown]
      rcases move.same_or_stepped with ⟨hbuffer, hcarried⟩ | ⟨q', work, hbackend, hevents'⟩
      · exact .inl ((hm slot s hs).congr hbuffer hcarried)
      · rw [hevents'] at hrecordedOf
        refine .inr ⟨?_, ?_⟩
        · rw [move.destination, Registry.destinationOf_of_slot hs]
        · rw [hbackend]
          exact work.alone_of_recorded (hm slot s hs) hrecordedOf ht
    · have hquiet : BufferedBackend.recordedOf
          (Registry.eventsAt other (slotEvents p.events)) = [] := by
        rw [hevents, Registry.eventsAt_map_of_ne hother]
        rfl
      exact .inl (move.holdsNothing (hm other s hs) hquiet)

/-! ## The only authorization -/

/-- A call is an authorization that has no answer yet, and may still get it through a buffered backend. -/
def Undecided (m : Manager) (id : Nat) : Prop :=
  (∃ d request, m.jobs.find? id = some (.preparing d request)) ∨
    (∃ d wire, m.jobs.find? id = some (.acquiring d wire)) ∨
      ∃ slot, m.jobs.find? id = some (.authorizing slot)

theorem undecided_congr {m m' : Manager} (h : m'.jobs.find? id = m.jobs.find? id) :
    m'.Undecided id ↔ m.Undecided id := by
  unfold Undecided
  rw [h]

/-- An authorization that is undecided after a step of its own was so before. -/
theorem Called.undecided (step : Called m now id input p) (hafter : p.state.Undecided id) :
    m.Undecided id := by
  -- a phase that the call goes on to, unless it is one of the three
  have hnot : ∀ {m' : Manager} {job : ManagerJob}, (m'.resume id job).Undecided id →
      (∃ d request, job = .preparing d request) ∨ (∃ d wire, job = .acquiring d wire) ∨
        ∃ slot, job = .authorizing slot := by
    intro m' job hundecided
    unfold Undecided at hundecided
    simpa using hundecided
  have hgone : ∀ {m' : Manager}, m'.jobs = m.jobs.erase id → ¬ m'.Undecided id := by
    intro m' hjobs hundecided
    unfold Undecided at hundecided
    rw [hjobs, Table.find?_erase_self] at hundecided
    simp at hundecided
  cases step with
  | acquires hjob => exact .inl ⟨_, _, hjob⟩
  | waited => exact hafter
  | acquired hjob => exact .inr (.inl ⟨_, _, hjob⟩)
  | fetched hjob step =>
      obtain ⟨-, -, -, ⟨-, job', hjobs, hfetch, -⟩ | ⟨hjobs, -⟩⟩ := step.frame
      · unfold Undecided at hafter
        rw [hjobs, Table.find?_insert_self] at hafter
        cases job' <;> simp_all [ManagerJob.isFetch]
      · exact absurd hafter (hgone hjobs)
  | malformed | returned | flushed | notOpened | called | followed | stopsNothing | joined =>
      exact absurd hafter (hgone rfl)
  | goesDirect | notAcquired | answered | overtaken | opened | drains | drainsNothing | drained
  | stopsRefresh =>
      exfalso
      simpa using hnot hafter

theorem Stepped.undecided (step : Stepped m now actor input p) (hafter : p.state.Undecided id) :
    m.Undecided id := by
  by_cases hactor : actor = .call id
  · subst hactor
    cases step with
    | called step => exact step.undecided hafter
  · exact (undecided_congr (step.others hactor)).1 hafter

/-- An authorization is undecided until the step at which its usage is recorded. -/
theorem Stepped.decided_of_recorded (step : Stepped m now actor input p) (hc : Coherent h m)
    (hrecorded : .atSlot slot (.recorded wire) ∈ p.events) :
    ∃ id, actor = .call id ∧ m.jobs.find? id = some (.authorizing slot) ∧ ¬ p.state.Undecided id := by
  obtain ⟨s, response, q, hs, hjob, -⟩ := step.recording hc hrecorded
  obtain ⟨id, rfl, answer, howes⟩ := step.owes_of_recording hc hs hjob
  refine ⟨id, rfl, ?_, ?_⟩
  · rcases hc.mine_of_job hs hjob with ⟨hmine, -⟩ | ⟨-, hserves⟩
    · exact hmine
    · obtain ⟨heq, -⟩ := hserves
      cases heq
  · unfold Undecided
    rcases howes with hmine | ⟨hmine, -⟩ <;> simp [hmine]

theorem mem_requested_of_task? {request : AuthRequest}
    (htask : h.task? actor = some (.authorize d request)) : (d, request) ∈ requested h := by
  induction h with
  | nil => cases htask
  | cons moment h ih =>
      cases moment with
      | stepped m now other input p => exact ih htask
      | began other task =>
          rw [History.task?_began] at htask
          split at htask
          · cases htask
            exact List.mem_cons_self
          · have hmem := ih htask
            cases task with
            | authorize d' request' => exact List.mem_cons_of_mem _ hmem
            | fetch location request' => exact hmem
            | shutdown => exact hmem

/-- An undecided call has been asked to authorize something. -/
theorem Coherent.requested_of_undecided (hc : Coherent h m) (hundecided : m.Undecided id) :
    ∃ d request, (d, request) ∈ requested h := by
  rcases hundecided with ⟨d, request, hjob⟩ | ⟨d, wire, hjob⟩ | ⟨slot, hjob⟩
  · obtain ⟨task, htask, rfl, -⟩ := hc.fits id _ hjob
    exact ⟨d, request, mem_requested_of_task? htask⟩
  · obtain ⟨task, htask, ⟨request, rfl, -⟩, -⟩ := hc.fits id _ hjob
    exact ⟨d, request, mem_requested_of_task? htask⟩
  · obtain ⟨task, htask, d, wire, ⟨request, rfl, -⟩, -⟩ := hc.fits id _ hjob
    exact ⟨d, request, mem_requested_of_task? htask⟩

/-- Where the usage of the only authorization is: nowhere as long as it is undecided, and then alone at its
destination. -/
structure Lone (d : String) (batch : Wire.Batch) (m : Manager) : Prop where
  only : m.HoldsOnly d batch
  undecided : ∀ id, m.Undecided id → m.HoldsNothing
  unique : ∀ id id', m.Undecided id → m.Undecided id' → id = id'

/-- **The usage of the only authorization, after a step.** -/
theorem Stepped.lone {request : AuthRequest} (step : Stepped m now actor input p) (hc : Coherent h m)
    (hone : requested h = [(d, request)]) (hwire : request.toWire = .ok wire)
    (ht : wire.transactions = [t]) (hm : Lone d ((wire.keyOf t).batch t.usage) m) :
    Lone d ((wire.keyOf t).batch t.usage) p.state := by
  by_cases hquiet : Quiet p
  · constructor
    case only => exact step.holdsOnly hm.only hquiet
    case undecided =>
      exact fun id hid => step.holdsNothing (hm.undecided id (step.undecided hid)) hquiet
    case unique => exact fun id id' hid hid' => hm.unique id id' (step.undecided hid) (step.undecided hid')
  · -- the usage is recorded at this step, and no other authorization is undecided
    obtain ⟨slot, wire', hrecorded⟩ : ∃ slot wire', .atSlot slot (.recorded wire') ∈ p.events := by
      unfold Quiet at hquiet
      simpa using hquiet
    obtain ⟨s, response, q, hs, hjob, -⟩ := step.recording hc hrecorded
    obtain ⟨id, rfl, hmine, hdecided⟩ := step.decided_of_recorded hc hrecorded
    have hundecided : m.Undecided id := .inr (.inr ⟨slot, hmine⟩)
    have hnone : ∀ id', ¬ p.state.Undecided id' := by
      intro id' hid'
      have heq := hm.unique id id' hundecided (step.undecided hid')
      subst heq
      exact hdecided hid'
    -- it is that of the only request, at its destination
    obtain ⟨task, htask, d', wire₁, ⟨request', rfl, hwire'⟩, s₁, job, hs₁, hd, -, hjob₁, hserves⟩ :=
      hc.fits id _ hmine
    have hmem := mem_requested_of_task? htask
    rw [hone, List.mem_singleton] at hmem
    cases hmem
    rw [hwire] at hwire'
    cases hwire'
    rw [hs] at hs₁
    cases hs₁
    rw [hjob] at hjob₁
    cases hjob₁
    obtain ⟨heq, -⟩ := hserves
    cases heq
    have honly := step.holdsOnly_of_recorded hc (hm.undecided id hundecided) hrecorded ht
    rw [Registry.destinationOf_of_slot hs, hd] at honly
    exact ⟨honly, fun id' hid' => absurd hid' (hnone id'), fun id' _ hid' => absurd hid' (hnone id')⟩

section
variable {start : Nat} {limits : Option CacheLimits} {settings : DispatchSettings}
  {request : AuthRequest}

/-- Where no authorization has been asked for, nothing is held. -/
theorem holdsNothing_of_run (run : Run system (.new start limits settings) h m)
    (hnone : requested h = []) : m.HoldsNothing := by
  induction run with
  | start =>
      intro slot s hs
      rw [backends_new] at hs
      cases hs
  | @begins h m m' actor task run hbegin ih =>
      obtain ⟨id, job, rfl⟩ := exists_resume_of_begin? hbegin
      cases task with
      | authorize d request => cases hnone
      | fetch location request => exact ih hnone
      | shutdown => exact ih hnone
  | @steps h m now actor input p run hstep ih =>
      have step : Stepped m now actor input p := stepped_of_step hstep
      have hc := coherent_of_run run
      refine step.holdsNothing (ih hnone) fun slot wire hrecorded => ?_
      obtain ⟨id, -, hmine, -⟩ := step.decided_of_recorded hc hrecorded
      obtain ⟨d, request, hmem⟩ := hc.requested_of_undecided (.inr (.inr ⟨slot, hmine⟩))
      have hmem : (d, request) ∈ requested h := hmem
      rw [show requested h = [] from hnone] at hmem
      cases hmem

/-- **The usage of the only authorization is alone**, in every run in which no other one is asked for. -/
theorem lone_of_run (run : Run system (.new start limits settings) h m)
    (hone : requested h = [(d, request)]) (hwire : request.toWire = .ok wire)
    (ht : wire.transactions = [t]) : Lone d ((wire.keyOf t).batch t.usage) m := by
  induction run with
  | start => cases hone
  | @begins h m m' actor task run hbegin ih =>
      have hc := coherent_of_run run
      obtain ⟨id, rfl⟩ : ∃ id, m' = m.resume id task.job := by
        cases actor with
        | call id => exact ⟨id, (eq_resume_of_begin? hbegin).2⟩
        | flushLoop slot => cases hbegin
        | refreshLoop => cases hbegin
      -- a call of another kind is not undecided
      have hother : (∀ d request, task ≠ .authorize d request) → ∀ id',
          (m.resume id task.job).Undecided id' → m.Undecided id' := by
        intro hnot id' hid'
        by_cases heq : id = id'
        · subst heq
          unfold Undecided at hid'
          rw [jobs_resume, Table.find?_insert_self] at hid'
          cases task with
          | authorize d request => exact absurd rfl (hnot d request)
          | fetch location request => simp [Task.job] at hid'
          | shutdown => simp [Task.job] at hid'
        · refine (undecided_congr ?_).1 hid'
          rw [jobs_resume, Table.find?_insert, if_neg heq]
      have hkept : requested h = [(d, request)] → (∀ d request, task ≠ .authorize d request) →
          Lone d ((wire.keyOf t).batch t.usage) (m.resume id task.job) := by
        intro hsame hnot
        have hlone := ih hsame
        constructor
        case only => exact hlone.only
        case undecided => exact fun id' hid' => hlone.undecided id' (hother hnot id' hid')
        case unique =>
          exact fun _ _ hid hid' => hlone.unique _ _ (hother hnot _ hid) (hother hnot _ hid')
      cases task with
      | fetch location request => exact hkept hone nofun
      | shutdown => exact hkept hone nofun
      | authorize d' request' =>
          -- it is the first, so that nothing is held and nobody else is undecided
          have hnone : requested h = [] := (List.cons.inj hone).2
          have hnothing := holdsNothing_of_run run hnone
          have hself : ∀ id', (m.resume id (Task.job (.authorize d' request'))).Undecided id' → id' = id := by
            intro id' hid'
            refine Classical.byContradiction fun hne => ?_
            have hid' : m.Undecided id' := by
              refine (undecided_congr ?_).1 hid'
              rw [jobs_resume, Table.find?_insert, if_neg fun heq => hne heq.symm]
            obtain ⟨d'', request'', hmem⟩ := hc.requested_of_undecided hid'
            rw [hnone] at hmem
            cases hmem
          constructor
          case only => exact hnothing.holdsOnly _ _
          case undecided => exact fun _ _ => hnothing
          case unique => exact fun id₁ id₂ h₁ h₂ => (hself id₁ h₁).trans (hself id₂ h₂).symm
  | @steps h m now actor input p run hstep ih =>
      exact (stepped_of_step hstep).lone (coherent_of_run run) hone hwire ht (ih hone)

end

/-! ## Reports -/

end Manager

theorem BufferedBackend.of_want_report {b : BufferedBackend} {actor : Actor} {d : String}
    {batch : Wire.Batch} (hwant : b.want actor = .reply (.report d batch)) :
    b.destination = d ∧ ∃ rest summary, b.jobs.find? actor = some (.reporting batch rest summary) := by
  unfold want at hwant
  split at hwant
  · cases hwant
  · next rest summary hjob =>
    cases hwant
    exact ⟨rfl, rest, summary, hjob⟩
  all_goals cases hwant

theorem Registry.exists_of_want_report {r : Registry} {actor : Actor} {d : String}
    {batch : Wire.Batch} (hwant : r.want actor = .reply (.report d batch)) :
    ∃ (slot : Nat) (s : Slot), r.slots[slot]? = some s ∧ s.backend.want actor = .reply (.report d batch) := by
  unfold want at hwant
  split at hwant
  · next slot =>
    split at hwant
    · cases hwant
    · next s hs =>
      split at hwant
      · split at hwant <;> cases hwant
      · cases hwant
      · exact ⟨slot, s, hs, hwant⟩
  · split at hwant
    · cases hwant
    · split at hwant <;> cases hwant
    · cases hwant
    · next slot _ =>
      split at hwant
      · next s hs => exact ⟨slot, s, hs, hwant⟩
      · cases hwant
    · split at hwant <;> cases hwant
    · cases hwant

namespace Manager

variable {m : Manager} {h past : Past} {actor : Actor} {d d' : String} {batch : Wire.Batch}
  {wire : Wire.Request} {t : Transaction} {start : Nat} {limits : Option CacheLimits}
  {settings : DispatchSettings} {request : AuthRequest}

theorem exists_of_wantRegistry_report (hwant : m.wantRegistry actor = .reply (.report d batch)) :
    ∃ (slot : Nat) (s : Slot), m.backends.slots[slot]? = some s ∧
      s.backend.want actor = .reply (.report d batch) := by
  unfold wantRegistry at hwant
  split at hwant
  · next r hr =>
    rw [backends_of_registry hr]
    exact Registry.exists_of_want_report hwant
  · cases hwant

/-- Who makes a report is at work at a backend. -/
theorem exists_of_want_report (hwant : m.want actor = .reply (.report d batch)) :
    ∃ (slot : Nat) (s : Slot), m.backends.slots[slot]? = some s ∧
      s.backend.want actor = .reply (.report d batch) := by
  unfold want at hwant
  split at hwant
  · exact exists_of_wantRegistry_report hwant
  · exact absurd hwant (wantRefreshLoop_ne_report m d batch)
  · split at hwant
    case h_4 | h_5 | h_6 | h_7 => exact exists_of_wantRegistry_report hwant
    case h_10 | h_11 => split at hwant <;> cases hwant
    all_goals cases hwant

/-- Who makes a report has its batch in hand, at a backend of its destination. -/
theorem exists_carried_of_want_report (hwant : m.want actor = .reply (.report d batch)) :
    ∃ (slot : Nat) (s : Slot) (rest : List Wire.Batch), m.backends.slots[slot]? = some s ∧
      s.backend.destination = d ∧ s.backend.carried actor = batch :: rest := by
  obtain ⟨slot, s, hs, hwaits⟩ := exists_of_want_report hwant
  obtain ⟨hdestination, rest, summary, hjob⟩ := BufferedBackend.of_want_report hwaits
  exact ⟨slot, s, rest, hs, hdestination, BufferedBackend.carried_of_job hjob⟩

/-- Where nothing is held, nobody makes a report. -/
theorem HoldsNothing.want_ne_report (hm : m.HoldsNothing) :
    m.want actor ≠ .reply (.report d batch) := by
  intro hwant
  obtain ⟨slot, s, rest, hs, -, hcarried⟩ := exists_carried_of_want_report hwant
  rw [(hm slot s hs).carried actor] at hcarried
  cases hcarried

/-- Where one batch is held and nothing else, who makes a report makes that of the batch. -/
theorem HoldsOnly.eq_of_want_report {reported : Wire.Batch} (hm : m.HoldsOnly d batch)
    (hwant : m.want actor = .reply (.report d' reported)) : d' = d ∧ reported = batch := by
  obtain ⟨slot, s, rest, hs, hdestination, hcarried⟩ := exists_carried_of_want_report hwant
  rcases hm slot s hs with hnothing | ⟨hd, halone⟩
  · rw [hnothing.carried actor] at hcarried
    cases hcarried
  · exact ⟨hdestination.symm.trans hd, halone.eq_of_carried hcarried⟩

/-- Where no authorization has been asked for, no report has ended. -/
theorem not_reported (run : Run system (.new start limits settings) h m)
    (hnone : requested h = []) : (past, .report d batch) ∉ system.called h := by
  induction run with
  | start => nofun
  | @begins h m m' actor task run hbegin ih =>
      cases task with
      | authorize d request => cases hnone
      | fetch location request => exact ih hnone
      | shutdown => exact ih hnone
  | @steps h m now actor input p run hstep ih =>
      intro hmem
      rcases List.mem_append.1 hmem with hnow | hold
      · have hwant := System.eq_of_mem_calledNow hnow
        exact (holdsNothing_of_run run hnone).want_ne_report hwant.2
      · exact ih hnone hold

/-- **Every report is that of the only authorization**: it goes to its destination, with exactly its usage. -/
theorem eq_of_reported (run : Run system (.new start limits settings) h m)
    (hone : requested h = [(d, request)]) (hwire : request.toWire = .ok wire)
    (ht : wire.transactions = [t]) (hmem : (past, .report d' batch) ∈ system.called h) :
    d' = d ∧ batch = (wire.keyOf t).batch t.usage := by
  induction run with
  | start => cases hmem
  | @begins h m m' actor task run hbegin ih =>
      cases task with
      | authorize d'' request' =>
          have hmem : (past, .report d' batch) ∈ system.called h := hmem
          exact absurd hmem (not_reported run (List.cons.inj hone).2)
      | fetch location request => exact ih hone hmem
      | shutdown => exact ih hone hmem
  | @steps h m now actor input p run hstep ih =>
      rcases List.mem_append.1 hmem with hnow | hold
      · have hwant := System.eq_of_mem_calledNow hnow
        exact (lone_of_run run hone hwire ht).only.eq_of_want_report hwant.2
      · exact ih hone hold

/-- **A report of recorded usage has ended once a shutdown has returned**, if no authorization is in progress. -/
theorem exists_reported {metric : String} {task : Task}
    (run : Run system (.new start limits settings) h m) (hall : AllAnswered h m)
    (hrecorded : wire ∈ recordedIn d h) (ht : t ∈ wire.transactions)
    (hmetric : t.usage.contains metric = true) (hstopped : (task, .stopped) ∈ h.outcomes) :
    ∃ past d' batch, (past, .report d' batch) ∈ system.called h := by
  refine Classical.byContradiction fun hnot => ?_
  have hno : ∀ past d' batch, (past, .report d' batch) ∉ system.called h :=
    fun past d' batch hmem => hnot ⟨past, d', batch, hmem⟩
  have hc := coherent_of_run run
  have hdrained := drained_of_stopped run hstopped
  obtain ⟨since, m₀, now₀, id, input₀, p₀, before, slot, hsplit, hevent, -⟩ :=
    exists_recording run hrecorded
  subst hsplit
  obtain ⟨s, hl⟩ := located_of_run run (System.reportsSucceed_of_not_called hno) hevent ht hmetric
  cases hw : whereabouts slot (wire.keyOf t) since with
  | pending =>
      -- neither the loop nor the call that recorded it is there any more to drain the buffer
      rcases hl.pending hw with ⟨hrunning, -⟩ | ⟨-, answer, hmine | ⟨hmine, -⟩⟩
      · exact hrunning (hdrained.exited slot s hl.there)
      · exact (hall.no_answer hc hmine).2.1 slot answer rfl
      · exact (hall.no_answer hc hmine).2.2 slot answer rfl
  | accepted =>
      obtain ⟨batch, hmem, -⟩ := hl.accepted hw
      have hnone : system.accepted s.backend.destination since = [] := by
        refine System.accepted_of_not_called (fun past d' batch hmem => ?_) _
        obtain ⟨past', hmem'⟩ := System.mem_called_append _ hmem
        exact hno past' d' batch hmem'
      rw [hnone] at hmem
      cases hmem
  | carried actor =>
      have hkeeps := hl.keeps
      rw [hw] at hkeeps
      obtain ⟨job, hjob, -⟩ := hkeeps
      rw [hall.nobody_at_work hc hdrained hl.there actor] at hjob
      cases hjob

end Manager

end GatewayAuth
