import GatewayAuth.Proofs.Registry.Slots

/-!
# `GatewayAuth.Proofs.Registry.Sound` — what holds of a registry at all times

The invariant of a registry ties together what its parts know of each other: who is at work at which backend,
which slot belongs to which destination, and how far a shutdown has got. The order in which a shutdown takes the
handles, gives the signal and waits is in the last four fields.

## Contents
- `Slot.Sound`, `Slot.Moved.sound`: a slot and its loop.
- `Registry.Sound`: the invariant; `sound_new`, `Began.sound`, `Called.sound`, `Looped.sound`.
- `Called.others`, `Called.goes_on`, `Called.ends`: the jobs of calls after a step.
-/

namespace GatewayAuth

/-! ## One slot -/

/-- What holds of a slot: only calls and its own loop work at its backend, its loop does so exactly while it is in
a flush, and it makes its final flush only after the signal. -/
structure Slot.Sound (stopping : Bool) (slot : Nat) (s : Slot) : Prop where
  actors : ∀ actor job, s.backend.jobs.find? actor = some job →
    (∃ id, actor = .call id) ∨ actor = .flushLoop slot
  idle : s.loop.isBusy = false → s.backend.jobs.find? (.flushLoop slot) = none
  busy : s.loop.isBusy = true →
    ∃ job, s.backend.jobs.find? (.flushLoop slot) = some job ∧ job.Serves .flush
  told : s.loop = .draining ∨ s.loop = .exited → stopping = true

namespace Slot

variable {stopping : Bool} {slot : Nat} {actor : Actor} {input : Input} {s s' : Slot}
  {events : List BufferedBackend.Event}

theorem sound_new (d : String) (policy : FailurePolicy) (due : Nat) :
    Sound stopping slot ⟨.new d policy, .idle due⟩ :=
  ⟨fun _ _ hjob => (by cases hjob), fun _ => rfl, fun busy => (by cases busy),
    fun told => by rcases told with h | h <;> cases h⟩

/-- A slot knows of the signal only what it needs. -/
theorem Sound.of_stopping (h : s.Sound stopping slot) {stopping' : Bool}
    (hstop : stopping = true → stopping' = true) : s.Sound stopping' slot :=
  { h with told := fun told => hstop (h.told told) }

theorem isBusy_afterFlush {loop : FlushLoop} (busy : loop.isBusy = true) :
    (Registry.afterFlush loop).isBusy = false := by
  cases loop with
  | idle due => cases busy
  | flushing due => rfl
  | draining => rfl
  | exited => cases busy

theorem told_of_afterFlush {loop : FlushLoop}
    (h : Registry.afterFlush loop = .draining ∨ Registry.afterFlush loop = .exited) :
    loop = .draining ∨ loop = .exited := by
  cases loop with
  | idle due => rcases h with h | h <;> cases h
  | flushing due => rcases h with h | h <;> cases h
  | draining => exact .inl rfl
  | exited => exact .inr rfl

theorem Moved.sound (h : s.Moved stopping slot actor input s' events)
    (hs : s.Sound stopping slot) : s'.Sound stopping slot := by
  have hothers := @h.others
  -- only the actor of the step has another job than before
  have hactors : ∀ other job, s'.backend.jobs.find? other = some job →
      (∃ id, other = .call id) ∨ other = .flushLoop slot := by
    intro other job hjob
    by_cases hother : other = actor
    · subst hother
      cases h with
      | begun hcall work free => exact .inl ⟨_, hcall⟩
      | woken hloop idle free hwoken => exact .inr hloop
      | worked who work => exact who.imp_right And.left
      | flushed hloop busy work last => exact .inr hloop
    · rw [hothers hother] at hjob
      exact hs.actors other job hjob
  cases h with
  | @begun id hcall work free =>
      subst hcall
      have hjob := @hothers (.flushLoop slot) (by nofun)
      refine ⟨hactors, ?_, ?_, hs.told⟩
      · rw [hjob]
        exact hs.idle
      · rw [hjob]
        exact hs.busy
  | woken hloop idle free hwoken =>
      subst hloop
      refine ⟨hactors, ?_, ?_, ?_⟩
      · intro hidle
        rcases hwoken with ⟨due, rfl⟩ | ⟨rfl, -⟩ <;> cases hidle
      · exact fun _ => ⟨.draining, Table.find?_insert_self _ _ _, rfl⟩
      · -- a loop that is woken by its tick has not been told; else it has seen the signal
        intro told
        rcases hwoken with ⟨due, rfl⟩ | ⟨-, stop⟩
        · rcases told with h | h <;> cases h
        · exact stop
  | worked who work =>
      rcases who with ⟨id, rfl⟩ | ⟨rfl, busy, more⟩
      · have hjob := @hothers (.flushLoop slot) (by nofun)
        refine ⟨hactors, ?_, ?_, hs.told⟩
        · rw [hjob]
          exact hs.idle
        · rw [hjob]
          exact hs.busy
      · obtain ⟨job, hjob, hserves⟩ := hs.busy busy
        refine ⟨hactors, ?_, fun _ => work.goes_on more hjob hserves, hs.told⟩
        intro hidle
        rw [show s.loop.isBusy = false from hidle] at busy
        cases busy
  | flushed hloop busy work last =>
      subst hloop
      refine ⟨hactors, fun _ => work.job_gone last, ?_, ?_⟩
      · intro hbusy
        rw [show (Registry.afterFlush s.loop).isBusy = false from isBusy_afterFlush busy] at hbusy
        cases hbusy
      · exact fun told => hs.told (told_of_afterFlush told)

end Slot

namespace Registry

variable {r : Registry} {now : Nat} {actor : Actor} {input : Input}
  {p : Progress Registry Result Event}

/-! ## Jobs of calls -/

/-- A step of a call leaves the jobs of others alone. -/
theorem Called.others (h : Called r now actor input p) {other : Actor} (hne : other ≠ actor) :
    p.state.jobs.find? other = r.jobs.find? other := by
  have hne' : actor ≠ other := fun e => hne e.symm
  cases h <;>
    simp [Progress.done, Progress.quiet, setCell, openSlot, setSlot, Table.find?_insert,
      Table.find?_erase, hne']

/-- The start of a task leaves the jobs of others alone. -/
theorem Began.others {r' : Registry} {task : Task} (h : Began r actor task r') {other : Actor}
    (hne : other ≠ actor) : r'.jobs.find? other = r.jobs.find? other := by
  have hne' : actor ≠ other := fun e => hne e.symm
  cases h <;> simp [setSlot, Table.find?_insert, hne']

theorem Looped.jobs {slot : Nat} (h : Looped r now slot input p) : p.state.jobs = r.jobs := by
  cases h <;> rfl

/-- A task starts with a job that serves it. -/
theorem Began.serves {r' : Registry} {task : Task} (h : Began r actor task r') :
    ∃ job, r'.jobs.find? actor = some job ∧ job.Serves task := by
  cases h with
  | acquire d => exact ⟨_, Table.find?_insert_self _ _ _, rfl⟩
  | shutdown => exact ⟨_, Table.find?_insert_self _ _ _, rfl⟩
  | use work hslot free => exact ⟨_, Table.find?_insert_self _ _ _, work, rfl⟩

/-- A step of a call without a result leads to another phase of the same task. -/
theorem Called.goes_on (h : Called r now actor input p) (hp : p.result? = none)
    {job : RegistryJob} {task : Task} (hjob : r.jobs.find? actor = some job)
    (hserves : job.Serves task) :
    ∃ job', p.state.jobs.find? actor = some job' ∧ job'.Serves task := by
  cases h with
  | checked job | entered job | enteredFirst job | claimed job | built job | took job
  | signalled job =>
      rw [job] at hjob
      cases hjob
      exact ⟨_, Table.find?_insert_self _ _ _, hserves⟩
  | worked job hslot work more =>
      rw [job] at hjob
      cases hjob
      exact ⟨_, job, hserves⟩
  | _ => cases hp

/-- A step of a call with a result takes its job away. -/
theorem Called.ends (h : Called r now actor input p) {result : Result}
    (hp : p.result? = some result) : p.state.jobs.find? actor = none := by
  cases h with
  | checked | entered | enteredFirst | claimed | built | worked | took | signalled => cases hp
  | _ => exact Table.find?_erase_self _ _

/-! ## The invariant -/

/-- What a job on a registry relies on. -/
def Supports (r : Registry) : RegistryJob → Prop
  | .signalling handles => r.handles = none ∧ handles = List.range r.slots.length
  | .joining handles => r.stopping = true ∧ handles = List.range r.slots.length
  | _ => True

/-- What holds of a registry at all times. -/
structure Sound (r : Registry) : Prop where
  slots : ∀ (i : Nat) (s : Slot), r.slots[i]? = some s → s.Sound r.stopping i
  /-- A call with a job at a backend has the job of using it. -/
  calls : ∀ (i : Nat) (s : Slot) id job, r.slots[i]? = some s → s.backend.jobs.find? (.call id) = some job →
    r.jobs.find? (.call id) = some (.using i)
  /-- A filled cell names a slot of its destination. -/
  cells : ∀ d i, r.cells.find? d = some (.filled i) →
    ∃ s, r.slots[i]? = some s ∧ s.backend.destination = d
  /-- Until they are taken, the handles are those of all loops. -/
  handles : ∀ handles, r.handles = some handles → handles = List.range r.slots.length
  /-- The signal is given only after the handles have been taken. -/
  taken : r.stopping = true → r.handles = none
  /-- A shutdown that has taken the handles waits for every loop there will ever be. -/
  jobs : ∀ actor job, r.jobs.find? actor = some job → r.Supports job

/-- A registry without backends and calls. -/
theorem sound_of_empty (hcells : r.cells = .empty) (hslots : r.slots = []) (hjobs : r.jobs = .empty)
    (hhandles : ∀ handles, r.handles = some handles → handles = [])
    (htaken : r.stopping = true → r.handles = none) : r.Sound := by
  have hnone : ∀ (i : Nat) (s : Slot), r.slots[i]? ≠ some s := by
    intro i s hs
    rw [hslots] at hs
    cases hs
  refine ⟨fun i s hs => absurd hs (hnone i s), fun i s _ _ hs => absurd hs (hnone i s), ?_, ?_,
    htaken, ?_⟩
  · intro d i hcell
    rw [hcells] at hcell
    cases hcell
  · intro handles hsome
    rw [hhandles handles hsome, hslots]
    rfl
  · intro actor job hjob
    rw [hjobs] at hjob
    cases hjob

theorem sound_new (policy : FailurePolicy) (flushEvery : Nat) : (new policy flushEvery).Sound := by
  refine sound_of_empty rfl rfl rfl ?_ ?_
  · intro handles hsome
    cases hsome
    rfl
  · intro hstop
    cases hstop

/-- A step keeps the invariant where its own changes do: to the slots by a move, to the job of its actor, to
the cells and to the state of the shutdown. -/
theorem Sound.of_slotsMoved (hr : r.Sound) {r' : Registry} {events : List Event}
    (hmoved : SlotsMoved r actor input r'.slots events)
    (hothers : ∀ other, other ≠ actor → r'.jobs.find? other = r.jobs.find? other)
    (hown : ∀ id (i : Nat) (s : Slot) job, actor = .call id → r'.slots[i]? = some s →
      s.backend.jobs.find? actor = some job → r'.jobs.find? actor = some (.using i))
    (hnew : ∀ job, r'.jobs.find? actor = some job →
      r.jobs.find? actor = some job ∨ r'.Supports job)
    (hcells : ∀ d i, r'.cells.find? d = some (.filled i) →
      r.cells.find? d = some (.filled i) ∨
        ∃ s, r'.slots[i]? = some s ∧ s.backend.destination = d)
    (hhandles : ∀ handles, r'.handles = some handles → handles = List.range r'.slots.length)
    (hkeep : r.handles = none → r'.handles = none ∧ r'.slots.length = r.slots.length)
    (hstop : r.stopping = true → r'.stopping = true)
    (htaken : r'.stopping = true → r'.handles = none) : r'.Sound := by
  -- what a shutdown relies on stays, since it has taken the handles
  have hsupports : ∀ job, r.Supports job → r'.Supports job := by
    intro job hjob
    cases job with
    | signalling handles =>
        obtain ⟨hnone, hlength⟩ := hkeep hjob.1
        exact ⟨hnone, by rw [hlength]; exact hjob.2⟩
    | joining handles =>
        obtain ⟨-, hlength⟩ := hkeep (hr.taken hjob.1)
        exact ⟨hstop hjob.1, by rw [hlength]; exact hjob.2⟩
    | _ => trivial
  refine ⟨?_, ?_, ?_, hhandles, htaken, ?_⟩
  · intro i s' hs'
    cases hs : r.slots[i]? with
    | none =>
        obtain ⟨d, due, -, rfl⟩ := hmoved.of_new hs' hs
        exact Slot.sound_new d r.policy due
    | some s =>
        have hsound := hr.slots i s hs
        rcases hmoved.at_slot hs with ⟨hsame, -⟩ | ⟨s₁, hs₁, move⟩
        · rw [hsame] at hs'
          cases hs'
          exact hsound.of_stopping hstop
        · rw [hs₁] at hs'
          cases hs'
          exact (move.sound hsound).of_stopping hstop
  · intro i s' id job hs' hjob
    by_cases hid : actor = .call id
    · subst hid
      exact hown id i s' job rfl hs' hjob
    · have hne : Actor.call id ≠ actor := fun e => hid e.symm
      rw [hothers _ hne]
      cases hs : r.slots[i]? with
      | none =>
          obtain ⟨d, due, -, rfl⟩ := hmoved.of_new hs' hs
          cases hjob
      | some s =>
          obtain ⟨s₁, hs₁, -, hjobs⟩ := hmoved.others hs hne
          rw [hs₁] at hs'
          cases hs'
          rw [hjobs] at hjob
          exact hr.calls i s id job hs hjob
  · intro d i hcell
    rcases hcells d i hcell with hold | hnew
    · obtain ⟨s, hs, hd⟩ := hr.cells d i hold
      obtain ⟨s', hs', hd'⟩ := hmoved.persists hs
      exact ⟨s', hs', hd'.trans hd⟩
    · exact hnew
  · intro other job hjob
    by_cases hother : other = actor
    · subst hother
      rcases hnew job hjob with hold | hjob'
      · exact hsupports job (hr.jobs other job hold)
      · exact hjob'
    · rw [hothers other hother] at hjob
      exact hsupports job (hr.jobs other job hjob)

/-- A step that changes only the job of a call and the cells keeps the invariant, where the call is not at work at
a backend, no shutdown goes on and no cell is filled. -/
theorem Sound.of_same_slots (hr : r.Sound) {r' : Registry} {id : Nat}
    (hnot : ∀ i, r.jobs.find? (.call id) ≠ some (.using i))
    (hothers : ∀ other, other ≠ .call id → r'.jobs.find? other = r.jobs.find? other)
    (hnew : ∀ job, r'.jobs.find? (.call id) = some job → r'.Supports job)
    (hcells : ∀ d i, r'.cells.find? d = some (.filled i) → r.cells.find? d = some (.filled i))
    (hslots : r'.slots = r.slots) (hhandles : r'.handles = r.handles)
    (hstop : r'.stopping = r.stopping) : r'.Sound := by
  have hkept : SlotsMoved r (.call id) .turn r'.slots [] := hslots ▸ .kept
  refine hr.of_slotsMoved hkept hothers ?_ (fun job hjob => .inr (hnew job hjob))
    (fun d i hcell => .inl (hcells d i hcell)) ?_ ?_ ?_ ?_
  · intro id' i s job hid hs hjob
    rw [hslots] at hs
    exact absurd (hr.calls i s id job hs hjob) (hnot i)
  · rw [hhandles, hslots]
    exact hr.handles
  · rw [hhandles, hslots]
    exact fun hnone => ⟨hnone, rfl⟩
  · rw [hstop]
    exact fun h => h
  · rw [hhandles, hstop]
    exact hr.taken

theorem ne_using {job : RegistryJob} (hjob : r.jobs.find? actor = some job)
    (hne : ∀ i, job ≠ .using i) (i : Nat) : r.jobs.find? actor ≠ some (.using i) := by
  rw [hjob]
  exact fun h => hne i (Option.some.inj h)

theorem supports_release (r : Registry) (actor : Actor) (job : RegistryJob)
    (h : (r.release actor).jobs.find? actor = some job) : (r.release actor).Supports job := by
  rw [jobs_release, Table.find?_erase_self] at h
  cases h

theorem supports_resume {job : RegistryJob} (hjob : (r.resume actor job).Supports job)
    (job' : RegistryJob) (h : (r.resume actor job).jobs.find? actor = some job') :
    (r.resume actor job).Supports job' := by
  rw [jobs_resume, Table.find?_insert_self] at h
  cases h
  exact hjob

/-- A cell that is not filled now fills no cell. -/
theorem cells_setCell {d : String} {cell : Cell} (hcell : cell.isFilled = false) (d' : String)
    (i : Nat) (h : (r.setCell d cell).cells.find? d' = some (.filled i)) :
    r.cells.find? d' = some (.filled i) := by
  unfold setCell at h
  rw [Table.find?_insert] at h
  by_cases hd : d = d'
  · rw [if_pos hd] at h
    cases h
    cases hcell
  · rw [if_neg hd] at h
    exact h

theorem Began.sound {r' : Registry} {id : Nat} {task : Task} (h : Began r (.call id) task r')
    (free : r.jobs.find? (.call id) = none) (hr : r.Sound) : r'.Sound := by
  have hmoved := h.slotsMoved .turn
  have hothers := fun other hne => @h.others _ _ _ _ other hne
  have hnot : ∀ i, r.jobs.find? (.call id) ≠ some (.using i) := fun i => free ▸ nofun
  cases h with
  | acquire d =>
      exact hr.of_same_slots hnot hothers (supports_resume trivial) (fun _ _ h => h) rfl rfl rfl
  | shutdown =>
      exact hr.of_same_slots hnot hothers (supports_resume trivial) (fun _ _ h => h) rfl rfl rfl
  | @use slot s work hslot hfree =>
      refine hr.of_slotsMoved hmoved hothers ?_ ?_ (fun _ _ h => .inl h) ?_ ?_ (fun h => h)
        hr.taken
      · intro id' i s' job hid hs' hjob
        rw [jobs_resume, Table.find?_insert_self]
        by_cases hi : slot = i
        · rw [hi]
        · have hsame : (r.slots.set slot _)[i]? = some s' := hs'
          rw [List.getElem?_set_ne hi] at hsame
          exact absurd (hr.calls i s' id job hsame hjob) (hnot i)
      · exact fun job hjob => .inr (supports_resume (by trivial) job hjob)
      · intro handles hhandles
        rw [hr.handles handles hhandles]
        simp [setSlot]
      · intro hnone
        exact ⟨hnone, by simp [setSlot]⟩

/-- **A step of a call keeps the invariant.** -/
theorem Called.sound {id : Nat} (h : Called r now (.call id) input p) (hr : r.Sound) :
    p.state.Sound := by
  have hmoved := h.slotsMoved
  have hothers := fun other hne => @h.others _ _ _ _ _ other hne
  cases h with
  | turnedAway job | found job | tookNothing job | joined job =>
      exact hr.of_same_slots (ne_using job (fun _ h => by cases h)) hothers (supports_release r _)
        (fun _ _ h => h) rfl rfl rfl
  | checked job | entered job | built job =>
      exact hr.of_same_slots (ne_using job (fun _ h => by cases h)) hothers (supports_resume trivial)
        (fun _ _ h => h) rfl rfl rfl
  | enteredFirst job | claimed job =>
      exact hr.of_same_slots (ne_using job (fun _ h => by cases h)) hothers (supports_resume trivial)
        (cells_setCell rfl) rfl rfl rfl
  | buildFailed job | builtLate job =>
      exact hr.of_same_slots (ne_using job (fun _ h => by cases h)) hothers (supports_release _ _)
        (cells_setCell rfl) rfl rfl rfl
  | @opened d handles job hhandles =>
      have hlength : (r.openSlot now handles d).slots.length = r.slots.length + 1 := by
        simp [openSlot]
      refine hr.of_slotsMoved hmoved hothers ?_ ?_ ?_ ?_ ?_ (fun h => h) ?_
      · intro id' i s job' hid hs hjob
        cases hold : r.slots[i]? with
        | none =>
            obtain ⟨d', due, -, rfl⟩ := hmoved.of_new hs hold
            cases hjob
        | some s₀ =>
            have hsame : (r.slots ++ [_])[i]? = some s := hs
            rw [List.getElem?_append_left (List.getElem?_eq_some_iff.1 hold).1] at hsame
            exact absurd (hr.calls i s id job' hsame hjob) (ne_using job (fun _ h => by cases h) i)
      · exact fun job hjob => .inr (supports_release _ _ job hjob)
      · intro d' i hcell
        have hcell : (r.cells.insert d (.filled r.slots.length)).find? d' = some (.filled i) :=
          hcell
        rw [Table.find?_insert] at hcell
        by_cases hd : d = d'
        · rw [if_pos hd] at hcell
          cases hcell
          refine .inr ⟨⟨.new d r.policy, .idle (now + r.flushEvery)⟩, ?_, hd⟩
          exact List.getElem?_concat_length
        · rw [if_neg hd] at hcell
          exact .inl hcell
      · -- the handle of the new loop joins those of the others
        intro handles' hhandles'
        cases hhandles'
        show handles ++ [r.slots.length] = List.range (r.openSlot now handles d).slots.length
        rw [hlength, List.range_succ, hr.handles handles hhandles]
      · -- no backend is opened once the handles have been taken
        intro hnone
        rw [hnone] at hhandles
        cases hhandles
      · intro stop
        rw [hr.taken stop] at hhandles
        cases hhandles
  | @worked slot s _ q job hslot work more =>
      refine hr.of_slotsMoved hmoved hothers ?_ (fun _ hjob => .inl hjob) (fun _ _ h => .inl h)
        ?_ ?_ (fun h => h) hr.taken
      · intro id' i s' job' hid hs' hjob
        by_cases hi : slot = i
        · rw [← hi]
          exact job
        · have hsame : (r.slots.set slot _)[i]? = some s' := hs'
          rw [List.getElem?_set_ne hi] at hsame
          exact hr.calls i s' id job' hsame hjob
      · intro handles hhandles
        rw [hr.handles handles hhandles]
        simp [setSlot]
      · exact fun hnone => ⟨hnone, by simp [setSlot]⟩
  | @used slot s _ q result job hslot work last =>
      refine hr.of_slotsMoved hmoved hothers ?_ (fun _ hjob => .inr (supports_release _ _ _ hjob))
        (fun _ _ h => .inl h) ?_ ?_ (fun h => h) hr.taken
      · intro id' i s' job' hid hs' hjob
        -- at its own slot the job has ended, and it was at work at no other
        by_cases hi : slot = i
        · subst hi
          have hself : (r.slots.set slot _)[slot]? = some s' := hs'
          rw [List.getElem?_set_self (List.getElem?_eq_some_iff.1 hslot).1] at hself
          cases hself
          rw [work.job_gone last] at hjob
          cases hjob
        · have hsame : (r.slots.set slot _)[i]? = some s' := hs'
          rw [List.getElem?_set_ne hi] at hsame
          have husing := hr.calls i s' id job' hsame hjob
          rw [job] at husing
          cases husing
          exact absurd rfl hi
      · intro handles hhandles
        rw [hr.handles handles hhandles]
        simp [setSlot]
      · exact fun hnone => ⟨hnone, by simp [setSlot]⟩
  | @took handles job hhandles =>
      refine hr.of_slotsMoved hmoved hothers ?_ ?_ (fun _ _ h => .inl h) (fun _ h => by cases h)
        (fun _ => ⟨rfl, rfl⟩) (fun h => h) (fun _ => rfl)
      · exact fun _ i s job' _ hs hjob =>
          absurd (hr.calls i s id job' hs hjob) (ne_using job (fun _ h => by cases h) i)
      · refine fun job' hjob' => .inr (supports_resume ?_ job' hjob')
        exact ⟨rfl, hr.handles handles hhandles⟩
  | @signalled handles job =>
      obtain ⟨hnone, hall⟩ := hr.jobs _ _ job
      refine hr.of_slotsMoved hmoved hothers ?_ ?_ (fun _ _ h => .inl h) hr.handles
        (fun h => ⟨h, rfl⟩) (fun _ => rfl) (fun _ => hnone)
      · exact fun _ i s job' _ hs hjob =>
          absurd (hr.calls i s id job' hs hjob) (ne_using job (fun _ h => by cases h) i)
      · refine fun job' hjob' => .inr (supports_resume ?_ job' hjob')
        exact ⟨rfl, hall⟩

/-- **A step of a flush loop keeps the invariant.** -/
theorem Looped.sound {slot : Nat} (h : Looped r now slot input p) (hr : r.Sound) :
    p.state.Sound := by
  have hlength : p.state.slots.length = r.slots.length := by
    cases h <;> simp [Progress.quiet, setSlot]
  have hfields : p.state.cells = r.cells ∧ p.state.handles = r.handles ∧
      p.state.stopping = r.stopping := by
    cases h <;> exact ⟨rfl, rfl, rfl⟩
  obtain ⟨hcells, hhandles, hstop⟩ := hfields
  refine hr.of_slotsMoved h.slotsMoved ?_ (fun _ _ _ _ e => by cases e) ?_ ?_ ?_ ?_ ?_ ?_
  · exact fun other _ => by rw [h.jobs]
  · intro job hjob
    rw [h.jobs] at hjob
    exact .inl hjob
  · rw [hcells]
    exact fun d i hcell => .inl hcell
  · rw [hhandles, hlength]
    exact hr.handles
  · rw [hhandles]
    exact fun hnone => ⟨hnone, hlength⟩
  · rw [hstop]
    exact fun h => h
  · rw [hhandles, hstop]
    exact hr.taken

end Registry

end GatewayAuth
