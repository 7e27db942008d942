import GatewayAuth.Proofs.Registry.Ending
import GatewayAuth.Proofs.Shutdown.Delivered

/-!
# `GatewayAuth.Proofs.Shutdown.Silence` — a shutdown runs once, drains every loop and silences them

A flush loop goes through its phases in one direction: it waits, or is in a periodic flush; then it is told to stop,
makes its final flush and exits. `LoopMoved` says which of these steps there are, so that the final flush of a loop
begins once and ends once. The refresh loop is told to stop when all of them have exited (`Settled.told`), and the gate
is closed when it has exited too. From then on no loop takes a step.

## Contents
- `LoopMoved`, `Stepped.loopMoved`: where a step leads a flush loop.
- `countP_inFinalFlush`, `countP_loopExited`, `countP_gatePassed`: what happens once.
- `Stepped.flushed_of_exits`, `CanExit`: how a loop comes to its end.
- `Settled`, `Silent`: how far the refresh loop is when the gate is closed, and what is left then.
- `EndsOnce`: all of this of one run; `endsOnce_of_run`.
-/

namespace GatewayAuth

/-! ## Where a flush loop stands -/

/-- Where a step leads a flush loop. -/
inductive LoopMoved (stopping : Bool) : Option FlushLoop → Option FlushLoop → Prop where
  | kept (loop? : Option FlushLoop) : LoopMoved stopping loop? loop?
  | started (due : Nat) : LoopMoved stopping none (some (.idle due))
  | ticked (due due' : Nat) : LoopMoved stopping (some (.idle due)) (some (.flushing due'))
  | told (due : Nat) (stop : stopping = true) :
      LoopMoved stopping (some (.idle due)) (some .draining)
  | flushed (due : Nat) : LoopMoved stopping (some (.flushing due)) (some (.idle due))
  | exits : LoopMoved stopping (some .draining) (some .exited)

theorem Slot.Moved.loopMoved {stopping : Bool} {slot : Nat} {actor : Actor} {input : Input}
    {s s' : Slot} {events : List BufferedBackend.Event}
    (h : s.Moved stopping slot actor input s' events) :
    LoopMoved stopping (some s.loop) (some s'.loop) := by
  cases h with
  | begun hcall work free => exact .kept _
  | worked who work => exact .kept _
  | woken hloop idle free hwoken =>
      rw [idle]
      rcases hwoken with ⟨due', rfl⟩ | ⟨rfl, stop⟩
      · exact .ticked _ _
      · exact .told _ stop
  | flushed hloop busy work last =>
      cases hphase : s.loop with
      | idle due => rw [hphase] at busy; cases busy
      | flushing due => exact .flushed due
      | draining => exact .exits
      | exited => rw [hphase] at busy; cases busy

namespace Manager

/-- Where the flush loop of a slot stands. -/
def loopAt (m : Manager) (slot : Nat) : Option FlushLoop :=
  m.backends.slots[slot]?.map Slot.loop

/-- Whether the final flush of a slot's loop has begun. -/
def inFinalFlush (slot : Nat) (m : Manager) : Bool :=
  m.loopAt slot = some .draining ∨ m.loopAt slot = some .exited

/-- Whether the loop of a slot has exited. -/
def loopExited (slot : Nat) (m : Manager) : Bool := m.loopAt slot = some .exited

/-- Whether a shutdown has passed the gate. -/
def gatePassed (m : Manager) : Bool := m.gate ≠ .opened

variable {m m' : Manager} {h : Past} {now id slot : Nat} {actor : Actor} {input : Input}
  {p : Progress Manager Result Event} {start : Nat} {limits : Option CacheLimits}
  {settings : DispatchSettings}

theorem Stepped.loopMoved (step : Stepped m now actor input p) (slot : Nat) :
    LoopMoved m.backends.stopping (m.loopAt slot) (p.state.loopAt slot) := by
  unfold loopAt
  cases hs : m.backends.slots[slot]? with
  | some s =>
      obtain ⟨s', hs', hseen⟩ := step.slot hs
      rw [hs']
      rcases hseen with ⟨rfl, -⟩ | move
      · exact .kept _
      · exact move.loopMoved
  | none =>
      cases hs' : p.state.backends.slots[slot]? with
      | none => exact .kept _
      | some s' =>
          obtain ⟨due, hidle⟩ := (step.slot_of_new hs' hs).loop
          rw [Option.map_none, Option.map_some, hidle]
          exact .started due

/-! ## What happens once -/

/-- A call that starts changes nothing but the jobs. -/
theorem exists_resume_of_begin? {task : Task} (hbegin : system.begin? m actor task = some m') :
    ∃ id job, m' = m.resume id job := by
  cases actor with
  | call id => exact ⟨id, task.job, (eq_resume_of_begin? hbegin).2⟩
  | flushLoop slot => cases hbegin
  | refreshLoop => cases hbegin

theorem backends_new (start : Nat) (limits : Option CacheLimits) (settings : DispatchSettings) :
    (new start limits settings).backends.slots = [] := by
  unfold new backends
  dsimp only
  split <;> rfl

theorem loopAt_new (slot : Nat) : (new start limits settings).loopAt slot = none := by
  unfold loopAt
  rw [backends_new]
  rfl

/-- **The final flush of a loop begins once.** -/
theorem countP_inFinalFlush (run : Run system (.new start limits settings) h m) (slot : Nat) :
    h.countP (Moment.rises (inFinalFlush slot)) = if inFinalFlush slot m then 1 else 0 := by
  refine run.countP_rises ?_ ?_ ?_
  · unfold inFinalFlush
    rw [loopAt_new]
    rfl
  · intro m actor task m' hbegin
    obtain ⟨id, job, rfl⟩ := exists_resume_of_begin? hbegin
    rfl
  · intro m now actor input p hstep
    have hmoved := (stepped_of_step hstep).loopMoved slot
    unfold inFinalFlush
    -- a loop that is in its final flush can only exit, and one that has exited stays so
    generalize m.loopAt slot = before at hmoved
    generalize p.state.loopAt slot = after at hmoved
    cases hmoved <;> simp

/-- **A loop exits once.** -/
theorem countP_loopExited (run : Run system (.new start limits settings) h m) (slot : Nat) :
    h.countP (Moment.rises (loopExited slot)) = if loopExited slot m then 1 else 0 := by
  refine run.countP_rises ?_ ?_ ?_
  · unfold loopExited
    rw [loopAt_new]
    rfl
  · intro m actor task m' hbegin
    obtain ⟨id, job, rfl⟩ := exists_resume_of_begin? hbegin
    rfl
  · intro m now actor input p hstep
    have hmoved := (stepped_of_step hstep).loopMoved slot
    unfold loopExited
    generalize m.loopAt slot = before at hmoved
    generalize p.state.loopAt slot = after at hmoved
    cases hmoved <;> simp

/-- What a step does to the gate. -/
theorem Stepped.gate (step : Stepped m now actor input p) :
    p.state.gate = m.gate ∨ p.state.gate = .closed ∨ m.gate = .opened ∧ p.state.gate = .running := by
  cases step with
  | looped hr work => exact .inl rfl
  | refreshed work => exact .inl rfl
  | called step =>
      cases step with
      | fetched hjob step => exact .inl step.frame.2.1
      | drains hjob opened | drainsNothing hjob opened => exact .inr (.inr ⟨opened, rfl⟩)
      | stopsNothing | joined => exact .inr (.inl rfl)
      | _ => exact .inl rfl

/-- **One shutdown passes the gate.** -/
theorem countP_gatePassed (run : Run system (.new start limits settings) h m) :
    h.countP (Moment.rises gatePassed) = if gatePassed m then 1 else 0 := by
  refine run.countP_rises rfl ?_ ?_
  · intro m actor task m' hbegin
    obtain ⟨id, job, rfl⟩ := exists_resume_of_begin? hbegin
    rfl
  · intro m now actor input p hstep hpassed
    unfold gatePassed at hpassed ⊢
    have hpassed := of_decide_eq_true hpassed
    apply decide_eq_true
    rcases (stepped_of_step hstep).gate with hsame | hclosed | ⟨hopened, -⟩
    · rw [hsame]
      exact hpassed
    · rw [hclosed]
      nofun
    · exact absurd hopened hpassed

/-! ## The final flush -/

/-- A flush that comes to a result tells what has become of it. -/
theorem flushed_mem_events {b : BufferedBackend} {job : BufferedJob}
    {q : Progress BufferedBackend BufferedBackend.Result BufferedBackend.Event}
    {result : BufferedBackend.Result} (work : BufferedBackend.Stepped b actor input q)
    (hjob : b.jobs.find? actor = some job) (hserves : job.Serves .flush)
    (last : q.result? = some result) :
    ∃ summary pending, .flushed summary pending ∈ q.events := by
  have hnext : ∀ (b : BufferedBackend) summary rest,
      (b.next actor summary rest).result? = some result →
      ∃ summary' pending, .flushed summary' pending ∈ (b.next actor summary rest).events := by
    intro b summary rest hresult
    cases rest with
    | nil => exact ⟨_, _, List.mem_singleton.2 rfl⟩
    | cons batch rest => cases hresult
  cases work with
  | denied job' | failed job' =>
      rw [hjob] at job'
      cases job'
      cases hserves
  | recorded job' =>
      rw [hjob] at job'
      cases job'
      cases hserves.1
  | granted | overridden | refused => cases last
  | drained => exact hnext _ _ _ last
  | accepted =>
      obtain ⟨summary, pending, hmem⟩ := hnext _ _ _ last
      exact ⟨summary, pending, List.mem_cons_of_mem _ hmem⟩
  | requeued => exact hnext _ _ _ last

/-- A loop exits with the end of a flush. -/
theorem flushed_of_exited {stopping : Bool} {s s' : Slot} {events : List BufferedBackend.Event}
    (move : s.Moved stopping slot actor input s' events) (hs : s.Sound stopping slot)
    (hbefore : s.loop ≠ .exited) (hafter : s'.loop = .exited) :
    ∃ summary pending, .flushed summary pending ∈ events := by
  cases move with
  | begun hcall work free => exact absurd hafter hbefore
  | worked who work => exact absurd hafter hbefore
  | woken hloop idle free hwoken =>
      rcases hwoken with ⟨due, rfl⟩ | ⟨rfl, -⟩ <;> cases hafter
  | flushed hloop busy work last =>
      obtain ⟨job, hjob, hserves⟩ := hs.busy busy
      rw [hloop] at work
      exact flushed_mem_events work hjob hserves last

theorem mem_of_mem_eventsAt {events : List Event} {e : BufferedBackend.Event}
    (hmem : e ∈ Registry.eventsAt slot (slotEvents events)) : .atSlot slot e ∈ events := by
  obtain ⟨e', he', heq⟩ := List.mem_filterMap.1 hmem
  obtain ⟨e'', he'', heq'⟩ := List.mem_filterMap.1 he'
  cases e'' with
  | atSlot i e =>
      cases heq'
      dsimp only at heq
      by_cases hi : i = slot
      · rw [if_pos hi] at heq
        cases heq
        subst hi
        exact he''
      · rw [if_neg hi] at heq
        cases heq
  | cacheHit => cases heq'
  | creationFailed d => cases heq'

/-- **A loop exits from its final flush, at the end of it.** -/
theorem Stepped.flushed_of_exits (step : Stepped m now actor input p) (hc : Coherent h m)
    (hbefore : m.loopAt slot ≠ some .exited) (hafter : p.state.loopAt slot = some .exited) :
    m.loopAt slot = some .draining ∧
      ∃ summary pending, .atSlot slot (.flushed summary pending) ∈ p.events := by
  have hmoved := step.loopMoved slot
  rw [hafter] at hmoved
  generalize hloop : m.loopAt slot = before at hmoved
  cases hmoved with
  | kept => exact absurd hloop hbefore
  | exits =>
      refine ⟨rfl, ?_⟩
      obtain ⟨s, hs, hdraining⟩ := Option.map_eq_some_iff.1 hloop
      obtain ⟨s', hs', hseen⟩ := step.slot hs
      have hexited : s'.loop = .exited := by
        unfold loopAt at hafter
        rw [hs'] at hafter
        exact Option.some.inj hafter
      rcases hseen with ⟨rfl, -⟩ | move
      · rw [hdraining] at hexited
        cases hexited
      · obtain ⟨summary, pending, hmem⟩ := flushed_of_exited move (hc.sound.slots slot s hs)
          (by rw [hdraining]; nofun) hexited
        exact ⟨summary, pending, mem_of_mem_eventsAt hmem⟩

/-- A loop that has exited takes no step. -/
theorem step_flushLoop_eq_none
    (hexited : ∀ s : Slot, m.backends.slots[slot]? = some s → s.loop = .exited) (now : Nat)
    (input : Input) : system.step m now (.flushLoop slot) input = none := by
  cases hstep : system.step m now (.flushLoop slot) input with
  | none => rfl
  | some p =>
      have step : Stepped m now (.flushLoop slot) input p := stepped_of_step hstep
      cases step with
      | looped hr work =>
          rw [backends_of_registry hr] at hexited
          cases work with
          | ticked hslot idle | told hslot idle =>
              rw [hexited _ hslot] at idle
              cases idle
          | worked hslot busy | flushed hslot busy =>
              rw [hexited _ hslot] at busy
              cases busy

/-- Steps of a flush loop are steps of it in the registry. -/
theorem run_of_registry {r r' : Registry} {since : Registry.Past} (hr : m.registry = some r)
    (run : Run Registry.system r since r')
    (hof : ∀ moment ∈ since, moment.IsOf (.flushLoop slot)) :
    ∃ since' : Past, Run system m since' { m with registry := some r' } ∧
      ∀ moment ∈ since', moment.IsOf (.flushLoop slot) := by
  induction run with
  | start =>
      refine ⟨[], ?_, fun moment hmem => by cases hmem⟩
      rw [← hr]
      exact .start
  | begins run hbegin ih => exact (hof _ List.mem_cons_self).elim
  | @steps since r' now actor input p run hstep ih =>
      obtain ⟨since', run', hof'⟩ := ih fun moment hmem => hof moment (List.mem_cons_of_mem _ hmem)
      have hactor : actor = .flushLoop slot := hof _ List.mem_cons_self
      subst hactor
      have hstep' : system.step { m with registry := some r' } now (.flushLoop slot) input =
          some ⟨{ m with registry := some p.state }, none, p.events.map ofRegistry⟩ := by
        have hstep : r'.step now (.flushLoop slot) input = some p := hstep
        simp only [system, step, stepFlushLoop, hstep]
      refine ⟨_, .steps run' hstep', ?_⟩
      intro moment hmem
      rcases List.mem_cons.1 hmem with rfl | hold
      · rfl
      · exact hof' moment hold

/-- A loop can exit by steps of its own, however the run goes on. -/
def CanExit (m : Manager) (slot : Nat) : Prop :=
  ∃ since m', Run system m since m' ∧ (∀ moment ∈ since, moment.IsOf (.flushLoop slot)) ∧
    m'.loopAt slot = some .exited

/-- **Once it is told to stop, every loop comes to its end.** -/
theorem Coherent.canExit (hc : Coherent h m) (stop : m.backends.stopping = true)
    (hloop : m.loopAt slot ≠ none) : m.CanExit slot := by
  unfold loopAt at hloop
  cases hs : m.backends.slots[slot]? with
  | none => rw [hs] at hloop; exact absurd rfl hloop
  | some s =>
      obtain ⟨since, r', s', run, hof, -, hs', hexited, -⟩ :=
        Registry.exits_of_stopping hc.sound stop hs
      cases hr : m.registry with
      | none =>
          unfold backends at hs
          rw [hr] at hs
          cases hs
      | some r =>
          rw [backends_of_registry hr] at run
          obtain ⟨since', run', hof'⟩ := run_of_registry hr run hof
          refine ⟨since', _, run', hof', ?_⟩
          show (r'.slots[slot]?).map Slot.loop = some .exited
          rw [hs', Option.map_some, hexited]

/-! ## The refresh loop -/

/-- Flush loops that have exited stay so. -/
theorem Stepped.drained (step : Stepped m now actor input p) (hd : m.backends.Drained) :
    p.state.backends.Drained := by
  cases step with
  | looped hr work =>
      rw [backends_of_registry hr] at hd
      exact work.drained hd
  | refreshed work => exact hd
  | called step =>
      cases step with
      | fetched hjob step =>
          rw [backends_congr step.frame.1]
          exact hd
      | acquires _ _ hr _ began | overtaken _ hr _ _ began | drains _ _ hr _ began =>
          rw [backends_of_registry hr] at hd
          exact began.drained hd
      | waited _ _ hr work | notAcquired _ hr work | answered _ hr work | flushed _ hr work
      | drained _ hr work =>
          rw [backends_of_registry hr] at hd
          exact work.drained hd
      | acquired hjob hr work last free began =>
          rw [backends_of_registry hr] at hd
          exact began.drained (work.drained hd)
      | _ => exact hd

/-- How far the refresh loop is when the gate is closed. -/
structure Settled (m : Manager) : Prop where
  /-- It is told to stop only after the flush loops have exited. -/
  told : m.stopRefreshing = true → m.backends.Drained
  uncached : m.cache = none → m.refreshExited = true
  closed : m.gate = .closed → m.refreshExited = true

/-- What a call does to what the refresh loop goes by. -/
structure Called.Frame (m : Manager) (id : Nat) (p : Progress Manager Result Event) : Prop where
  loop : p.state.refreshLoop = m.refreshLoop
  cache : p.state.cache = none ↔ m.cache = none
  stop : p.state.stopRefreshing = m.stopRefreshing ∨ m.jobs.find? id = some .stoppingRefresh
  gate : p.state.gate ≠ .closed ∨ m.gate = .closed ∨ m.cache = none ∨ m.refreshExited = true

theorem Called.frame (step : Called m now id input p) : Called.Frame m id p := by
  have hsame : m.gate ≠ .closed ∨ m.gate = .closed ∨ m.cache = none ∨ m.refreshExited = true := by
    by_cases hclosed : m.gate = .closed
    · exact .inr (.inl hclosed)
    · exact .inl hclosed
  cases step with
  | fetched hjob step =>
      cases step with
      | hit hcache | missed hcache | stored hcache =>
          refine ⟨rfl, ?_, .inl rfl, hsame⟩
          rw [hcache]
          exact ⟨nofun, nofun⟩
      | _ => exact ⟨rfl, .rfl, .inl rfl, hsame⟩
  | drains | drainsNothing => exact ⟨rfl, .rfl, .inl rfl, .inl nofun⟩
  | stopsRefresh hjob hcache => exact ⟨rfl, .rfl, .inr hjob, hsame⟩
  | stopsNothing hjob hcache => exact ⟨rfl, .rfl, .inl rfl, .inr (.inr (.inl hcache))⟩
  | joined hjob exited => exact ⟨rfl, .rfl, .inl rfl, .inr (.inr (.inr exited))⟩
  | _ => exact ⟨rfl, .rfl, .inl rfl, hsame⟩

/-- A refresh loop that has exited takes no step. -/
theorem not_refreshed {cache : ConfigCache} {loop : RefreshLoop} (hexited : m.refreshExited = true) :
    ¬ Refreshed m now input cache loop := by
  intro work
  unfold refreshExited at hexited
  cases work with
  | ticked hcache hloop | told hcache hloop | attempted hcache hloop | swept hcache hloop =>
      rw [hloop] at hexited
      cases hexited

theorem Stepped.settled (step : Stepped m now actor input p) (hg : Guarded m) (hm : Settled m) :
    Settled p.state := by
  have hdrained := step.drained
  cases step with
  | looped hr work => exact ⟨fun h => hdrained (hm.told h), hm.uncached, hm.closed⟩
  | refreshed work =>
      refine ⟨hm.told, nofun, ?_⟩
      intro hclosed
      exact absurd work (not_refreshed (hm.closed hclosed))
  | @called id _ _ step =>
      have hframe := step.frame
      have hexited : p.state.refreshExited = m.refreshExited := by
        unfold refreshExited
        rw [hframe.loop]
      refine ⟨?_, ?_, ?_⟩
      · intro hstop
        apply hdrained
        rcases hframe.stop with hsame | hstopping
        · exact hm.told (hsame ▸ hstop)
        · -- the shutdown that stops the refresh loop is past the draining of the backends
          exact hg.past id _ hstopping rfl
      · intro hnone
        rw [hexited]
        exact hm.uncached (hframe.cache.1 hnone)
      · intro hclosed
        rw [hexited]
        rcases hframe.gate with hnot | hold | hnone | hdone
        · exact absurd hclosed hnot
        · exact hm.closed hold
        · exact hm.uncached hnone
        · exact hdone

theorem settled_of_run (run : Run system (.new start limits settings) h m) : Settled m := by
  induction run with
  | start =>
      refine ⟨nofun, ?_, nofun⟩
      intro hnone
      cases limits with
      | none => rfl
      | some limits => cases hnone
  | @begins h m m' actor task run hbegin ih =>
      obtain ⟨id, job, rfl⟩ := exists_resume_of_begin? hbegin
      exact ⟨ih.told, ih.uncached, ih.closed⟩
  | steps run hstep ih => exact (stepped_of_step hstep).settled (guarded_of_run run) ih

/-- A manager whose gate is closed stays so. -/
theorem gate_of_closed {since : Past} (run : Run system m since m') (hclosed : m.gate = .closed) :
    m'.gate = .closed := by
  induction run with
  | start => exact hclosed
  | begins run hbegin ih =>
      obtain ⟨id, job, rfl⟩ := exists_resume_of_begin? hbegin
      exact ih
  | steps run hstep ih => exact (stepped_of_step hstep).gate_of_closed ih

/-! ## The end of a manager -/

/-- Neither the flush loops nor the refresh loop can take a step. -/
def Silent (m : Manager) : Prop :=
  ∀ now input, (∀ slot, system.step m now (.flushLoop slot) input = none) ∧
    system.step m now .refreshLoop input = none

theorem silent_of_closed (run : Run system (.new start limits settings) h m)
    (hclosed : m.gate = .closed) : m.Silent := by
  intro now input
  constructor
  · intro slot
    exact step_flushLoop_eq_none (((guarded_of_run run).closed hclosed).exited slot) now input
  · cases hstep : system.step m now .refreshLoop input with
    | none => rfl
    | some p =>
        have step : Stepped m now .refreshLoop input p := stepped_of_step hstep
        cases step with
        | refreshed work => exact absurd work (not_refreshed ((settled_of_run run).closed hclosed))

/-- What is true of shutdowns, of a manager `m` with the past `h`. -/
structure EndsOnce (h : Past) (m : Manager) : Prop where
  /-- At most one shutdown passes the gate. -/
  gate : h.countP (Moment.rises gatePassed) = if gatePassed m then 1 else 0
  /-- The final flush of a loop begins at most once. -/
  begins : ∀ slot, h.countP (Moment.rises (inFinalFlush slot)) =
    if inFinalFlush slot m then 1 else 0
  /-- It begins after the signal to stop. -/
  signalled : ∀ slot before now actor input p, .stepped before now actor input p ∈ h →
    inFinalFlush slot before = false → inFinalFlush slot p.state = true →
    before.backends.stopping = true
  /-- A loop exits at most once. -/
  exits : ∀ slot, h.countP (Moment.rises (loopExited slot)) = if loopExited slot m then 1 else 0
  /-- It exits with the end of its final flush. -/
  flushed : ∀ slot before now actor input p, .stepped before now actor input p ∈ h →
    loopExited slot before = false → loopExited slot p.state = true →
    before.loopAt slot = some .draining ∧
      ∃ summary pending, .atSlot slot (.flushed summary pending) ∈ p.events
  /-- After that it takes no step. -/
  gone : ∀ slot, loopExited slot m = true →
    ∀ now input, system.step m now (.flushLoop slot) input = none
  /-- Once the signal is given, every loop can come to that by steps of its own. -/
  canExit : m.backends.stopping = true → ∀ slot, m.loopAt slot ≠ none → m.CanExit slot
  /-- The refresh loop is told to stop only after all flush loops have exited. -/
  refresh : m.stopRefreshing = true → m.backends.Drained
  /-- When a shutdown has returned, each flush loop has made one final flush and has exited, so has the refresh loop, and
  no loop takes a step however the run goes on. -/
  returned : (∃ task, (task, .stopped) ∈ h.outcomes) →
    (∀ slot, m.loopAt slot ≠ none → loopExited slot m = true ∧
      h.countP (Moment.rises (inFinalFlush slot)) = 1 ∧
      h.countP (Moment.rises (loopExited slot)) = 1) ∧
    m.refreshExited = true ∧ ∀ since m', Run system m since m' → m'.Silent

theorem endsOnce_of_run (run : Run system (.new start limits settings) h m) : EndsOnce h m := by
  constructor
  case gate => exact countP_gatePassed run
  case begins => exact countP_inFinalFlush run
  case exits => exact countP_loopExited run
  case refresh => exact (settled_of_run run).told
  case canExit => exact fun stop slot => (coherent_of_run run).canExit stop
  case signalled =>
    intro slot before now actor input p hmem hbefore hafter
    obtain ⟨past, run, hstep⟩ := run.of_mem hmem
    have hmoved := (stepped_of_step hstep).loopMoved slot
    unfold inFinalFlush at hbefore hafter
    generalize before.loopAt slot = loop? at hmoved hbefore
    generalize p.state.loopAt slot = loop?' at hmoved hafter
    cases hmoved with
    | told due stop => exact stop
    | _ => simp_all
  case flushed =>
    intro slot before now actor input p hmem hbefore hafter
    obtain ⟨past, run, hstep⟩ := run.of_mem hmem
    exact (stepped_of_step hstep).flushed_of_exits (coherent_of_run run)
      (of_decide_eq_false hbefore) (of_decide_eq_true hafter)
  case gone =>
    intro slot hexited
    have hexited : m.loopAt slot = some .exited := of_decide_eq_true hexited
    refine step_flushLoop_eq_none fun s hs => ?_
    unfold loopAt at hexited
    rw [hs] at hexited
    exact Option.some.inj hexited
  case returned =>
    rintro ⟨task, hstopped⟩
    have hclosed := gate_of_stopped run hstopped
    refine ⟨?_, (settled_of_run run).closed hclosed, ?_⟩
    · intro slot hloop
      obtain ⟨loop, hloop⟩ := Option.ne_none_iff_exists'.1 hloop
      have hexited : m.loopAt slot = some .exited := by
        obtain ⟨s, hs, rfl⟩ := Option.map_eq_some_iff.1 hloop
        rw [hloop, (drained_of_stopped run hstopped).exited slot s hs]
      have hflushed : inFinalFlush slot m = true := decide_eq_true (.inr hexited)
      have hends : loopExited slot m = true := decide_eq_true hexited
      refine ⟨hends, ?_, ?_⟩
      · rw [countP_inFinalFlush run, hflushed]
        rfl
      · rw [countP_loopExited run, hends]
        rfl
    · intro since m' run'
      exact silent_of_closed (run.trans run') (gate_of_closed run' hclosed)

/-! ## A run with two shutdowns -/

/-- A manager with buffered backends and a cache. -/
def fullManager : Manager := .new 0 (some ⟨10, 0, 60000, 300000⟩) ⟨true, 15000, .closed⟩

/-- There is a backend with 5 hits, and one is being built, when two shutdowns are called. The second backend comes just in
time; the loop of the first is in a periodic flush and a sweep of the cache is under way when they are told to stop. -/
def twoShutdowns : List (Move Task) :=
  asks 0 "a" 5 ++ [builds 0, turn (.call 0), answers 0 true, turn (.call 0), turn (.call 0)] ++
    asks 1 "b" 7 ++ [builds 1] ++
    [.step 60000 (.flushLoop 0) .tick, .step 60000 .refreshLoop .tick, turn (.flushLoop 0)] ++
    .begin (.call 2) .shutdown :: .begin (.call 3) .shutdown :: turn (.call 2) ::
    turn (.call 1) :: List.replicate 2 (turn (.call 2)) ++
    [accepts (.flushLoop 0), turn (.flushLoop 0), turn (.flushLoop 0)] ++
    [turn (.flushLoop 1), turn (.flushLoop 1), turn (.call 2), turn (.call 2)] ++
    [turn .refreshLoop, turn .refreshLoop, turn .refreshLoop, turn (.call 2), turn (.call 3)]

theorem endsOnce_twoShutdowns :
    let run := system.play fullManager twoShutdowns
    run.1.outcomes.map Prod.fst = [.shutdown, .shutdown, .authorize "a" (hits 5)] ∧
      run.2.loopAt 0 = some .exited ∧ run.2.loopAt 1 = some .exited ∧
      run.1.countP (Moment.rises (inFinalFlush 1)) = 1 ∧ run.2.refreshExited = true ∧
      EndsOnce run.1 run.2 := by
  refine ⟨by decide +kernel, by decide +kernel, by decide +kernel, by decide +kernel,
    by decide +kernel, ?_⟩
  exact endsOnce_of_run (system.run_play _ _)

end Manager

end GatewayAuth
