import GatewayAuth.Proofs.Usage.Steps
import GatewayAuth.Registry

/-!
# `GatewayAuth.Proofs.Registry.Steps` — what one step of a registry does

`Called` and `Looped` say once what a step of a call and a step of a flush loop can be. Seen from the slots, all
of them come to a few things (`SlotsMoved`): at most one slot changes, and it changes by a start or a step of its
own backend (`Slot.Moved`). Facts about single backends carry over to registries by these cases.

## Contents
- `RegistryJob.Serves`: the task that a job carries out; `Slot.Moved`: what can happen at a slot.
- `began_of_begin?`, `Called`, `Looped`: how a task starts, and the cases of a step.
- `SlotsMoved`: what a step does to the slots.
-/

namespace GatewayAuth

/-- The task that a job on a registry carries out. -/
def RegistryJob.Serves : RegistryJob → Registry.Task → Prop
  | .checking d, task => task = .acquire d
  | .entering d, task => task = .acquire d
  | .waiting d, task => task = .acquire d
  | .building d, task => task = .acquire d
  | .registering d, task => task = .acquire d
  | .using slot, task => ∃ work, task = .use slot work
  | _, task => task = .shutdown

/-- Whether a loop is in a flush. -/
def FlushLoop.isBusy : FlushLoop → Bool
  | .flushing _ => true
  | .draining => true
  | _ => false

/-- What becomes of a slot when an actor starts a task at it or takes a step at it. -/
inductive Slot.Moved (stopping : Bool) (slot : Nat) (actor : Actor) (input : Input) (s : Slot) :
    Slot → List BufferedBackend.Event → Prop where
  | begun {id : Nat} (hcall : actor = .call id) (work : BufferedBackend.Task)
      (free : s.backend.jobs.find? actor = none) :
      Moved stopping slot actor input s { s with backend := s.backend.resume actor work.job } []
  | woken {due : Nat} {loop : FlushLoop} (hloop : actor = .flushLoop slot)
      (idle : s.loop = .idle due) (free : s.backend.jobs.find? actor = none)
      (hwoken : (∃ due, loop = .flushing due) ∨ loop = .draining ∧ stopping = true) :
      Moved stopping slot actor input s ⟨s.backend.resume actor .draining, loop⟩ []
  | worked {q : Progress BufferedBackend BufferedBackend.Result BufferedBackend.Event}
      (who : (∃ id, actor = .call id) ∨
        actor = .flushLoop slot ∧ s.loop.isBusy = true ∧ q.result? = none)
      (work : BufferedBackend.Stepped s.backend actor input q) :
      Moved stopping slot actor input s { s with backend := q.state } q.events
  | flushed {result : BufferedBackend.Result}
      {q : Progress BufferedBackend BufferedBackend.Result BufferedBackend.Event}
      (hloop : actor = .flushLoop slot) (busy : s.loop.isBusy = true)
      (work : BufferedBackend.Stepped s.backend actor input q) (last : q.result? = some result) :
      Moved stopping slot actor input s ⟨q.state, Registry.afterFlush s.loop⟩ q.events

namespace Registry

variable {r : Registry} {now : Nat} {actor : Actor} {input : Input}
  {p : Progress Registry Result Event}

/-! ## Changes -/

@[simp] theorem jobs_resume (r : Registry) (actor : Actor) (job : RegistryJob) :
    (r.resume actor job).jobs = r.jobs.insert actor job := rfl

@[simp] theorem jobs_release (r : Registry) (actor : Actor) :
    (r.release actor).jobs = r.jobs.erase actor := rfl

@[simp] theorem slots_resume (r : Registry) (actor : Actor) (job : RegistryJob) :
    (r.resume actor job).slots = r.slots := rfl

@[simp] theorem slots_release (r : Registry) (actor : Actor) :
    (r.release actor).slots = r.slots := rfl

/-! ## How a task starts -/

/-- What a registry is once an actor has started a task. -/
inductive Began (r : Registry) (actor : Actor) : Task → Registry → Prop where
  | acquire (d : String) : Began r actor (.acquire d) (r.resume actor (.checking d))
  | shutdown : Began r actor .shutdown (r.resume actor .taking)
  | use {slot : Nat} {s : Slot} (work : BufferedBackend.Task) (hslot : r.slots[slot]? = some s)
      (free : s.backend.jobs.find? actor = none) :
      Began r actor (.use slot work)
        ((r.setSlot slot { s with backend := s.backend.resume actor work.job }).resume actor
          (.using slot))

theorem began_of_begin? {r' : Registry} {task : Task} (h : r.begin? actor task = some r') :
    r.jobs.find? actor = none ∧ Began r actor task r' := by
  unfold begin? at h
  split at h
  · cases h
  · next hfree =>
    refine ⟨Table.contains_eq_false_iff.1 (Bool.not_eq_true _ ▸ hfree), ?_⟩
    cases task with
    | acquire d => cases h; exact .acquire d
    | shutdown => cases h; exact .shutdown
    | use slot work =>
        dsimp only at h
        split at h
        · next s hslot =>
          split at h
          · next backend hbegin =>
            obtain ⟨free, rfl⟩ := BufferedBackend.eq_resume_of_begin? hbegin
            cases h
            exact .use work hslot free
          · cases h
        · cases h

/-! ## Steps of calls -/

/-- What a step of a call can be. -/
inductive Called (r : Registry) (now : Nat) (actor : Actor) :
    Input → Progress Registry Result Event → Prop where
  | turnedAway {d : String} (job : r.jobs.find? actor = some (.checking d))
      (closed : r.handles = none) :
      Called r now actor .turn (.done (r.release actor) (.acquired (.error (shuttingDown d))))
  | checked {d : String} {handles : List Nat} (job : r.jobs.find? actor = some (.checking d))
      (opened : r.handles = some handles) :
      Called r now actor .turn (.quiet (r.resume actor (.entering d)))
  | entered {d : String} (job : r.jobs.find? actor = some (.entering d))
      (known : r.cells.contains d = true) :
      Called r now actor .turn (.quiet (r.resume actor (.waiting d)))
  | enteredFirst {d : String} (job : r.jobs.find? actor = some (.entering d))
      (unknown : r.cells.contains d = false) :
      Called r now actor .turn (.quiet ((r.setCell d .vacant).resume actor (.waiting d)))
  | found {d : String} {slot : Nat} (job : r.jobs.find? actor = some (.waiting d))
      (cell : r.cells.find? d = some (.filled slot)) :
      Called r now actor .turn (.done (r.release actor) (.acquired (.ok slot)))
  | claimed {d : String} (job : r.jobs.find? actor = some (.waiting d))
      (cell : r.cells.find? d = some .vacant) :
      Called r now actor .turn
        (.quiet ((r.setCell d (.claimed actor)).resume actor (.building d)))
  | built {d : String} (job : r.jobs.find? actor = some (.building d)) :
      Called r now actor (.built (.ok ())) (.quiet (r.resume actor (.registering d)))
  | buildFailed {d : String} {e : AuthorizerError}
      (job : r.jobs.find? actor = some (.building d)) :
      Called r now actor (.built (.error e))
        (.done ((r.setCell d .vacant).release actor) (.acquired (.error (creationError d e))))
  | builtLate {d : String} (job : r.jobs.find? actor = some (.registering d))
      (closed : r.handles = none) :
      Called r now actor .turn
        (.done ((r.setCell d .vacant).release actor) (.acquired (.error (shuttingDown d))))
  | opened {d : String} {handles : List Nat} (job : r.jobs.find? actor = some (.registering d))
      (hhandles : r.handles = some handles) :
      Called r now actor .turn
        (.done ((r.openSlot now handles d).release actor) (.acquired (.ok r.slots.length)))
  | worked {slot : Nat} {s : Slot} {input : Input}
      {q : Progress BufferedBackend BufferedBackend.Result BufferedBackend.Event}
      (job : r.jobs.find? actor = some (.using slot)) (hslot : r.slots[slot]? = some s)
      (work : BufferedBackend.Stepped s.backend actor input q) (more : q.result? = none) :
      Called r now actor input
        ⟨r.setSlot slot { s with backend := q.state }, none, q.events.map (.atSlot slot)⟩
  | used {slot : Nat} {s : Slot} {input : Input}
      {q : Progress BufferedBackend BufferedBackend.Result BufferedBackend.Event}
      {result : BufferedBackend.Result}
      (job : r.jobs.find? actor = some (.using slot)) (hslot : r.slots[slot]? = some s)
      (work : BufferedBackend.Stepped s.backend actor input q) (last : q.result? = some result) :
      Called r now actor input
        ⟨(r.setSlot slot { s with backend := q.state }).release actor, some (.used result),
          q.events.map (.atSlot slot)⟩
  | tookNothing (job : r.jobs.find? actor = some .taking) (closed : r.handles = none) :
      Called r now actor .turn (.done (r.release actor) .stopped)
  | took {handles : List Nat} (job : r.jobs.find? actor = some .taking)
      (hhandles : r.handles = some handles) :
      Called r now actor .turn
        (.quiet (({ r with handles := none } : Registry).resume actor (.signalling handles)))
  | signalled {handles : List Nat} (job : r.jobs.find? actor = some (.signalling handles)) :
      Called r now actor .turn
        (.quiet (({ r with stopping := true } : Registry).resume actor (.joining handles)))
  | joined {handles : List Nat} (job : r.jobs.find? actor = some (.joining handles))
      (exited : handles.all r.hasExited = true) :
      Called r now actor .turn (.done (r.release actor) .stopped)

/-- A step at the backend of a slot, in terms of that backend. -/
theorem exists_of_stepSlot {slot : Nat}
    {p : Progress Registry BufferedBackend.Result Event}
    (h : r.stepSlot slot actor input = some p) :
    ∃ s q, r.slots[slot]? = some s ∧ BufferedBackend.Stepped s.backend actor input q ∧
      p = ⟨r.setSlot slot { s with backend := q.state }, q.result?,
        q.events.map (.atSlot slot)⟩ := by
  unfold stepSlot at h
  split at h
  · next s hslot =>
    split at h
    · next q hq =>
      cases h
      exact ⟨s, q, hslot, BufferedBackend.stepped_of_step hq, rfl⟩
    · cases h
  · cases h

theorem called_of_stepCall (h : r.stepCall now actor input = some p) :
    Called r now actor input p := by
  unfold stepCall at h
  split at h
  · next d job =>
    split at h
    · next closed => cases h; exact .turnedAway job closed
    · next handles opened => cases h; exact .checked job opened
  · next d job =>
    cases h
    by_cases known : r.cells.contains d = true
    · rw [if_pos known]
      exact .entered job known
    · rw [if_neg known]
      exact .enteredFirst job (Bool.not_eq_true _ ▸ known)
  · next d job =>
    split at h
    · next slot cell => cases h; exact .found job cell
    · next cell => cases h; exact .claimed job cell
    · cases h
  · next d job => cases h; exact .built job
  · next d e job => cases h; exact .buildFailed job
  · next d job =>
    split at h
    · next closed => cases h; exact .builtLate job closed
    · next handles hhandles => cases h; exact .opened job hhandles
  · next slot job =>
    split at h
    · next r' result events hp =>
      obtain ⟨s, q, hslot, work, hq⟩ := exists_of_stepSlot hp
      cases h
      injection hq with h₁ h₂ h₃
      subst h₁ h₃
      exact .used job hslot work h₂.symm
    · next r' events hp =>
      obtain ⟨s, q, hslot, work, hq⟩ := exists_of_stepSlot hp
      cases h
      injection hq with h₁ h₂ h₃
      subst h₁ h₃
      exact .worked job hslot work h₂.symm
    · cases h
  · next job =>
    split at h
    · next closed => cases h; exact .tookNothing job closed
    · next handles hhandles => cases h; exact .took job hhandles
  · next handles job => cases h; exact .signalled job
  · next handles job =>
    split at h
    · next exited => cases h; exact .joined job exited
    · cases h
  · cases h

/-! ## Steps of flush loops -/

/-- What a step of the flush loop of a slot can be. -/
inductive Looped (r : Registry) (now slot : Nat) :
    Input → Progress Registry Result Event → Prop where
  | ticked {s : Slot} {due : Nat} (hslot : r.slots[slot]? = some s) (idle : s.loop = .idle due)
      (hdue : due ≤ now) (free : s.backend.jobs.find? (.flushLoop slot) = none) :
      Looped r now slot .tick
        (.quiet (r.setSlot slot ⟨s.backend.resume (.flushLoop slot) .draining,
          .flushing (nextTick r.flushEvery due now)⟩))
  | told {s : Slot} {due : Nat} (hslot : r.slots[slot]? = some s) (idle : s.loop = .idle due)
      (stop : r.stopping = true) (free : s.backend.jobs.find? (.flushLoop slot) = none) :
      Looped r now slot .turn
        (.quiet (r.setSlot slot ⟨s.backend.resume (.flushLoop slot) .draining, .draining⟩))
  | worked {s : Slot} {input : Input}
      {q : Progress BufferedBackend BufferedBackend.Result BufferedBackend.Event}
      (hslot : r.slots[slot]? = some s) (busy : s.loop.isBusy = true)
      (work : BufferedBackend.Stepped s.backend (.flushLoop slot) input q)
      (more : q.result? = none) :
      Looped r now slot input
        ⟨r.setSlot slot { s with backend := q.state }, none, q.events.map (.atSlot slot)⟩
  | flushed {s : Slot} {input : Input}
      {q : Progress BufferedBackend BufferedBackend.Result BufferedBackend.Event}
      {result : BufferedBackend.Result}
      (hslot : r.slots[slot]? = some s) (busy : s.loop.isBusy = true)
      (work : BufferedBackend.Stepped s.backend (.flushLoop slot) input q)
      (last : q.result? = some result) :
      Looped r now slot input
        ⟨r.setSlot slot ⟨q.state, afterFlush s.loop⟩, none, q.events.map (.atSlot slot)⟩

theorem exists_of_startFlush {slot : Nat} {s : Slot} {loop : FlushLoop} {r' : Registry}
    (h : r.startFlush slot s loop = some r') :
    s.backend.jobs.find? (.flushLoop slot) = none ∧
      r' = r.setSlot slot ⟨s.backend.resume (.flushLoop slot) .draining, loop⟩ := by
  unfold startFlush at h
  split at h
  · next backend hbegin =>
    obtain ⟨free, rfl⟩ := BufferedBackend.eq_resume_of_begin? hbegin
    cases h
    exact ⟨free, rfl⟩
  · cases h

theorem looped_of_stepLoop {slot : Nat} (h : r.stepLoop now slot input = some p) :
    Looped r now slot input p := by
  unfold stepLoop at h
  split at h
  · cases h
  · next s hslot =>
    split at h
    · next due idle =>
      split at h
      · next hdue =>
        obtain ⟨r', hr', rfl⟩ := Option.map_eq_some_iff.1 h
        obtain ⟨free, rfl⟩ := exists_of_startFlush hr'
        exact .ticked hslot idle hdue free
      · cases h
    · next due idle =>
      split at h
      · next stop =>
        obtain ⟨r', hr', rfl⟩ := Option.map_eq_some_iff.1 h
        obtain ⟨free, rfl⟩ := exists_of_startFlush hr'
        exact .told hslot idle stop free
      · cases h
    · cases h
    · cases h
    · next hidle hexited _ _ =>
      have busy : s.loop.isBusy = true := by
        cases hloop : s.loop with
        | idle due => exact absurd hloop (hidle due)
        | flushing due => rfl
        | draining => rfl
        | exited => exact absurd hloop hexited
      -- the result of a flush stays with the loop, which goes to its next phase
      split at h
      · next r' result events hp =>
        obtain ⟨s', q, hslot', work, hq⟩ := exists_of_stepSlot hp
        rw [hslot] at hslot'
        cases hslot'
        injection hq with h₁ h₂ h₃
        subst h₁ h₃
        have hlt : slot < r.slots.length := (List.getElem?_eq_some_iff.1 hslot).1
        have hset : (r.setSlot slot { s with backend := q.state }).slots[slot]? =
            some { s with backend := q.state } := List.getElem?_set_self hlt
        rw [hset] at h
        cases h
        rw [show (r.setSlot slot { s with backend := q.state }).setSlot slot
            ⟨q.state, afterFlush s.loop⟩ = r.setSlot slot ⟨q.state, afterFlush s.loop⟩ by
          simp [setSlot]]
        exact .flushed hslot busy work h₂.symm
      · next r' events hp =>
        obtain ⟨s', q, hslot', work, hq⟩ := exists_of_stepSlot hp
        rw [hslot] at hslot'
        cases hslot'
        injection hq with h₁ h₂ h₃
        subst h₁ h₃
        cases h
        exact .worked hslot busy work h₂.symm
      · cases h

/-! ## The slots -/

/-- What becomes of the slots when an actor starts a task or takes a step: nothing, a new slot, or a move at one
slot. -/
inductive SlotsMoved (r : Registry) (actor : Actor) (input : Input) :
    List Slot → List Event → Prop where
  | kept : SlotsMoved r actor input r.slots []
  | opened (d : String) (due : Nat) {handles : List Nat} (hhandles : r.handles = some handles) :
      SlotsMoved r actor input (r.slots ++ [⟨.new d r.policy, .idle due⟩]) []
  | moved {slot : Nat} {s s' : Slot} {events : List BufferedBackend.Event}
      (hslot : r.slots[slot]? = some s) (move : s.Moved r.stopping slot actor input s' events) :
      SlotsMoved r actor input (r.slots.set slot s') (events.map (.atSlot slot))

theorem Began.slotsMoved {r' : Registry} {id : Nat} {task : Task}
    (h : Began r (.call id) task r') (input : Input) :
    SlotsMoved r (.call id) input r'.slots [] := by
  cases h with
  | acquire d => exact .kept
  | shutdown => exact .kept
  | use work hslot free => exact .moved hslot (.begun rfl work free)

theorem Called.slotsMoved {id : Nat} (h : Called r now (.call id) input p) :
    SlotsMoved r (.call id) input p.state.slots p.events := by
  cases h with
  | opened job hhandles => exact .opened _ _ hhandles
  | worked job hslot work | used job hslot work =>
      exact .moved hslot (.worked (.inl ⟨id, rfl⟩) work)
  | turnedAway | checked | entered | enteredFirst | found | claimed | built | buildFailed | builtLate
  | tookNothing | took | signalled | joined => exact .kept

theorem Looped.slotsMoved {slot : Nat} (h : Looped r now slot input p) :
    SlotsMoved r (.flushLoop slot) input p.state.slots p.events := by
  cases h with
  | ticked hslot idle hdue free => exact .moved hslot (.woken rfl idle free (.inl ⟨_, rfl⟩))
  | told hslot idle stop free => exact .moved hslot (.woken rfl idle free (.inr ⟨rfl, stop⟩))
  | worked hslot busy work more => exact .moved hslot (.worked (.inr ⟨rfl, busy, more⟩) work)
  | flushed hslot busy work last => exact .moved hslot (.flushed rfl busy work last)

end Registry

end GatewayAuth
