import GatewayAuth.Proofs.Registry.Steps

/-!
# `GatewayAuth.Proofs.Registry.Slots` — what a step does to the backends of a registry

A slot keeps its destination for good, and a move at it touches the job of the moving actor only. The balance of
a single backend becomes the balance of a destination, summed over the slots.

## Contents
- `Slot.Moved.destination`, `others`, `loop_of_call`, `balance`: what a move at a slot keeps, and its balance.
- `SlotsMoved.persists`, `SlotsMoved.at_slot`: the slots one by one.
- `heldFor`, `recordedFor`, `acceptedFor`, `SlotsMoved.balance_for`: the balance of a destination.
- `Called.acceptedFor_eq`, `Looped.acceptedFor_eq`: acceptance, seen from inside and from outside.
-/

namespace GatewayAuth

-- The zero of a sum is that of the core library, also where another one is in scope.
attribute [local instance (high)] Zero.ofOfNat0

/-! ## One slot -/

namespace Slot.Moved

variable {stopping : Bool} {slot : Nat} {actor : Actor} {input : Input} {s s' : Slot}
  {events : List BufferedBackend.Event}

theorem destination (h : s.Moved stopping slot actor input s' events) :
    s'.backend.destination = s.backend.destination := by
  cases h with
  | begun hcall work free => rfl
  | woken hloop idle free hwoken => rfl
  | worked who work => exact work.destination
  | flushed hloop busy work last => exact work.destination

/-- A move starts a task at the backend or is a step of it. -/
theorem started_or_stepped (h : s.Moved stopping slot actor input s' events) :
    (s.backend.jobs.find? actor = none ∧ ∃ task : BufferedBackend.Task,
        s'.backend = s.backend.resume actor task.job) ∨
      ∃ q, BufferedBackend.Stepped s.backend actor input q ∧ s'.backend = q.state := by
  cases h with
  | begun hcall work free => exact .inl ⟨free, work, rfl⟩
  | woken hloop idle free hwoken => exact .inl ⟨free, .flush, rfl⟩
  | worked who work => exact .inr ⟨_, work, rfl⟩
  | flushed hloop busy work last => exact .inr ⟨_, work, rfl⟩

/-- A move leaves the jobs of other actors alone. -/
theorem others (h : s.Moved stopping slot actor input s' events) {other : Actor}
    (hne : other ≠ actor) : s'.backend.jobs.find? other = s.backend.jobs.find? other := by
  have hne' : actor ≠ other := fun e => hne e.symm
  cases h with
  | begun hcall work free => simp [Table.find?_insert, hne']
  | woken hloop idle free hwoken => simp [Table.find?_insert, hne']
  | worked who work => exact work.others hne
  | flushed hloop busy work last => exact work.others hne

/-- A call leaves the loop of a slot where it stands. -/
theorem loop_of_call {id : Nat} (h : s.Moved stopping slot (.call id) input s' events) :
    s'.loop = s.loop := by
  cases h with
  | begun hcall work free => rfl
  | woken hloop idle free hwoken => cases hloop
  | worked who work => rfl
  | flushed hloop busy work last => cases hloop

/-- The balance of a move. -/
theorem balance (h : s.Moved stopping slot actor input s' events) {a : Account}
    (fits : ∀ n ∈ s.backend.formed actor a, InRange n) :
    s'.backend.heldAt a + batchesAt (BufferedBackend.acceptedOf events) a =
      s.backend.heldAt a + requestsAt (BufferedBackend.recordedOf events) a := by
  cases h with
  | begun hcall work free =>
      rw [BufferedBackend.heldAt_resume_job free]
      rfl
  | woken hloop idle free hwoken =>
      rw [show s.backend.resume actor .draining =
        s.backend.resume actor BufferedBackend.Task.flush.job from rfl,
        BufferedBackend.heldAt_resume_job free]
      rfl
  | worked who work => exact work.balance fits
  | flushed hloop busy work last => exact work.balance fits

end Slot.Moved

namespace Registry

variable {r : Registry} {now : Nat} {actor : Actor} {input : Input} {slots : List Slot}
  {events : List Event} {p : Progress Registry Result Event}

/-! ## The slots one by one -/

/-- The events at one slot. -/
def eventsAt (slot : Nat) (events : List Event) : List BufferedBackend.Event :=
  events.filterMap fun e => match e with | .atSlot i e => if i = slot then some e else none

theorem eventsAt_map_self (slot : Nat) (events : List BufferedBackend.Event) :
    eventsAt slot (events.map (.atSlot slot)) = events := by
  unfold eventsAt
  rw [List.filterMap_map]
  simp only [Function.comp_def, if_true, List.filterMap_some]

theorem eventsAt_map_of_ne {i slot : Nat} (hne : i ≠ slot)
    (events : List BufferedBackend.Event) : eventsAt slot (events.map (.atSlot i)) = [] := by
  unfold eventsAt
  rw [List.filterMap_map, List.filterMap_eq_nil_iff]
  exact fun _ _ => if_neg hne

theorem mem_eventsAt {slot : Nat} {event : BufferedBackend.Event}
    (h : .atSlot slot event ∈ events) : event ∈ eventsAt slot events :=
  List.mem_filterMap.2 ⟨_, h, if_pos rfl⟩

/-- What happens at a slot happens at one that exists. -/
theorem SlotsMoved.exists_slot (h : SlotsMoved r actor input slots events) {i : Nat}
    {event : BufferedBackend.Event} (hmem : .atSlot i event ∈ events) :
    ∃ s, r.slots[i]? = some s := by
  cases h with
  | kept => cases hmem
  | opened d due hhandles => cases hmem
  | moved hslot move =>
      obtain ⟨event', -, heq⟩ := List.mem_map.1 hmem
      cases heq
      exact ⟨_, hslot⟩

/-- A slot that exists stays, unchanged or after one move. -/
theorem SlotsMoved.at_slot (h : SlotsMoved r actor input slots events) {i : Nat} {s : Slot}
    (hs : r.slots[i]? = some s) :
    (slots[i]? = some s ∧ eventsAt i events = []) ∨
      ∃ s', slots[i]? = some s' ∧ s.Moved r.stopping i actor input s' (eventsAt i events) := by
  cases h with
  | kept => exact .inl ⟨hs, rfl⟩
  | opened d due hhandles =>
      refine .inl ⟨?_, rfl⟩
      rw [List.getElem?_append_left (List.getElem?_eq_some_iff.1 hs).1]
      exact hs
  | @moved slot s₀ s' events hslot move =>
      by_cases hi : slot = i
      · subst hi
        rw [hslot] at hs
        cases hs
        refine .inr ⟨s', ?_, ?_⟩
        · exact List.getElem?_set_self (List.getElem?_eq_some_iff.1 hslot).1
        · rw [eventsAt_map_self]
          exact move
      · refine .inl ⟨?_, eventsAt_map_of_ne hi events⟩
        rw [List.getElem?_set_ne hi]
        exact hs

/-- The start of a task of a call, whether the signal has been given or not. -/
theorem Began.at_slot {r' : Registry} {id : Nat} {task : Task} (h : Began r (.call id) task r')
    (stopping : Bool) (input : Input) {i : Nat} {s : Slot} (hs : r.slots[i]? = some s) :
    r'.slots[i]? = some s ∨
      ∃ s', r'.slots[i]? = some s' ∧ s.Moved stopping i (.call id) input s' [] := by
  cases h with
  | acquire d => exact .inl hs
  | shutdown => exact .inl hs
  | @use slot s₀ work hslot free =>
      by_cases hi : slot = i
      · subst hi
        rw [hslot] at hs
        cases hs
        exact .inr ⟨_, List.getElem?_set_self (List.getElem?_eq_some_iff.1 hslot).1,
          .begun rfl work free⟩
      · refine .inl ?_
        show (r.slots.set slot _)[i]? = some s
        rw [List.getElem?_set_ne hi]
        exact hs

/-- A slot that was not there before is new and empty. -/
theorem SlotsMoved.of_new (h : SlotsMoved r actor input slots events) {i : Nat} {s : Slot}
    (hs : slots[i]? = some s) (hnew : r.slots[i]? = none) :
    ∃ d due, i = r.slots.length ∧ s = ⟨.new d r.policy, .idle due⟩ := by
  cases h with
  | kept => rw [hs] at hnew; cases hnew
  | opened d due hhandles =>
      have hge := List.getElem?_eq_none_iff.1 hnew
      have hlt := (List.getElem?_eq_some_iff.1 hs).1
      rw [List.length_append, List.length_singleton] at hlt
      have hi : i = r.slots.length := by omega
      subst hi
      rw [List.getElem?_concat_length] at hs
      cases hs
      exact ⟨d, due, rfl, rfl⟩
  | moved hslot move =>
      have hge := List.getElem?_eq_none_iff.1 hnew
      have hlt := (List.getElem?_eq_some_iff.1 hs).1
      rw [List.length_set] at hlt
      omega

/-- A slot keeps its destination for good. -/
theorem SlotsMoved.persists (h : SlotsMoved r actor input slots events) {i : Nat} {s : Slot}
    (hs : r.slots[i]? = some s) :
    ∃ s', slots[i]? = some s' ∧ s'.backend.destination = s.backend.destination := by
  rcases h.at_slot hs with ⟨hs', -⟩ | ⟨s', hs', move⟩
  · exact ⟨s, hs', rfl⟩
  · exact ⟨s', hs', move.destination⟩

/-- At every slot, a step leaves the jobs of other actors alone. -/
theorem SlotsMoved.others (h : SlotsMoved r actor input slots events) {i : Nat} {s : Slot}
    (hs : r.slots[i]? = some s) {other : Actor} (hne : other ≠ actor) :
    ∃ s', slots[i]? = some s' ∧ s'.backend.destination = s.backend.destination ∧
      s'.backend.jobs.find? other = s.backend.jobs.find? other := by
  rcases h.at_slot hs with ⟨hs', -⟩ | ⟨s', hs', move⟩
  · exact ⟨s, hs', rfl, rfl⟩
  · exact ⟨s', hs', move.destination, move.others hne⟩

/-! ## The balance of a destination -/

/-- The amount of an account that the backends for a destination hold. -/
def heldFor (slots : List Slot) (d : String) (a : Account) : Int :=
  (slots.map fun s => if s.backend.destination = d then s.backend.heldAt a else 0).sum

/-- The running totals of an account that the next step of an actor forms at the backends for a destination. -/
def formedFor (r : Registry) (actor : Actor) (d : String) (a : Account) : List Int :=
  r.slots.flatMap fun s => if s.backend.destination = d then s.backend.formed actor a else []

/-- The requests recorded for a destination. -/
def recordedFor (r : Registry) (d : String) (events : List Event) : List Wire.Request :=
  events.filterMap fun e => match e with
    | .atSlot slot (.recorded request) => if r.destinationOf slot = d then some request else none
    | _ => none

/-- The batches accepted for a destination. -/
def acceptedFor (r : Registry) (d : String) (events : List Event) : List Wire.Batch :=
  events.filterMap fun e => match e with
    | .atSlot slot (.accepted batch) => if r.destinationOf slot = d then some batch else none
    | _ => none

theorem destinationOf_of_slot {slot : Nat} {s : Slot} (h : r.slots[slot]? = some s) :
    r.destinationOf slot = s.backend.destination := by
  unfold destinationOf
  rw [h]

theorem recordedFor_map {slot : Nat} {s : Slot} (h : r.slots[slot]? = some s) (d : String)
    (events : List BufferedBackend.Event) :
    r.recordedFor d (events.map (.atSlot slot)) =
      if s.backend.destination = d then BufferedBackend.recordedOf events else [] := by
  unfold recordedFor BufferedBackend.recordedOf
  rw [List.filterMap_map]
  by_cases hd : s.backend.destination = d
  · rw [if_pos hd]
    congr 1
    funext e
    cases e <;> simp [destinationOf_of_slot h, hd]
  · rw [if_neg hd, List.filterMap_eq_nil_iff]
    intro e he
    cases e <;> simp [destinationOf_of_slot h, hd]

theorem acceptedFor_map {slot : Nat} {s : Slot} (h : r.slots[slot]? = some s) (d : String)
    (events : List BufferedBackend.Event) :
    r.acceptedFor d (events.map (.atSlot slot)) =
      if s.backend.destination = d then BufferedBackend.acceptedOf events else [] := by
  unfold acceptedFor BufferedBackend.acceptedOf
  rw [List.filterMap_map]
  by_cases hd : s.backend.destination = d
  · rw [if_pos hd]
    congr 1
    funext e
    cases e <;> simp [destinationOf_of_slot h, hd]
  · rw [if_neg hd, List.filterMap_eq_nil_iff]
    intro e he
    cases e <;> simp [destinationOf_of_slot h, hd]

/-- The start of a task of a call changes nothing of what is held. -/
theorem Began.heldFor_eq {r' : Registry} {task : Task} (h : Began r actor task r') (d : String)
    (a : Account) : heldFor r'.slots d a = heldFor r.slots d a := by
  cases h with
  | acquire d => rfl
  | shutdown => rfl
  | @use slot s work hslot free =>
      have hset := sum_map_set (fun s => if s.backend.destination = d then s.backend.heldAt a else 0)
        (b := { s with backend := s.backend.resume actor work.job }) hslot
      have hheld : (s.backend.resume actor work.job).heldAt a = s.backend.heldAt a :=
        BufferedBackend.heldAt_resume_job free a
      have hdest : (s.backend.resume actor work.job).destination = s.backend.destination := rfl
      simp only [hheld, hdest] at hset
      unfold heldFor
      show ((r.slots.set slot _).map _).sum = _
      omega

/-- **The balance of a destination.** What its backends held before a step, and what the step records, they hold
after it, or it has been accepted. -/
theorem SlotsMoved.balance_for (h : SlotsMoved r actor input slots events) {d : String}
    {a : Account} (fits : ∀ n ∈ r.formedFor actor d a, InRange n) :
    heldFor slots d a + batchesAt (r.acceptedFor d events) a =
      heldFor r.slots d a + requestsAt (r.recordedFor d events) a := by
  cases h with
  | kept => rfl
  | opened d' due hhandles =>
      have hempty : (BufferedBackend.new d' r.policy).heldAt a = 0 := rfl
      unfold heldFor
      rw [List.map_append, List.sum_append]
      simp [acceptedFor, recordedFor, hempty]
  | @moved slot s s' events hslot move =>
      have hset := sum_map_set (fun s => if s.backend.destination = d then s.backend.heldAt a else 0)
        (b := s') hslot
      rw [acceptedFor_map hslot, recordedFor_map hslot]
      unfold heldFor
      -- a backend for another destination counts for nothing, before and after
      by_cases hd : s.backend.destination = d
      · have hfits : ∀ n ∈ s.backend.formed actor a, InRange n := by
          intro n hn
          apply fits
          refine List.mem_flatMap.2 ⟨s, List.mem_of_getElem? hslot, ?_⟩
          rw [if_pos hd]
          exact hn
        have hbalance := move.balance hfits
        simp only [move.destination, if_pos hd] at hset ⊢
        omega
      · simp only [move.destination, if_neg hd, batchesAt_nil, requestsAt_nil] at hset ⊢
        omega

/-! ## Acceptance, seen from outside -/

theorem acceptedFor_worked {slot : Nat} {s : Slot}
    {q : Progress BufferedBackend BufferedBackend.Result BufferedBackend.Event}
    (hslot : r.slots[slot]? = some s) (work : BufferedBackend.Stepped s.backend actor input q)
    (d : String) :
    r.acceptedFor d (q.events.map (.atSlot slot)) =
      (System.acceptedNow d (s.backend.want actor) input).toList := by
  rw [acceptedFor_map hslot, work.acceptedOf_events]
  by_cases hd : s.backend.destination = d
  · rw [if_pos hd, hd]
  · rw [if_neg hd, BufferedBackend.acceptedNow_want_of_ne hd]
    rfl

/-- At a step of a call, the batches that backends accept are those that the outside accepts. -/
theorem Called.acceptedFor_eq {id : Nat} (h : Called r now (.call id) input p) (d : String) :
    r.acceptedFor d p.events = (System.acceptedNow d (r.want (.call id)) input).toList := by
  cases h with
  | worked job hslot work more =>
      rw [acceptedFor_worked hslot work]
      simp only [want, job, hslot]
  | used job hslot work last =>
      rw [acceptedFor_worked hslot work]
      simp only [want, job, hslot]
  | _ => rfl

/-- At a step of a flush loop, the batches that backends accept are those that the outside accepts. -/
theorem Looped.acceptedFor_eq {slot : Nat} (h : Looped r now slot input p) (d : String) :
    r.acceptedFor d p.events = (System.acceptedNow d (r.want (.flushLoop slot)) input).toList := by
  have hwant : ∀ {s : Slot}, r.slots[slot]? = some s → s.loop.isBusy = true →
      r.want (.flushLoop slot) = s.backend.want (.flushLoop slot) := by
    intro s hslot busy
    cases hloop : s.loop with
    | idle due => rw [hloop] at busy; cases busy
    | flushing due => simp only [want, hslot, hloop]
    | draining => simp only [want, hslot, hloop]
    | exited => rw [hloop] at busy; cases busy
  cases h with
  | ticked hslot idle hdue free => rfl
  | told hslot idle stop free => rfl
  | worked hslot busy work more => rw [acceptedFor_worked hslot work, hwant hslot busy]
  | flushed hslot busy work last => rw [acceptedFor_worked hslot work, hwant hslot busy]

end Registry

end GatewayAuth
