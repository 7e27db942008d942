import GatewayAuth.Proofs.Registry.Cells

/-!
# `GatewayAuth.Proofs.Registry.Ending` — a flush loop comes to its end

A loop that has been told to stop can come to its end by steps of its own: it ends the flush it is in, makes its final
flush and exits. What it waits for is its turn, and an answer to each of its reports.

## Contents
- `step_of_busy`: a step of a loop that is in a flush.
- `Comes`: what a loop comes to by steps of its own; `comes_of_flushesOn`, `comes_of_flush`: to the end of a flush.
- `exits_of_stopping`: to its exit.
-/

namespace GatewayAuth

namespace BufferedBackend

variable {b : BufferedBackend} {actor : Actor}

/-- A report that is accepted leads a flush on to the rest of its batches. -/
theorem step_reporting {batch : Wire.Batch} {rest : List Wire.Batch} {summary : FlushSummary}
    (hjob : b.jobs.find? actor = some (.reporting batch rest summary)) :
    ∃ b' summary' events, b.step actor (.reported (.ok ())) =
      some { next b' actor summary' rest with events := events } := by
  unfold step
  rw [hjob]
  exact ⟨_, _, _, rfl⟩

/-- At every phase of a flush there is something that leads it on to the batches that are left. -/
theorem step_of_flush {job : BufferedJob} (hjob : b.jobs.find? actor = some job)
    (hserves : job.Serves .flush) :
    ∃ input b' summary rest events, b.step actor input =
      some { next b' actor summary rest with events := events } := by
  cases job with
  | authorizing request => cases hserves
  | recording request response => cases hserves.1
  | draining =>
      let b' : BufferedBackend := { b with buffer := .empty }
      refine ⟨.turn, b', .zero, b.buffer.batches, (b'.next actor .zero b.buffer.batches).events, ?_⟩
      unfold step
      rw [hjob]
      rfl
  | reporting batch rest summary =>
      obtain ⟨b', summary', events, hstep⟩ := step_reporting hjob
      exact ⟨_, b', summary', rest, events, hstep⟩
  | requeueing batch rest summary =>
      let b' : BufferedBackend := { b with buffer := b.buffer.merge batch }
      let summary' : FlushSummary := { summary with requeued := summary.requeued + 1 }
      refine ⟨.turn, b', summary', rest, (b'.next actor summary' rest).events, ?_⟩
      unfold step
      rw [hjob]

end BufferedBackend

namespace Registry

variable {r r' : Registry} {slot : Nat} {input : Input} {s : Slot}

/-- A loop that is in a flush takes the steps of its backend; the last one leads it out of the flush. -/
theorem step_of_busy (now : Nat) {q : Progress BufferedBackend BufferedBackend.Result BufferedBackend.Event}
    (hs : r.slots[slot]? = some s) (busy : s.loop.isBusy = true)
    (hq : s.backend.step (.flushLoop slot) input = some q) :
    ∃ p, system.step r now (.flushLoop slot) input = some p ∧
      p.state = r.setSlot slot ⟨q.state, if q.result?.isSome then afterFlush s.loop else s.loop⟩ := by
  have hset : ∀ s', (r.setSlot slot s').slots[slot]? = some s' :=
    fun s' => List.getElem?_set_self (List.getElem?_eq_some_iff.1 hs).1
  obtain ⟨state, result?, events⟩ := q
  show ∃ p, r.stepLoop now slot input = some p ∧ _
  unfold stepLoop stepSlot
  cases hloop : s.loop with
  | idle due => rw [hloop] at busy; cases busy
  | exited => rw [hloop] at busy; cases busy
  | flushing due | draining =>
      cases result? with
      | none => simp only [hs, hq, hloop, Option.some.injEq, exists_eq_left']; rfl
      | some result =>
          simp only [hs, hq, hset, hloop, Option.some.injEq, exists_eq_left']
          simp [setSlot]

/-! ## The end of a flush -/

/-- By steps of its own, the loop of a slot comes to where it stands at `loop` and is in no flush. -/
def Comes (r : Registry) (slot : Nat) (loop : FlushLoop) : Prop :=
  ∃ since r' s, Run system r since r' ∧ (∀ moment ∈ since, moment.IsOf (.flushLoop slot)) ∧
    r'.stopping = r.stopping ∧ r'.slots[slot]? = some s ∧ s.loop = loop ∧
    s.backend.jobs.find? (.flushLoop slot) = none

theorem Comes.of_step {now : Nat} {p : Progress Registry Result Event} {loop : FlushLoop}
    (hstep : system.step r now (.flushLoop slot) input = some p)
    (hstopping : p.state.stopping = r.stopping) (h : p.state.Comes slot loop) :
    r.Comes slot loop := by
  obtain ⟨since, r', s, run, hof, hstop, hs, hloop, hjob⟩ := h
  refine ⟨since ++ [.stepped r now (.flushLoop slot) input p], r', s,
    (Run.steps .start hstep).trans run, ?_, hstop.trans hstopping, hs, hloop, hjob⟩
  intro moment hmem
  rcases List.mem_append.1 hmem with hmem | hmem
  · exact hof moment hmem
  · cases List.mem_singleton.1 hmem
    rfl

/-- A flush has dealt with a batch and goes on to the rest; after the last one it is over. -/
def FlushesOn (r : Registry) (slot : Nat) (loop : FlushLoop) (rest : List Wire.Batch) : Prop :=
  ∃ (b : BufferedBackend) (summary : FlushSummary),
    r.slots[slot]? = some ⟨(b.next (.flushLoop slot) summary rest).state,
      if rest.isEmpty then afterFlush loop else loop⟩

theorem isSome_result?_next (b : BufferedBackend) (actor : Actor) (summary : FlushSummary)
    (rest : List Wire.Batch) : (b.next actor summary rest).result?.isSome = rest.isEmpty := by
  cases rest <;> rfl

/-- A step of a flush, after which it goes on. -/
theorem comes_of_busy {b : BufferedBackend} {summary : FlushSummary} {rest : List Wire.Batch}
    {events : List BufferedBackend.Event} (hs : r.slots[slot]? = some s)
    (busy : s.loop.isBusy = true)
    (hstep : s.backend.step (.flushLoop slot) input =
      some { b.next (.flushLoop slot) summary rest with events := events })
    (h : ∀ r', FlushesOn r' slot s.loop rest → r'.Comes slot (afterFlush s.loop)) :
    r.Comes slot (afterFlush s.loop) := by
  obtain ⟨p, hstep, hp⟩ := step_of_busy 0 hs busy hstep
  refine .of_step hstep (by rw [hp]; rfl) (h p.state ⟨b, summary, ?_⟩)
  rw [hp, ← isSome_result?_next b (.flushLoop slot) summary]
  exact List.getElem?_set_self (List.getElem?_eq_some_iff.1 hs).1

/-- **A flush comes to its end where every report is accepted.** -/
theorem comes_of_flushesOn {loop : FlushLoop} (busy : loop.isBusy = true)
    (rest : List Wire.Batch) :
    ∀ r, FlushesOn r slot loop rest → r.Comes slot (afterFlush loop) := by
  induction rest with
  | nil =>
      rintro r ⟨b, summary, hs⟩
      refine ⟨[], r, ⟨b.release (.flushLoop slot), afterFlush loop⟩, .start, ?_, rfl, hs, rfl, ?_⟩
      · intro moment hmem
        cases hmem
      · exact Table.find?_erase_self _ _
  | cons batch rest ih =>
      rintro r ⟨b, summary, hs⟩
      have hjob : (b.next (.flushLoop slot) summary (batch :: rest)).state.jobs.find?
          (.flushLoop slot) = some (.reporting batch rest summary) :=
        Table.find?_insert_self _ _ _
      obtain ⟨b', summary', events, hstep⟩ := BufferedBackend.step_reporting hjob
      exact comes_of_busy hs busy hstep ih

/-- So does a flush at any phase of it. -/
theorem comes_of_flush (hs : r.slots[slot]? = some s) (busy : s.loop.isBusy = true)
    {job : BufferedJob} (hjob : s.backend.jobs.find? (.flushLoop slot) = some job)
    (hserves : job.Serves .flush) : r.Comes slot (afterFlush s.loop) := by
  obtain ⟨input, b, summary, rest, events, hstep⟩ := BufferedBackend.step_of_flush hjob hserves
  exact comes_of_busy hs busy hstep (comes_of_flushesOn busy rest)

/-! ## The end of a loop -/

/-- A loop that waits is told to stop, and makes its final flush. -/
theorem exits_of_idle {due : Nat} (hs : r.slots[slot]? = some s) (idle : s.loop = .idle due)
    (free : s.backend.jobs.find? (.flushLoop slot) = none) (stop : r.stopping = true) :
    r.Comes slot .exited := by
  have hbegin : s.backend.begin? (.flushLoop slot) .flush =
      some (s.backend.resume (.flushLoop slot) .draining) := by
    simp only [BufferedBackend.begin?, Table.contains, free, Option.isSome_none,
      Bool.false_eq_true, if_false]
    rfl
  have hstep : system.step r 0 (.flushLoop slot) .turn = some (.quiet
      (r.setSlot slot ⟨s.backend.resume (.flushLoop slot) .draining, .draining⟩)) := by
    simp only [system, step, stepLoop, hs, idle, stop, if_true, startFlush, hbegin, Option.map_some]
  refine .of_step hstep rfl ?_
  have hs' : (r.setSlot slot ⟨s.backend.resume (.flushLoop slot) .draining, .draining⟩).slots[slot]? =
      some ⟨s.backend.resume (.flushLoop slot) .draining, .draining⟩ :=
    List.getElem?_set_self (List.getElem?_eq_some_iff.1 hs).1
  exact comes_of_flush hs' rfl (Table.find?_insert_self _ _ _) rfl

theorem Comes.trans {loop : FlushLoop} (h : r.Comes slot loop)
    (h' : ∀ (r' : Registry) (s : Slot), r'.slots[slot]? = some s → s.loop = loop →
      s.backend.jobs.find? (.flushLoop slot) = none → r'.stopping = r.stopping →
      r'.Comes slot .exited) : r.Comes slot .exited := by
  obtain ⟨since, r₁, s₁, run, hof, hstop, hs, hloop, hjob⟩ := h
  obtain ⟨since', r₂, s₂, run', hof', hstop', hend⟩ := h' r₁ s₁ hs hloop hjob hstop
  refine ⟨since' ++ since, r₂, s₂, run.trans run', ?_, hstop'.trans hstop, hend⟩
  intro moment hmem
  rcases List.mem_append.1 hmem with hmem | hmem
  · exact hof' moment hmem
  · exact hof moment hmem

/-- **A loop that has been told to stop can come to its end**, by steps of its own. -/
theorem exits_of_stopping (hr : r.Sound) (stop : r.stopping = true)
    (hs : r.slots[slot]? = some s) : r.Comes slot .exited := by
  have hslot := hr.slots slot s hs
  cases hloop : s.loop with
  | idle due => exact exits_of_idle hs hloop (hslot.idle (by rw [hloop]; rfl)) stop
  | flushing due =>
      have busy : s.loop.isBusy = true := by rw [hloop]; rfl
      obtain ⟨job, hjob, hserves⟩ := hslot.busy busy
      have hcomes := comes_of_flush hs busy hjob hserves
      rw [hloop] at hcomes
      -- after the periodic flush it is told
      refine hcomes.trans fun r' s' hs' hidle free hstop => ?_
      exact exits_of_idle hs' hidle free (hstop.trans stop)
  | draining =>
      have busy : s.loop.isBusy = true := by rw [hloop]; rfl
      obtain ⟨job, hjob, hserves⟩ := hslot.busy busy
      have hcomes := comes_of_flush hs busy hjob hserves
      rw [hloop] at hcomes
      exact hcomes
  | exited =>
      refine ⟨[], r, s, .start, ?_, rfl, hs, hloop, hslot.idle (by rw [hloop]; rfl)⟩
      intro moment hmem
      cases hmem

end Registry

end GatewayAuth
