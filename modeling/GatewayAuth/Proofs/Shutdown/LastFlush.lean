import GatewayAuth.Proofs.Manager.Slots

/-!
# `GatewayAuth.Proofs.Shutdown.LastFlush` — who empties a buffer for the last time

Usage can come into a buffer after the final flush of its loop, from a call that acquired the backend before the
shutdown. Whoever records usage is bound to look whether the registry has been shut down meanwhile, and flushes the
buffer itself if so. So in every reachable state a buffer that is not empty has its last flush before it: the loop's
(`Slot.WillDrain`) or a call's own (`Owes`).

## Contents
- `Slot.WillDrain`, `Owes`: the two flushes that may be the last.
- `Slot.Moved.willDrain`, `Stepped.owes`: each of them stays before a slot until somebody drains it.
- `Calm`: nothing is being put back, as long as reports succeed.
- `buffer_empty_or_last`: the invariant.
-/

namespace GatewayAuth

/-- The loop of a slot has a drain before it that it takes however the run goes on: that of its final flush. -/
def Slot.WillDrain (slot : Nat) (s : Slot) : Prop :=
  s.loop ≠ .exited ∧
    (s.loop = .draining → s.backend.jobs.find? (.flushLoop slot) = some .draining)

namespace Slot.Moved

variable {stopping : Bool} {slot : Nat} {actor : Actor} {input : Input} {s s' : Slot}
  {events : List BufferedBackend.Event}

/-- A drain that the loop has before it stays there until somebody drains. -/
theorem willDrain (h : s.Moved stopping slot actor input s' events)
    (hwill : s.WillDrain slot) (hnot : s.backend.jobs.find? actor ≠ some .draining) :
    s'.WillDrain slot := by
  have hothers : Actor.flushLoop slot ≠ actor → s'.backend.jobs.find? (.flushLoop slot) =
      s.backend.jobs.find? (.flushLoop slot) := h.others
  cases h with
  | begun hcall work free =>
      subst hcall
      refine ⟨hwill.1, fun hdraining => ?_⟩
      rw [hothers nofun]
      exact hwill.2 hdraining
  | woken hloop idle free hwoken =>
      subst hloop
      rcases hwoken with ⟨due, rfl⟩ | ⟨rfl, -⟩
      · exact ⟨nofun, nofun⟩
      · exact ⟨nofun, fun _ => Table.find?_insert_self _ _ _⟩
  | worked who work =>
      refine ⟨hwill.1, fun hdraining => ?_⟩
      have hjob := hwill.2 hdraining
      rcases who with ⟨id, rfl⟩ | ⟨rfl, -, -⟩
      · rw [hothers nofun]
        exact hjob
      · exact absurd hjob hnot
  | flushed hloop busy work last =>
      subst hloop
      cases hloop : s.loop with
      | idle due => rw [hloop] at busy; cases busy
      | flushing due => exact ⟨nofun, nofun⟩
      | draining => exact absurd (hwill.2 hloop) hnot
      | exited => rw [hloop] at busy; cases busy

/-- A buffer changes by a drain, by a call that records and by a batch that is put back. -/
theorem buffer_of_not_draining (h : s.Moved stopping slot actor input s' events)
    (hnot : s.backend.jobs.find? actor ≠ some .draining) :
    s'.backend.buffer = s.backend.buffer ∨
      (∃ request response, s.backend.jobs.find? actor = some (.recording request response) ∧
        s'.backend.buffer = s.backend.buffer.record request) ∨
      ∃ batch rest summary, s.backend.jobs.find? actor = some (.requeueing batch rest summary) ∧
        s'.backend.buffer = s.backend.buffer.merge batch := by
  rcases h.started_or_stepped with ⟨-, task, hs'⟩ | ⟨q, work, hs'⟩
  · rw [hs']
    exact .inl rfl
  · rw [hs']
    cases work with
    | denied | granted | failed | overridden | refused => exact .inl rfl
    | recorded job => exact .inr (.inl ⟨_, _, job, rfl⟩)
    | drained job => exact absurd job hnot
    | accepted => exact .inl (BufferedBackend.buffer_next _ _ _ _)
    | requeued job => exact .inr (.inr ⟨_, _, _, job, BufferedBackend.buffer_next _ _ _ _⟩)

end Slot.Moved

namespace Manager

/-- A call has a drain of a slot before it, unless it finds the registry running: it is about to look, or its own
flush is about to drain. -/
def Owes (m : Manager) (slot id : Nat) : Prop :=
  ∃ answer, m.jobs.find? id = some (.rechecking slot answer) ∨
    m.jobs.find? id = some (.flushing slot answer) ∧
      ∃ s, m.backends.slots[slot]? = some s ∧ s.backend.jobs.find? (.call id) = some .draining

variable {m : Manager} {h : Past} {now id : Nat} {actor : Actor} {input : Input}
  {p : Progress Manager Result Event} {slot : Nat} {s s' : Slot}

/-- Who owes a drain owes it whatever other calls start. -/
theorem Owes.resume {other : Nat} (howes : Owes m slot id) (hfree : m.jobs.find? other = none)
    (job : ManagerJob) : Owes (m.resume other job) slot id := by
  have hkeep : ∀ {mine}, m.jobs.find? id = some mine →
      (m.resume other job).jobs.find? id = some mine := by
    intro mine hmine
    have hne : other ≠ id := by
      rintro rfl
      rw [hfree] at hmine
      cases hmine
    rw [jobs_resume, Table.find?_insert, if_neg hne]
    exact hmine
  obtain ⟨answer, hmine | ⟨hmine, hdraining⟩⟩ := howes
  · exact ⟨answer, .inl (hkeep hmine)⟩
  · exact ⟨answer, .inr ⟨hkeep hmine, hdraining⟩⟩

/-- **A call that owes a drain keeps owing it**, until it drains, or it finds the registry running and comes back
without. -/
theorem Stepped.owes (step : Stepped m now actor input p) (hs : m.backends.slots[slot]? = some s)
    (howes : Owes m slot id) (hnot : s.backend.jobs.find? actor ≠ some .draining) :
    Owes p.state slot id ∨ m.backends.handles ≠ none := by
  obtain ⟨s', hs', hseen⟩ := step.slot hs
  obtain ⟨answer, hrechecking | ⟨hflushing, s₀, hs₀, hdraining⟩⟩ := howes
  · by_cases hactor : actor = .call id
    · subst hactor
      cases step with
      | called step =>
          cases step with
          | @overtaken slot' answer' r r' hjob hr closed free began =>
              -- the call starts its own flush, which drains first of all
              rw [hrechecking] at hjob
              cases hjob
              refine .inl ⟨answer, .inr ⟨Table.find?_insert_self _ _ _, ?_⟩⟩
              cases began with
              | use work hslot hfree =>
                  exact ⟨_, List.getElem?_set_self (List.getElem?_eq_some_iff.1 hslot).1,
                    Table.find?_insert_self _ _ _⟩
          | returned hjob hr opened =>
              -- it finds the registry running, so that the final flush of the loop is still to come
              rw [backends_of_registry hr, opened]
              exact .inr nofun
          | fetched hjob step =>
              rw [hrechecking] at hjob
              cases hjob
              cases step
          | waited hjob hat hr work more =>
              rw [hrechecking] at hjob
              cases hjob
              cases hat
          | _ => simp_all only [Option.some.injEq, reduceCtorEq]
    · exact .inl ⟨answer, .inl ((step.others hactor).trans hrechecking)⟩
  · rw [hs] at hs₀
    cases hs₀
    have hactor : actor ≠ .call id := fun e => hnot (e ▸ hdraining)
    refine .inl ⟨answer, .inr ⟨(step.others hactor).trans hflushing, s', hs', ?_⟩⟩
    rcases hseen with ⟨rfl, -⟩ | move
    · exact hdraining
    · rw [move.others fun e => hactor e.symm]
      exact hdraining

/-- As long as the handles have not been taken, the final flush is still to come. -/
theorem Coherent.willDrain_of_handles (hc : Coherent h m) (hs : m.backends.slots[slot]? = some s)
    (hsome : m.backends.handles ≠ none) : s.WillDrain slot := by
  have hslot := hc.sound.slots slot s hs
  have hnot : ¬ (s.loop = .draining ∨ s.loop = .exited) :=
    fun htold => hsome (hc.sound.taken (hslot.told htold))
  exact ⟨fun hexited => hnot (.inr hexited), fun hdraining => absurd (.inl hdraining) hnot⟩

/-- The drain of a loop stays before a slot until somebody drains it. -/
theorem Stepped.willDrain (step : Stepped m now actor input p)
    (hs : m.backends.slots[slot]? = some s) (hs' : p.state.backends.slots[slot]? = some s')
    (hwill : s.WillDrain slot) (hnot : s.backend.jobs.find? actor ≠ some .draining) :
    s'.WillDrain slot := by
  obtain ⟨s₁, hs₁, ⟨rfl, -⟩ | move⟩ := step.slot hs
  · rw [hs₁] at hs'
    cases hs'
    exact hwill
  · rw [hs₁] at hs'
    cases hs'
    exact move.willDrain hwill hnot

/-- **A last flush stays before a slot until somebody drains it.** -/
theorem Stepped.keeps_last (step : Stepped m now actor input p) (hc : Coherent h m)
    (hs : m.backends.slots[slot]? = some s) (hs' : p.state.backends.slots[slot]? = some s')
    (hlast : s.WillDrain slot ∨ Owes m slot id)
    (hnot : s.backend.jobs.find? actor ≠ some .draining) :
    s'.WillDrain slot ∨ Owes p.state slot id := by
  rcases hlast with hfinal | howes
  · exact .inl (step.willDrain hs hs' hfinal hnot)
  · rcases step.owes hs howes hnot with howes' | hsome
    · exact .inr howes'
    · exact .inl (step.willDrain hs hs' (hc.willDrain_of_handles hs hsome) hnot)

/-- A call whose usage goes into a buffer owes the buffer a drain. -/
theorem Stepped.owes_of_recording (step : Stepped m now actor input p) (hc : Coherent h m)
    {request : Wire.Request} {response : Wire.Response}
    (hs : m.backends.slots[slot]? = some s)
    (hjob : s.backend.jobs.find? actor = some (.recording request response)) :
    ∃ id, actor = .call id ∧ Owes p.state slot id := by
  have hslot := hc.sound.slots slot s hs
  rcases hslot.actors actor _ hjob with ⟨id, rfl⟩ | rfl
  · refine ⟨id, rfl, ?_⟩
    rcases hc.mine_of_job hs hjob with ⟨hmine, -⟩ | ⟨-, hserves⟩
    · obtain ⟨task, -, d, wire, -, hwork⟩ := hc.fits id _ hmine
      cases step with
      | called step =>
          cases step with
          | waited hjob' hat hr work more =>
              rw [backends_of_registry hr] at hwork hs
              obtain ⟨q, stepped, -, hresult, -⟩ := work.works hwork.uses hs
              rw [more, stepped.result?_of_recording hjob] at hresult
              cases hresult
          | answered hjob' hr work last =>
              rw [hmine] at hjob'
              cases hjob'
              exact ⟨_, .inl (Table.find?_insert_self _ _ _)⟩
          | fetched hjob' step =>
              rw [hmine] at hjob'
              cases hjob'
              cases step
          | _ => simp_all only [Option.some.injEq, reduceCtorEq]
    · cases hserves.1
  · -- a flush loop records nothing
    cases hbusy : s.loop.isBusy with
    | false =>
        rw [hslot.idle hbusy] at hjob
        cases hjob
    | true =>
        obtain ⟨job', hjob', hserves⟩ := hslot.busy hbusy
        rw [hjob] at hjob'
        cases hjob'
        cases hserves.1

/-! ## Reports that succeed -/

/-- No batch is being put back. -/
def Calm (m : Manager) : Prop :=
  ∀ (i : Nat) (s : Slot) actor batch rest summary, m.backends.slots[i]? = some s →
    s.backend.jobs.find? actor ≠ some (.requeueing batch rest summary)

/-- **As long as reports succeed, nothing is put back.** -/
theorem calm_of_run {limits : Option CacheLimits} {settings : DispatchSettings}
    (run : Run system (.new now limits settings) h m) (reports : system.ReportsSucceed h) :
    Calm m := by
  induction run with
  | start =>
      intro i s actor batch rest summary hs
      unfold new backends at hs
      dsimp only at hs
      split at hs <;> cases hs
  | @begins h m m' actor task run hbegin ih =>
      cases actor with
      | call id =>
          obtain ⟨-, rfl⟩ := eq_resume_of_begin? hbegin
          exact ih reports
      | flushLoop slot => cases hbegin
      | refreshLoop => cases hbegin
  | @steps h m now actor input p run hstep ih =>
      have hc := coherent_of_run run
      have hcalm := ih reports.2
      have step := stepped_of_step hstep
      intro i s' other batch rest summary hs' hjob'
      cases hs : m.backends.slots[i]? with
      | none =>
          obtain ⟨task, htask⟩ := (step.slot_of_new hs' hs).jobs other _ hjob'
          cases task <;> cases htask
      | some s =>
          obtain ⟨s₁, hs₁, hseen⟩ := step.slot hs
          rw [hs₁] at hs'
          cases hs'
          rcases hseen with ⟨hsame, -⟩ | move
          · rw [hsame] at hjob'
            exact hcalm i s other batch rest summary hs hjob'
          · by_cases hother : other = actor
            · -- only the end of a report that fails leads to putting back
              subst hother
              rcases move.started_or_stepped with ⟨-, task, hstart⟩ | ⟨q, work, hq⟩
              · rw [hstart, BufferedBackend.jobs_resume, Table.find?_insert_self] at hjob'
                cases task <;> cases hjob'
              · rw [hq] at hjob'
                obtain ⟨job, hjob⟩ := work.has_job
                have hrefused := work.refusedNow_of_requeueing hjob'
                rw [← hc.want_of_job hs hjob] at hrefused
                have haccepted := reports.1
                rw [show system.want m other = m.want other from rfl, hrefused] at haccepted
                cases haccepted
            · rw [move.others hother] at hjob'
              exact hcalm i s other batch rest summary hs hjob'

/-! ## The invariant -/

/-- **A buffer that is not empty has its last flush before it**: that of its loop, or one of a call. -/
theorem buffer_empty_or_last {limits : Option CacheLimits} {settings : DispatchSettings}
    (run : Run system (.new now limits settings) h m) (reports : system.ReportsSucceed h)
    (hs : m.backends.slots[slot]? = some s) :
    s.backend.buffer = .empty ∨ ∃ id, s.WillDrain slot ∨ Owes m slot id := by
  induction run generalizing s with
  | start =>
      unfold new backends at hs
      dsimp only at hs
      split at hs <;> cases hs
  | @begins h m m' actor task run hbegin ih =>
      cases actor with
      | call id =>
          obtain ⟨hfree, rfl⟩ := eq_resume_of_begin? hbegin
          exact (ih reports hs).imp_right fun ⟨other, hlast⟩ =>
            ⟨other, hlast.imp_right (·.resume hfree task.job)⟩
      | flushLoop slot => cases hbegin
      | refreshLoop => cases hbegin
  | @steps h m now actor input p run hstep ih =>
      have hc := coherent_of_run run
      have hcalm := calm_of_run run reports.2
      have step := stepped_of_step hstep
      cases hold : m.backends.slots[slot]? with
      | none => exact .inl (step.slot_of_new hs hold).buffer
      | some s₀ =>
          obtain ⟨s₁, hs₁, hseen⟩ := step.slot hold
          rw [hs₁] at hs
          cases hs
          by_cases hdraining : s₀.backend.jobs.find? actor = some .draining
          · -- whoever drains leaves an empty buffer
            obtain ⟨s₂, q, hs₂, hq, work, -⟩ := step.works hc hold hdraining
            rw [hs₁] at hs₂
            cases hs₂
            rw [hq]
            exact .inl (work.buffer_of_draining hdraining)
          · -- nobody drains: what was to come is still to come, and who records owes a drain
            have hkeeps : ∀ {id : Nat}, s₀.WillDrain slot ∨ Owes m slot id →
                s.WillDrain slot ∨ Owes p.state slot id :=
              fun hlast => step.keeps_last hc hold hs₁ hlast hdraining
            have hsame : s.backend.buffer = s₀.backend.buffer → s.backend.buffer = .empty ∨
                ∃ id, s.WillDrain slot ∨ Owes p.state slot id := by
              intro hbuffer
              rw [hbuffer]
              exact (ih reports.2 hold).imp_right fun ⟨id, hlast⟩ => ⟨id, hkeeps hlast⟩
            rcases hseen with ⟨rfl, -⟩ | move
            · exact hsame rfl
            · rcases move.buffer_of_not_draining hdraining with
                hbuffer | ⟨request, response, hjob, -⟩ | ⟨batch, rest, summary, hjob, -⟩
              · exact hsame hbuffer
              · obtain ⟨id, -, howes⟩ := step.owes_of_recording hc hold hjob
                exact .inr ⟨id, .inr howes⟩
              · exact absurd hjob (hcalm slot s₀ actor batch rest summary hold)

end Manager

end GatewayAuth
