import GatewayAuth.Proofs.Dispatch.Accounted
import GatewayAuth.Proofs.Registry.Acquisition

/-!
# `GatewayAuth.Proofs.Dispatch.Returns` — an authorization that has its answer comes back with it

An authorization that has its answer from a buffered backend may have to record its usage and, if it has been
overtaken by a shutdown, to flush the buffer before it comes back. None of this depends on other calls, and whatever
becomes of its reports, each of them is dealt with once: so by steps of its own it comes back, and with that answer.

## Contents
- `BufferedBackend.exists_step_of_allows`: who is told what it waits for takes a step.
- `BufferedJob.flushSteps`: the steps that a flush has before it.
- `Returns`, `ReturnsWith`: a call that comes back by steps of its own, whatever it is told.
- `returns_of_flushing`, `returns_of_rechecking`, `returns_of_answer`: a call with an answer is such.
-/

namespace GatewayAuth

/-- The steps that a flush has before it: each batch is reported, and may have to be put back. -/
def BufferedJob.flushSteps (b : BufferedBackend) : BufferedJob → Nat
  | .draining => 2 * b.buffer.batches.length + 1
  | .reporting _ rest _ => 2 * rest.length + 2
  | .requeueing _ rest _ => 2 * rest.length + 1
  | _ => 0

namespace BufferedBackend

variable {b : BufferedBackend} {actor : Actor} {input : Input}
  {p : Progress BufferedBackend Result Event} {job : BufferedJob}

/-- Who is told what it waits for takes a step. -/
theorem exists_step_of_allows (hallows : (b.want actor).Allows input) :
    ∃ q, b.step actor input = some q := by
  unfold want at hallows
  unfold step
  cases hjob : b.jobs.find? actor with
  | none =>
      rw [hjob] at hallows
      cases hallows
  | some job =>
      rw [hjob] at hallows
      cases job with
      | authorizing request =>
          cases input with
          | answered told =>
              cases told with
              | ok response => dsimp only; split <;> exact ⟨_, rfl⟩
              | error e => dsimp only; split <;> exact ⟨_, rfl⟩
          | _ => cases hallows
      | reporting batch rest summary =>
          cases input with
          | reported told => cases told <;> exact ⟨_, rfl⟩
          | _ => cases hallows
      | _ =>
          cases input with
          | turn => exact ⟨_, rfl⟩
          | _ => cases hallows

theorem want_ne_nothing (hjob : b.jobs.find? actor = some job) : b.want actor ≠ .nothing := by
  unfold want
  rw [hjob]
  cases job <;> nofun

/-- Recording usage comes to the response that it is recorded for. -/
theorem Stepped.result_of_recording (h : Stepped b actor input p) {request : Wire.Request}
    {response : Wire.Response} (hjob : b.jobs.find? actor = some (.recording request response)) :
    p.result? = some (.response (.ok response)) := by
  cases h with
  | recorded job =>
      rw [job] at hjob
      cases hjob
      rfl
  | denied job | granted job | failed job | overridden job | drained job | accepted job
  | refused job | requeued job =>
      rw [job] at hjob
      cases hjob

/-- A flush comes to its summary. -/
theorem Stepped.flushed_of_result (h : Stepped b actor input p)
    (hjob : b.jobs.find? actor = some job) (hserves : job.Serves .flush) {result : Result}
    (hresult : p.result? = some result) : ∃ summary, result = .flushed summary := by
  cases h with
  | denied job | failed job =>
      rw [job] at hjob
      cases hjob
      cases hserves
  | recorded job =>
      rw [job] at hjob
      cases hjob
      cases hserves.1
  | granted | overridden | refused => cases hresult
  | drained job =>
      cases hbatches : b.buffer.batches with
      | nil => rw [hbatches] at hresult; cases hresult; exact ⟨_, rfl⟩
      | cons batch rest => rw [hbatches] at hresult; cases hresult
  | @accepted batch rest summary job | @requeued batch rest summary job =>
      cases rest with
      | nil => cases hresult; exact ⟨_, rfl⟩
      | cons batch rest => cases hresult

/-- Every step of a flush that goes on leaves it with fewer steps before it. -/
theorem Stepped.flushSteps_lt (h : Stepped b actor input p) (hjob : b.jobs.find? actor = some job)
    (hserves : job.Serves .flush) (more : p.result? = none) :
    ∃ job', p.state.jobs.find? actor = some job' ∧ job'.Serves .flush ∧
      job'.flushSteps p.state < job.flushSteps b := by
  cases h with
  | denied | failed | recorded => cases more
  | granted job | overridden job =>
      rw [job] at hjob
      cases hjob
      cases hserves
  | drained job =>
      rw [job] at hjob
      cases hjob
      rw [find?_next]
      cases hbatches : b.buffer.batches with
      | nil => rw [hbatches] at more; cases more
      | cons batch rest =>
          refine ⟨_, rfl, rfl, ?_⟩
          simp only [BufferedJob.flushSteps, hbatches, List.length_cons]
          omega
  | @accepted batch rest summary job | @requeued batch rest summary job =>
      rw [job] at hjob
      cases hjob
      rw [find?_next]
      cases rest with
      | nil => cases more
      | cons batch rest =>
          refine ⟨_, rfl, rfl, ?_⟩
          simp only [BufferedJob.flushSteps, List.length_cons]
          omega
  | refused job =>
      rw [job] at hjob
      cases hjob
      refine ⟨_, Table.find?_insert_self _ _ _, rfl, ?_⟩
      simp only [BufferedJob.flushSteps]
      omega

end BufferedBackend

/-- A call that uses a backend takes the steps that it has there. -/
theorem Registry.exists_step_of_using {r : Registry} {id slot : Nat} {s : Slot} {input : Input}
    (now : Nat) (husing : r.jobs.find? (.call id) = some (.using slot)) (hs : r.slots[slot]? = some s)
    (hallows : (s.backend.want (.call id)).Allows input) :
    ∃ q, r.step now (.call id) input = some q := by
  obtain ⟨⟨state, result?, events⟩, hq⟩ := BufferedBackend.exists_step_of_allows hallows
  show ∃ q, r.stepCall now (.call id) input = some q
  unfold stepCall stepSlot
  cases result? <;> simp only [husing, hs, hq] <;> exact ⟨_, rfl⟩

namespace Manager

variable {m : Manager} {h : Past} {now id slot : Nat} {input : Input}
  {p : Progress Manager Result Event} {answer : Except BackendError Wire.Response}

/-- A call comes back by steps of its own, whatever it is told where it waits, and what it comes back with is as `ok`
says. -/
inductive Returns (id : Nat) (ok : Result → Prop) : Manager → Prop where
  | step {m : Manager} (waits : m.want (.call id) ≠ .nothing)
      (takes : ∀ now input, (m.want (.call id)).Allows input →
        ∃ p, m.step now (.call id) input = some p)
      (ends : ∀ now input p result, m.step now (.call id) input = some p →
        p.result? = some result → ok result)
      (goesOn : ∀ now input p, m.step now (.call id) input = some p → p.result? = none →
        Returns id ok p.state) : Returns id ok m

/-- A call comes back with `result`. -/
abbrev ReturnsWith (id : Nat) (result : Result) (m : Manager) : Prop := Returns id (· = result) m

theorem Returns.imp {ok ok' : Result → Prop} (h : m.Returns id ok)
    (himp : ∀ result, ok result → ok' result) : m.Returns id ok' := by
  induction h with
  | step waits takes ends goesOn ih =>
      exact .step waits takes (fun now input p result hstep hresult =>
        himp result (ends now input p result hstep hresult)) ih

/-- A call comes back if each of its steps brings it back or leads to where it comes back from. -/
theorem Returns.of_called {ok : Result → Prop} (waits : m.want (.call id) ≠ .nothing)
    (takes : ∀ now input, (m.want (.call id)).Allows input → ∃ p, m.step now (.call id) input = some p)
    (leads : ∀ {now : Nat} {input : Input} {p : Progress Manager Result Event},
      Called m now id input p → (∃ result, p.result? = some result ∧ ok result) ∨
        p.result? = none ∧ p.state.Returns id ok) : m.Returns id ok := by
  have hleads : ∀ now input p, m.step now (.call id) input = some p →
      (∃ result, p.result? = some result ∧ ok result) ∨
        p.result? = none ∧ p.state.Returns id ok := by
    intro now input p hstep
    cases stepped_of_step hstep with
    | called step => exact leads step
  refine .step waits takes ?ends ?goesOn
  case ends =>
    intro now input p result hstep hresult
    rcases hleads now input p hstep with ⟨result', hlast, hok⟩ | ⟨more, -⟩
    · rw [hresult] at hlast
      cases hlast
      exact hok
    · rw [hresult] at more
      cases more
  case goesOn =>
    intro now input p hstep hresult
    rcases hleads now input p hstep with ⟨result', hlast, -⟩ | ⟨-, hreturns⟩
    · rw [hresult] at hlast
      cases hlast
    · exact hreturns

/-! ## The steps of a call that has its answer -/

/-- A step of a call that is at its buffered backend. -/
theorem Called.of_authorizing (step : Called m now id input p)
    (hjob : m.jobs.find? id = some (.authorizing slot)) :
    ∃ r q, m.registry = some r ∧ Registry.Called r now (.call id) input q ∧
      (q.result? = none ∧
          p = ⟨{ m with registry := some q.state }, none, q.events.map ofRegistry⟩ ∨
        ∃ answer, q.result? = some (.used (.response answer)) ∧ p.result? = none ∧
          p.state.jobs.find? id = some (.rechecking slot answer)) := by
  cases step with
  | waited hjob' hat hr work more => exact ⟨_, _, hr, work, .inl ⟨more, rfl⟩⟩
  | answered hjob' hr work last =>
      rw [hjob] at hjob'
      cases hjob'
      exact ⟨_, _, hr, work, .inr ⟨_, last, rfl, Table.find?_insert_self _ _ _⟩⟩
  | fetched hjob' step =>
      rw [hjob] at hjob'
      cases hjob'
      cases step
  | _ => simp_all only [Option.some.injEq, reduceCtorEq]

/-- A step of a call that is in a flush of its own. -/
theorem Called.of_flushing (step : Called m now id input p)
    (hjob : m.jobs.find? id = some (.flushing slot answer)) :
    (∃ r q, m.registry = some r ∧ Registry.Called r now (.call id) input q ∧ q.result? = none ∧
        p = ⟨{ m with registry := some q.state }, none, q.events.map ofRegistry⟩) ∨
      p.result? = some (.answered (AuthResponse.ofCall answer)) := by
  cases step with
  | waited hjob' hat hr work more => exact .inl ⟨_, _, hr, work, more, rfl⟩
  | flushed hjob' hr work last =>
      rw [hjob] at hjob'
      cases hjob'
      exact .inr rfl
  | fetched hjob' step =>
      rw [hjob] at hjob'
      cases hjob'
      cases step
  | _ => simp_all only [Option.some.injEq, reduceCtorEq]

/-- A step of a call that looks whether the registry has been shut down. -/
theorem Called.of_rechecking (step : Called m now id input p)
    (hjob : m.jobs.find? id = some (.rechecking slot answer)) :
    (∃ r', Registry.Began m.backends (.call id) (.use slot .flush) r' ∧
        p = .quiet (({ m with registry := some r' } : Manager).resume id (.flushing slot answer))) ∨
      p.result? = some (.answered (AuthResponse.ofCall answer)) := by
  cases step with
  | waited hjob' hat hr work more =>
      rw [hjob] at hjob'
      cases hjob'
      cases hat
  | overtaken hjob' hr closed free began =>
      rw [hjob] at hjob'
      cases hjob'
      rw [backends_of_registry hr]
      exact .inl ⟨_, began, rfl⟩
  | returned hjob' hr opened =>
      rw [hjob] at hjob'
      cases hjob'
      exact .inr rfl
  | fetched hjob' step =>
      rw [hjob] at hjob'
      cases hjob'
      cases step
  | _ => simp_all only [Option.some.injEq, reduceCtorEq]

/-! ## Coming back -/

/-- A call takes the steps of the task that it has handed to the registry, if it can go on with what that comes to. -/
theorem exists_step_of_registry {r : Registry} {q : Progress Registry Registry.Result Registry.Event}
    (after : Manager → Registry.Result → Step) (hr : m.registry = some r)
    (hstep : m.step now (.call id) input = m.stepRegistry now id input after)
    (hq : r.step now (.call id) input = some q)
    (hafter : ∀ result, q.result? = some result →
      ∃ p, after { m with registry := some q.state } result = some p) :
    ∃ p, m.step now (.call id) input = some p := by
  obtain ⟨r', result?, events⟩ := q
  rw [hstep]
  unfold stepRegistry
  simp only [hr, hq]
  cases result? with
  | none => exact ⟨_, rfl⟩
  | some result =>
      obtain ⟨p, hp⟩ := hafter result rfl
      simp only [hp, Option.map_some]
      exact ⟨_, rfl⟩

/-- A call that is at work on a backend takes the steps that it has there. -/
theorem exists_step_of_atWork {s : Slot} {work : BufferedJob}
    (after : Manager → Registry.Result → Step) (hc : Coherent h m) (hs : m.backends.slots[slot]? = some s)
    (hwork : s.backend.jobs.find? (.call id) = some work)
    (hstep : m.step now (.call id) input = m.stepRegistry now id input after)
    (hafter : ∀ r q result, BufferedBackend.Stepped s.backend (.call id) input q →
      q.result? = some result → ∃ p, after { m with registry := some r } (.used result) = some p)
    (hallows : (m.want (.call id)).Allows input) : ∃ p, m.step now (.call id) input = some p := by
  have husing := hc.sound.calls slot s id work hs hwork
  obtain ⟨r, hr, hbackends⟩ := exists_registry_of_slot hs
  rw [hc.want_of_job hs hwork] at hallows
  rw [hbackends] at husing hs
  obtain ⟨q, hq⟩ := Registry.exists_step_of_using now husing hs hallows
  refine exists_step_of_registry after hr hstep hq fun result hresult => ?_
  have called := Registry.called_of_stepCall (show r.stepCall now (.call id) input = some q from hq)
  obtain ⟨q', stepped, -, hresult', -⟩ := called.works husing hs
  rw [hresult] at hresult'
  obtain ⟨result', hlast, rfl⟩ := Option.map_eq_some_iff.1 hresult'.symm
  exact hafter q.state q' result' stepped hlast

/-- **A call that is in a flush of its own comes back**, by induction on the steps that the flush has before it. -/
theorem returns_of_flushing (n : Nat) : ∀ {m : Manager} {s : Slot} {work : BufferedJob},
    Coherent h m → m.jobs.find? id = some (.flushing slot answer) →
    m.backends.slots[slot]? = some s → s.backend.jobs.find? (.call id) = some work →
    work.Serves .flush → work.flushSteps s.backend = n →
      m.ReturnsWith id (.answered (AuthResponse.ofCall answer)) := by
  induction n using Nat.strongRecOn with
  | ind n ih =>
      intro m s work hc hjob hs hwork hserves hn
      refine .of_called ?waits ?takes ?leads
      case waits =>
        rw [hc.want_of_job hs hwork]
        exact BufferedBackend.want_ne_nothing hwork
      case takes =>
        intro now input hallows
        refine exists_step_of_atWork (afterOwnFlush id answer) hc hs hwork ?_ ?_ hallows
        · simp only [step, hjob, stepAuthorize]
        · intro r q result stepped hlast
          obtain ⟨summary, rfl⟩ := stepped.flushed_of_result hwork hserves hlast
          exact ⟨_, rfl⟩
      case leads =>
        intro now input p step
        have hc' := step.coherent hc
        rcases step.of_flushing hjob with ⟨r, q, hr, called, more, rfl⟩ | hlast
        · -- the flush goes on with one batch less, or with one to put back
          refine .inr ⟨rfl, ?_⟩
          have husing := hc.sound.calls slot s id work hs hwork
          rw [backends_of_registry hr] at husing hs
          obtain ⟨q', stepped, hslots, hresult', -⟩ := called.works husing hs
          rw [more] at hresult'
          obtain ⟨work', hwork', hserves', hlt⟩ := stepped.flushSteps_lt hwork hserves
            (Option.map_eq_none_iff.1 hresult'.symm)
          have hs' : q.state.slots[slot]? = some { s with backend := q'.state } := by
            rw [hslots]
            exact List.getElem?_set_self (List.getElem?_eq_some_iff.1 hs).1
          exact ih _ (hn ▸ hlt) hc' hjob hs' hwork' hserves' rfl
        · exact .inl ⟨_, hlast, rfl⟩

/-- A call that looks whether the registry has been shut down comes back, at once or after a flush. -/
theorem returns_of_rechecking (hc : Coherent h m)
    (hjob : m.jobs.find? id = some (.rechecking slot answer)) :
    m.ReturnsWith id (.answered (AuthResponse.ofCall answer)) := by
  obtain ⟨task, -, d, wire, -, ⟨s, hs, -⟩, hidle⟩ := hc.fits id _ hjob
  obtain ⟨r, hr, hbackends⟩ := exists_registry_of_slot hs
  have hwant : m.want (.call id) = .turn := by
    unfold want
    simp only [hjob]
  rw [hbackends] at hs hidle
  have hidle : r.jobs.find? (.call id) = none := hidle
  refine .of_called ?waits ?takes ?leads
  case waits =>
    rw [hwant]
    intro hnothing
    cases hnothing
  case takes =>
    intro now input hallows
    rw [hwant] at hallows
    cases input with
    | turn =>
        have hsound := hc.sound
        rw [hbackends] at hsound
        obtain ⟨r', hbegin⟩ := Registry.exists_begin?_use hsound hidle hs .flush
        simp only [step, hjob, stepAuthorize, hr, withRegistry, hbegin]
        split <;> exact ⟨_, rfl⟩
    | _ => cases hallows
  case leads =>
    intro now input p step
    have hc' := step.coherent hc
    rcases step.of_rechecking hjob with ⟨r', began, rfl⟩ | hlast
    · rw [hbackends] at began
      obtain ⟨s', work, hs', -, -, hwork, hserves⟩ := began.atWork ⟨s, hs, rfl⟩
      exact .inr ⟨rfl, returns_of_flushing _ hc' (Table.find?_insert_self _ _ _) hs' hwork hserves rfl⟩
    · exact .inl ⟨_, hlast, rfl⟩

/-- A call whose usage is about to be recorded comes back with the answer that it records for. -/
theorem returns_of_recording (hc : Coherent h m) (hjob : m.jobs.find? id = some (.authorizing slot))
    {s : Slot} {wire : Wire.Request} {response : Wire.Response}
    (hs : m.backends.slots[slot]? = some s)
    (hwork : s.backend.jobs.find? (.call id) = some (.recording wire response)) :
    m.ReturnsWith id (.answered (AuthResponse.ofCall (.ok response))) := by
  refine .of_called ?waits ?takes ?leads
  case waits =>
    rw [hc.want_of_job hs hwork]
    exact BufferedBackend.want_ne_nothing hwork
  case takes =>
    intro now input hallows
    refine exists_step_of_atWork (afterAuthorize id slot) hc hs hwork ?_ ?_ hallows
    · simp only [step, hjob, stepAuthorize]
    · intro r q result stepped hlast
      rw [stepped.result_of_recording hwork] at hlast
      cases hlast
      exact ⟨_, rfl⟩
  case leads =>
    -- a step of it is the one that records
    intro now input p step
    have hc' := step.coherent hc
    have husing := hc.sound.calls slot s id _ hs hwork
    obtain ⟨r, q, hr, called, hcases⟩ := step.of_authorizing hjob
    rw [backends_of_registry hr] at husing hs
    obtain ⟨q', stepped, -, hresult, -⟩ := called.works husing hs
    rw [stepped.result_of_recording hwork] at hresult
    rcases hcases with ⟨more, -⟩ | ⟨answer, last, hp, hjob'⟩
    · rw [hresult] at more
      cases more
    · rw [hresult] at last
      cases last
      exact .inr ⟨hp, returns_of_rechecking hc' hjob'⟩

/-- **An authorization that has its answer from a buffered backend comes back with it.** -/
theorem returns_of_answer (hc : Coherent h m) (hanswer : m.answer? id = some answer) :
    m.ReturnsWith id (.answered (AuthResponse.ofCall answer)) := by
  unfold answer? at hanswer
  split at hanswer
  · next slot hjob =>
    obtain ⟨task, -, d, wire, -, s, work, hs, -, -, hwork, -⟩ := hc.fits id _ hjob
    rw [jobAt_of_slot hs, hwork] at hanswer
    cases work with
    | recording wire response =>
        cases hanswer
        exact returns_of_recording hc hjob hs hwork
    | _ => cases hanswer
  · next slot answer' hjob =>
    cases hanswer
    exact returns_of_rechecking hc hjob
  · next slot answer' hjob =>
    cases hanswer
    obtain ⟨task, -, d, wire, -, s, work, hs, -, -, hwork, hserves⟩ := hc.fits id _ hjob
    exact returns_of_flushing _ hc hjob hs hwork hserves rfl
  · cases hanswer

/-- **An authorization in progress that has been told something comes back**, with what was made of it. -/
theorem returns_of_consulted {direct : String → Except AuthorizerError Unit → Prop}
    {settings : DispatchSettings} {start : Nat} {limits : Option CacheLimits} {c : Consultation}
    (run : Run system (.new start limits settings) h m) (built : system.Told (builtAs direct) h)
    (hc : c ∈ consulted id h) (hbusy : m.jobs.find? id ≠ none) :
    m.ReturnsWith id (.answered (AuthResponse.ofCall (settings.policy.settle c.told))) :=
  returns_of_answer (coherent_of_run run)
    ((accountable_of_run run built).answer?_of_consulted hbusy hc)

end Manager

end GatewayAuth
