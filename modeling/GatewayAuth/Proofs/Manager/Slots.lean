import GatewayAuth.Proofs.Manager.Gate

/-!
# `GatewayAuth.Proofs.Manager.Slots` — a step of a manager, seen from its buffered backends

Whatever an actor of a manager does, a slot sees nothing of it or one move of its own backend, and what the outside
is asked and answers on behalf of an actor with a job at a backend is what that backend asks and is told.

## Contents
- `slotEvents`: the events of a step at backends.
- `Stepped.slotsMoved`: what a step does to the slots; `Stepped.slot`, `Stepped.exists_moved`, `Stepped.slot_of_new`: the
  slots one by one.
- `Coherent.want_of_job`, `Stepped.acceptedFor_eq`: calls to the outside.
- `Coherent.mine_of_job`: what a call with a job at a backend is doing.
-/

namespace GatewayAuth.Manager

/-- The events of a step that happened at backends. -/
def slotEvents (events : List Event) : List Registry.Event :=
  events.filterMap fun e => match e with | .atSlot slot e => some (.atSlot slot e) | _ => none

theorem slotEvents_map (events : List Registry.Event) :
    slotEvents (events.map ofRegistry) = events := by
  unfold slotEvents
  rw [List.filterMap_map]
  induction events with
  | nil => rfl
  | cons e events ih =>
      cases e
      rw [List.filterMap_cons]
      exact congrArg _ ih

theorem slotEvents_eq_nil {events : List Event} (h : ∀ slot e, .atSlot slot e ∉ events) :
    slotEvents events = [] := by
  unfold slotEvents
  rw [List.filterMap_eq_nil_iff]
  intro e he
  cases e with
  | atSlot slot e => exact absurd he (h slot e)
  | _ => rfl

theorem mem_slotEvents {events : List Event} {slot : Nat} {e : BufferedBackend.Event}
    (h : .atSlot slot e ∈ events) : .atSlot slot e ∈ slotEvents events :=
  List.mem_filterMap.2 ⟨_, h, rfl⟩

variable {m : Manager} {h : Past} {now id : Nat} {actor : Actor} {input : Input}
  {p : Progress Manager Result Event}

/-! ## The slots one by one -/

/-- An acquisition leaves the slots as they are, or opens one. -/
theorem slots_of_acquired {r : Registry} {q : Progress Registry Registry.Result Registry.Event}
    {result : Except AuthorizerError Nat} (work : Registry.Called r now actor input q)
    (last : q.result? = some (.acquired result)) :
    q.events = [] ∧ (q.state.slots = r.slots ∨
      ∃ d policy due, q.state.slots = r.slots ++ [⟨.new d policy, .idle due⟩]) := by
  cases work with
  | opened job hhandles => exact ⟨rfl, .inr ⟨_, _, _, rfl⟩⟩
  | turnedAway job closed => exact ⟨rfl, .inl rfl⟩
  | found job cell => exact ⟨rfl, .inl rfl⟩
  | buildFailed job => exact ⟨rfl, .inl rfl⟩
  | builtLate job closed => exact ⟨rfl, .inl rfl⟩
  | _ => cases last

/-- **What a step does to the slots.** It moves them as a step of the registry does; only where a call acquires a
backend, a slot may be opened and the work of the call started there in one step. -/
theorem Stepped.slotsMoved (step : Stepped m now actor input p) :
    Registry.SlotsMoved m.backends actor input p.state.backends.slots (slotEvents p.events) ∨
      slotEvents p.events = [] ∧ ∃ id r slot work, actor = .call id ∧
        (r.slots = m.backends.slots ∨
          ∃ d policy due, r.slots = m.backends.slots ++ [⟨.new d policy, .idle due⟩]) ∧
        Registry.Began r (.call id) (.use slot work) p.state.backends := by
  have hwork : ∀ {id : Nat} {r : Registry}
      {q : Progress Registry Registry.Result Registry.Event}, m.registry = some r →
      Registry.Called r now (.call id) input q →
        Registry.SlotsMoved m.backends (.call id) input q.state.slots
          (slotEvents (q.events.map ofRegistry)) := by
    intro id r q hr work
    rw [slotEvents_map, backends_of_registry hr]
    exact work.slotsMoved
  have hbegan : ∀ {id : Nat} {r r' : Registry} {task : Registry.Task}, m.registry = some r →
      Registry.Began r (.call id) task r' →
        Registry.SlotsMoved m.backends (.call id) input r'.slots [] := by
    intro id r r' task hr began
    rw [backends_of_registry hr]
    exact began.slotsMoved input
  have hsilent : ∀ slot e, Event.atSlot slot e ∉ [] := fun _ _ => List.not_mem_nil
  have hkept : p.state.registry = m.registry → (∀ slot e, .atSlot slot e ∉ p.events) →
      Registry.SlotsMoved m.backends actor input p.state.backends.slots (slotEvents p.events) := by
    intro hregistry hevents
    rw [backends_congr hregistry, slotEvents_eq_nil hevents]
    exact .kept
  cases step with
  | looped hr work =>
      refine .inl ?_
      rw [slotEvents_map, backends_of_registry hr]
      exact work.slotsMoved
  | refreshed work => exact .inl (hkept rfl hsilent)
  | called step =>
      cases step with
      | fetched hjob step =>
          obtain ⟨hregistry, -, hevents, -⟩ := step.frame
          exact .inl (hkept hregistry hevents)
      | acquires _ _ hr _ began | overtaken _ hr _ _ began | drains _ _ hr _ began =>
          exact .inl (hbegan hr began)
      | waited _ _ hr work | answered _ hr work | flushed _ hr work | drained _ hr work =>
          exact .inl (hwork hr work)
      | acquired hjob hr work last free began =>
          obtain ⟨hnil, hslots⟩ := slots_of_acquired work last
          refine .inr ⟨?_, _, _, _, _, rfl, ?_, began⟩
          · rw [slotEvents_map, hnil]
          · rw [backends_of_registry hr]
            exact hslots
      | notAcquired hjob hr work last =>
          refine .inl ?_
          rw [(slots_of_acquired work last).1]
          have hmoved := hwork hr work
          rw [(slots_of_acquired work last).1] at hmoved
          exact hmoved
      | _ => exact .inl (hkept rfl hsilent)

/-- What a step does to a slot that there was: nothing, or one move of that slot. -/
def SlotSeen (m : Manager) (actor : Actor) (input : Input) (p : Progress Manager Result Event)
    (i : Nat) (s s' : Slot) : Prop :=
  s' = s ∧ Registry.eventsAt i (slotEvents p.events) = [] ∨
    s.Moved m.backends.stopping i actor input s' (Registry.eventsAt i (slotEvents p.events))

/-- **A slot sees nothing of a step, or one move of its own backend.** -/
theorem Stepped.slot (step : Stepped m now actor input p) {i : Nat} {s : Slot}
    (hs : m.backends.slots[i]? = some s) :
    ∃ s', p.state.backends.slots[i]? = some s' ∧ SlotSeen m actor input p i s s' := by
  unfold SlotSeen
  rcases step.slotsMoved with hmoved | ⟨hnil, id, r, slot, work, rfl, hslots, began⟩
  · rcases hmoved.at_slot hs with ⟨hs', hnil⟩ | ⟨s', hs', move⟩
    · exact ⟨s, hs', .inl ⟨rfl, hnil⟩⟩
    · exact ⟨s', hs', .inr move⟩
  · have hkept : r.slots[i]? = some s := by
      rcases hslots with hsame | ⟨d, policy, due, hopened⟩
      · rw [hsame]
        exact hs
      · rw [hopened, List.getElem?_append_left (List.getElem?_eq_some_iff.1 hs).1]
        exact hs
    rw [hnil]
    rcases began.at_slot m.backends.stopping input hkept with hs' | ⟨s', hs', move⟩
    · exact ⟨s, hs', .inl ⟨rfl, rfl⟩⟩
    · exact ⟨s', hs', .inr move⟩

/-- What happens at a slot comes from a move of that slot. -/
theorem Stepped.exists_moved (step : Stepped m now actor input p) {i : Nat} {e : BufferedBackend.Event}
    (hevent : .atSlot i e ∈ p.events) :
    ∃ s s', m.backends.slots[i]? = some s ∧ p.state.backends.slots[i]? = some s' ∧
      e ∈ Registry.eventsAt i (slotEvents p.events) ∧
      s.Moved m.backends.stopping i actor input s' (Registry.eventsAt i (slotEvents p.events)) := by
  have hmem := mem_slotEvents hevent
  have hat := Registry.mem_eventsAt hmem
  obtain ⟨s, hs⟩ : ∃ s, m.backends.slots[i]? = some s := by
    rcases step.slotsMoved with hmoved | ⟨hnil, -⟩
    · exact hmoved.exists_slot hmem
    · rw [hnil] at hmem
      cases hmem
  obtain ⟨s', hs', hseen⟩ := step.slot hs
  rcases hseen with ⟨-, hnil⟩ | move
  · rw [hnil] at hat
    cases hat
  · exact ⟨s, s', hs, hs', hat, move⟩

/-- What a slot is when it has just been opened: its loop waits for the first tick, nothing is in its buffer, and
nobody has taken a step at its backend. -/
structure Fresh (s : Slot) : Prop where
  loop : ∃ due, s.loop = .idle due
  buffer : s.backend.buffer = .empty
  jobs : ∀ actor job, s.backend.jobs.find? actor = some job → ∃ task : BufferedBackend.Task,
    job = task.job

theorem fresh_new (d : String) (policy : FailurePolicy) (due : Nat) :
    Fresh ⟨.new d policy, .idle due⟩ := ⟨⟨due, rfl⟩, rfl, fun _ _ hjob => (by cases hjob)⟩

/-- A slot that was not there before a step is fresh after it. -/
theorem Stepped.slot_of_new (step : Stepped m now actor input p) {i : Nat} {s : Slot}
    (hs : p.state.backends.slots[i]? = some s) (hnew : m.backends.slots[i]? = none) :
    Fresh s := by
  rcases step.slotsMoved with hmoved | ⟨-, id, r, slot, work, rfl, hslots, began⟩
  · obtain ⟨d, due, -, rfl⟩ := hmoved.of_new hs hnew
    exact fresh_new d _ due
  · cases hmid : r.slots[i]? with
    | none =>
        obtain ⟨d, due, -, rfl⟩ := (began.slotsMoved input).of_new hs hmid
        exact fresh_new d _ due
    | some s₀ =>
        -- the slot has been opened in this step, and work may have been started there
        obtain ⟨d, policy, due, rfl⟩ : ∃ d policy due, s₀ = ⟨.new d policy, .idle due⟩ := by
          rcases hslots with hsame | ⟨d, policy, due, hopened⟩
          · rw [hsame, hnew] at hmid
            cases hmid
          · rw [hopened] at hmid
            have hge := List.getElem?_eq_none_iff.1 hnew
            rw [List.getElem?_append_right hge, List.getElem?_singleton] at hmid
            split at hmid
            · cases hmid; exact ⟨d, policy, due, rfl⟩
            · cases hmid
        rcases began.at_slot false input hmid with hs' | ⟨s', hs', move⟩
        · rw [hs] at hs'
          cases hs'
          exact fresh_new d policy due
        · rw [hs] at hs'
          cases hs'
          have hidle : ∃ due, s.loop = .idle due := ⟨due, move.loop_of_call⟩
          rcases move.started_or_stepped with ⟨-, task, hstart⟩ | ⟨q, stepped, -⟩
          · refine ⟨hidle, by rw [hstart]; rfl, fun actor job hjob => ?_⟩
            rw [hstart, BufferedBackend.jobs_resume, Table.find?_insert] at hjob
            split at hjob
            · cases hjob; exact ⟨_, rfl⟩
            · cases hjob
          · obtain ⟨job, hjob⟩ := stepped.has_job
            cases hjob

/-! ## Calls to the outside -/

/-- A call that waits for the registry waits for what the registry lets it wait for. -/
theorem want_of_isAtRegistry {job : ManagerJob} {r : Registry} (hjob : m.jobs.find? id = some job)
    (hat : job.isAtRegistry = true) (hr : m.registry = some r) :
    m.want (.call id) = r.want (.call id) := by
  unfold want wantRegistry
  cases job with
  | acquiring d wire => simp only [hjob, hr]
  | authorizing slot => simp only [hjob, hr]
  | flushing slot answer => simp only [hjob, hr]
  | drainingBackends => simp only [hjob, hr]
  | _ => cases hat

/-- The refresh loop makes no reports. -/
theorem wantRefreshLoop_ne_report (m : Manager) (d : String) (batch : Wire.Batch) :
    m.wantRefreshLoop ≠ .reply (.report d batch) := by
  unfold wantRefreshLoop ConfigRequest.call
  split
  · nofun
  · split <;> nofun
  · split <;> nofun
  · nofun

/-- The batches that backends accept at a step are those that the outside accepts. -/
theorem Stepped.acceptedFor_eq (step : Stepped m now actor input p) (d : String) :
    m.backends.acceptedFor d (slotEvents p.events) =
      (System.acceptedNow d (system.want m actor) input).toList := by
  have hwork : ∀ {id : Nat} {job : ManagerJob} {r : Registry}
      {q : Progress Registry Registry.Result Registry.Event},
      m.jobs.find? id = some job → job.isAtRegistry = true → m.registry = some r →
      Registry.Called r now (.call id) input q →
        m.backends.acceptedFor d (slotEvents (q.events.map ofRegistry)) =
          (System.acceptedNow d (system.want m (.call id)) input).toList := by
    intro id job r q hjob hat hr work
    rw [slotEvents_map, backends_of_registry hr, work.acceptedFor_eq,
      show system.want m (.call id) = m.want (.call id) from rfl,
      want_of_isAtRegistry hjob hat hr]
  cases step with
  | @looped slot r _ q hr work =>
      rw [slotEvents_map, backends_of_registry hr, work.acceptedFor_eq]
      show _ = (System.acceptedNow d (m.wantRegistry (.flushLoop slot)) input).toList
      unfold wantRegistry
      rw [hr]
  | refreshed work =>
      rw [show system.want m .refreshLoop = m.wantRefreshLoop from rfl,
        System.acceptedNow_eq_none (wantRefreshLoop_ne_report m)]
      rfl
  | called step =>
      cases step with
      | fetched hjob step => cases step <;> rfl
      | waited hjob hat hr work more => exact hwork hjob hat hr work
      | acquired hjob hr work | answered hjob hr work | flushed hjob hr work
      | drained hjob hr work => exact hwork hjob rfl hr work
      | notAcquired hjob hr work last =>
          rw [← hwork hjob rfl hr work, (slots_of_acquired work last).1]
          rfl
      | _ => rfl

/-- An actor with a job at a backend waits for what that job waits for. -/
theorem Coherent.want_of_job (hc : Coherent h m) {i : Nat} {s : Slot} {job : BufferedJob}
    (hs : m.backends.slots[i]? = some s) (hjob : s.backend.jobs.find? actor = some job) :
    m.want actor = s.backend.want actor := by
  obtain ⟨r, hr⟩ : ∃ r, m.registry = some r := by
    cases hr : m.registry with
    | none =>
        unfold backends at hs
        rw [hr] at hs
        cases hs
    | some r => exact ⟨r, rfl⟩
  have hsound := hc.sound
  rcases (hsound.slots i s hs).actors actor job hjob with ⟨id, rfl⟩ | rfl
  · have husing := hsound.calls i s id job hs hjob
    obtain ⟨mine, task, hmine, -, hat, -⟩ := hc.fits_of_busy husing
    rw [want_of_isAtRegistry hmine hat hr]
    rw [backends_of_registry hr] at husing hs
    unfold Registry.want
    simp only [husing, hs]
  · show m.wantRegistry (.flushLoop i) = _
    rw [backends_of_registry hr] at hs hsound
    unfold wantRegistry Registry.want
    cases hbusy : s.loop.isBusy with
    | false =>
        rw [(hsound.slots i s hs).idle hbusy] at hjob
        cases hjob
    | true =>
        cases hloop : s.loop with
        | idle due => rw [hloop] at hbusy; cases hbusy
        | flushing due => simp only [hr, hs, hloop]
        | draining => simp only [hr, hs, hloop]
        | exited => rw [hloop] at hbusy; cases hbusy

/-- **A call with a job at a backend is authorizing there, or in its own flush.** -/
theorem Coherent.mine_of_job (hc : Coherent h m) {i : Nat} {s : Slot} {job : BufferedJob}
    (hs : m.backends.slots[i]? = some s) (hjob : s.backend.jobs.find? (.call id) = some job) :
    (m.jobs.find? id = some (.authorizing i) ∧ ∃ wire, job.Serves (.authorize wire)) ∨
      (∃ answer, m.jobs.find? id = some (.flushing i answer)) ∧ job.Serves .flush := by
  have husing := hc.sound.calls i s id job hs hjob
  obtain ⟨mine, task, hmine, -, hat, hfits⟩ := hc.fits_of_busy husing
  cases mine with
  | acquiring d wire =>
      obtain ⟨-, job', hjob', hserves⟩ := hfits
      rw [husing] at hjob'
      cases hjob'
      obtain ⟨work, hwork⟩ := hserves
      cases hwork
  | authorizing slot =>
      obtain ⟨d, wire, -, s', job', hs', -, husing', hjob', hserves⟩ := hfits
      rw [husing] at husing'
      cases husing'
      rw [hs] at hs'
      cases hs'
      rw [hjob] at hjob'
      cases hjob'
      exact .inl ⟨hmine, wire, hserves⟩
  | flushing slot answer =>
      obtain ⟨d, wire, -, s', job', hs', -, husing', hjob', hserves⟩ := hfits
      rw [husing] at husing'
      cases husing'
      rw [hs] at hs'
      cases hs'
      rw [hjob] at hjob'
      cases hjob'
      exact .inr ⟨⟨answer, hmine⟩, hserves⟩
  | drainingBackends =>
      obtain ⟨-, job', hjob', hserves⟩ := hfits
      rw [husing] at hjob'
      cases hjob'
      obtain ⟨work, hwork⟩ := hserves
      cases hwork
  | _ => cases hat

/-- **An actor with a job at a backend takes its steps there.** -/
theorem Stepped.works (step : Stepped m now actor input p) (hc : Coherent h m) {i : Nat}
    {s : Slot} {job : BufferedJob} (hs : m.backends.slots[i]? = some s)
    (hjob : s.backend.jobs.find? actor = some job) :
    ∃ s' q, p.state.backends.slots[i]? = some s' ∧ s'.backend = q.state ∧
      BufferedBackend.Stepped s.backend actor input q ∧
      slotEvents p.events = q.events.map (.atSlot i) := by
  have hsound := hc.sound
  have hslot := hsound.slots i s hs
  have hlt := (List.getElem?_eq_some_iff.1 hs).1
  cases step with
  | @looped slot r _ q hr work =>
      rw [backends_of_registry hr] at hs hlt
      rcases hslot.actors _ job hjob with ⟨id, hid⟩ | hid
      · cases hid
      · cases hid
        have busy : s.loop.isBusy = true := by
          cases hbusy : s.loop.isBusy with
          | false =>
              rw [hslot.idle hbusy] at hjob
              cases hjob
          | true => rfl
        cases work with
        | ticked hslot' idle hdue free =>
            rw [hs] at hslot'
            cases hslot'
            rw [idle] at busy
            cases busy
        | told hslot' idle stop free =>
            rw [hs] at hslot'
            cases hslot'
            rw [idle] at busy
            cases busy
        | @worked s' _ q hslot' busy' work more =>
            rw [hs] at hslot'
            cases hslot'
            exact ⟨_, q, List.getElem?_set_self hlt, rfl, work, slotEvents_map _⟩
        | @flushed s' _ q result hslot' busy' work last =>
            rw [hs] at hslot'
            cases hslot'
            exact ⟨_, q, List.getElem?_set_self hlt, rfl, work, slotEvents_map _⟩
  | refreshed work =>
      rcases hslot.actors _ job hjob with ⟨id, hid⟩ | hid <;> cases hid
  | @called id _ _ step =>
      have husing := hsound.calls i s id job hs hjob
      obtain ⟨mine, task, hmine, -, hat, -⟩ := hc.fits_of_busy husing
      -- every step of a call that uses a backend is a step of the registry, and comes to no other result
      have hwork : ∀ {r : Registry} {q : Progress Registry Registry.Result Registry.Event},
          m.registry = some r → Registry.Called r now (.call id) input q →
          (∀ result, q.result? = some result → ∃ used, result = .used used) ∧
          ∃ s' q', q.state.slots[i]? = some s' ∧ s'.backend = q'.state ∧
            BufferedBackend.Stepped s.backend (.call id) input q' ∧
            q.events = q'.events.map (.atSlot i) := by
        intro r q hr work
        rw [backends_of_registry hr] at husing hs hlt
        obtain ⟨q', stepped, hslots, hresult, hevents, -⟩ := work.works husing hs
        refine ⟨fun result hq => ?_, { s with backend := q'.state }, q', ?_, rfl, stepped, hevents⟩
        · rw [hq] at hresult
          obtain ⟨used, -, hused⟩ := Option.map_eq_some_iff.1 hresult.symm
          exact ⟨used, hused.symm⟩
        · rw [hslots]
          exact List.getElem?_set_self hlt
      cases step with
      | waited _ _ hr work | answered _ hr work | flushed _ hr work =>
          obtain ⟨-, s', q', hs', hq', stepped, hevents⟩ := hwork hr work
          exact ⟨s', q', hs', hq', stepped, (slotEvents_map _).trans hevents⟩
      | acquired _ hr work last | notAcquired _ hr work last | drained _ hr work last =>
          obtain ⟨used, hused⟩ := (hwork hr work).1 _ last
          cases hused
      | fetched hjob' step =>
          rw [hmine] at hjob'
          cases hjob'
          cases step <;> cases hat
      | malformed hjob' | acquires hjob' | goesDirect hjob' | overtaken hjob' | returned hjob'
      | opened hjob' | notOpened hjob' | called hjob' | followed hjob' | drains hjob'
      | drainsNothing hjob' | stopsRefresh hjob' | stopsNothing hjob' | joined hjob' =>
          -- these are steps of calls that do not wait for the registry
          rw [hmine] at hjob'
          cases hjob'
          cases hat

end GatewayAuth.Manager
