import GatewayAuth.Proofs.Dispatch.Completion
import GatewayAuth.Proofs.Manager.Likeness

/-!
# `GatewayAuth.Proofs.Dispatch.Undone` — a run without one of its authorizations

An authorization that cannot have a buffered backend makes no difference to others. Take it out of a run, with all its
steps: what is left is a run as well, in which everyone else does the same, at the same instants, asks the same of the
world outside and comes to the same results. Once it has come back, nobody can tell whether it has ever been there.

## Contents
- `Tidy`, `tidy_of_run`: what the registry of a manager keeps.
- `ManagerJob.isUnserved`, `Called.alike`: a call that has no buffered backend leaves its manager like one without it.
- `Undone`, `undone_of_run`: the run without such a call.
- `SameFuture`, `Alike.sameFuture`: managers that nothing can tell apart.
-/

namespace GatewayAuth

/-- Whether a call is an authorization that has no buffered backend, or not yet. -/
def ManagerJob.isUnserved : ManagerJob → Bool
  | .preparing _ _ => true
  | .acquiring _ _ => true
  | .opening _ _ => true
  | .calling _ _ => true
  | _ => false

namespace Manager

variable {gone : Option Nat} {m m' : Manager} {now id : Nat} {actor : Actor} {input : Input}
  {p : Progress Manager Result Event} {h : Past} {start : Nat} {limits : Option CacheLimits}
  {settings : DispatchSettings}

/-! ## Registries in good order -/

/-- What registries keep that no step of them may upset. -/
structure Tidy (r : Registry) : Prop where
  assigned : r.Assigned
  marked : r.Marked
  size : r.size = r.slots.length

theorem tidy_of_run (run : Run system (.new start limits settings) h m) :
    ∀ r, m.registry = some r → Tidy r := by
  refine registry_of_run run ?_ ?_ ?_ ?_
  · intro policy flushEvery
    exact ⟨Registry.assigned_new policy flushEvery, Registry.marked_new policy flushEvery, rfl⟩
  · intro r r' id task free began hr
    exact ⟨began.assigned free hr.assigned, began.marked hr.marked, began.cells.size hr.size⟩
  · intro r now id input q work hr
    have step := Registry.Stepped.called work
    exact ⟨step.assigned hr.assigned, work.marked hr.marked, (step.cells hr.assigned).size hr.size⟩
  · intro r now slot input q work hr
    have step := Registry.Stepped.looped work
    exact ⟨step.assigned hr.assigned, work.marked hr.marked, (step.cells hr.assigned).size hr.size⟩

/-! ## Steps of the one -/

namespace Alike

/-- A manager is like itself as long as a call is not there. -/
theorem of_free (hc : Coherent h m) (htidy : ∀ r, m.registry = some r → Tidy r)
    (hfree : m.jobs.find? id = none) : Alike (some id) m m := by
  refine ⟨rfl, rfl, rfl, rfl, ?_, fun other => ?_⟩
  · cases hr : m.registry with
    | none => exact .none
    | some r =>
        have hidle := hc.idle id hfree
        rw [backends_of_registry hr] at hidle
        exact .some (Registry.like_of_free (htidy r hr).assigned hidle)
  · split
    · next heq =>
      cases heq
      exact hfree
    · rfl

/-- Once the call is no longer there, nothing distinguishes the two. -/
theorem forget (alike : Alike (some id) m m') (hc : Coherent h m)
    (htidy : ∀ r, m.registry = some r → Tidy r) (hfree : m.jobs.find? id = none) :
    Alike none m m' := by
  refine ⟨alike.cache, alike.refreshLoop, alike.stopRefreshing, alike.gate, ?_, fun other => ?_⟩
  · cases hr : m.registry with
    | none =>
        rw [alike.registry_eq_none hr]
        exact .none
    | some r =>
        obtain ⟨r', hr', like⟩ := alike.exists_registry hr
        have hidle := hc.idle id hfree
        rw [backends_of_registry hr] at hidle
        rw [hr']
        exact .some (like.forget (htidy r hr).assigned hidle)
  · rw [alike.jobs]
    split
    · next heq =>
      cases heq
      exact hfree.symm
    · rfl

end Alike

/-- A call with a task at the registry is served by its job there. -/
theorem serves_of_working {r : Registry} {task : Registry.Task} (hworking : r.Working id task)
    (job : RegistryJob) (hjob : r.jobs.find? (.call id) = some job) : job.Serves task := by
  obtain ⟨job', hjob', hserves⟩ := hworking
  rw [hjob] at hjob'
  cases hjob'
  exact hserves

/-- **A call that has no buffered backend leaves its manager like one without it**, with each of its steps. -/
theorem Called.alike (step : Called m now id input p) (alike : Alike (some id) m m')
    (hc : Coherent h m) (htidy : ∀ r, m.registry = some r → Tidy r) {job : ManagerJob}
    (hjob : m.jobs.find? id = some job) (hunserved : job.isUnserved = true) :
    Alike (some id) p.state m' ∨ ∃ slot, p.state.jobs.find? id = some (.authorizing slot) := by
  have hsame : ∀ {job'}, m.jobs.find? id = some job' → job'.isUnserved = false → False := by
    intro job' hjob' hserved
    rw [hjob] at hjob'
    cases hjob'
    rw [hunserved] at hserved
    cases hserved
  -- an acquisition that goes on, or comes to nothing
  have hbeside : ∀ {d wire r q}, m.jobs.find? id = some (.acquiring d wire) → m.registry = some r →
      Registry.Called r now (.call id) input q → (∀ slot, q.result? ≠ some (.acquired (.ok slot))) →
        Alike (some id) { m with registry := some q.state } m' := by
    intro d wire r q hacquiring hr work hfails
    obtain ⟨r', hr', like⟩ := alike.exists_registry hr
    obtain ⟨task, -, -, hworking⟩ := hc.fits id _ hacquiring
    rw [backends_of_registry hr] at hworking
    exact alike.setRegistry_left hr'
      (like.beside (htidy r hr).assigned work (serves_of_working hworking) hfails)
  cases step with
  | malformed => exact .inl alike.erase_left
  | acquires hjob' hwire hr free began =>
      obtain ⟨r', hr', like⟩ := alike.exists_registry hr
      cases began with
      | acquire d => exact .inl ((alike.setRegistry_left hr' (like.resume_left _)).resume_left _)
  | goesDirect | opened => exact .inl (alike.resume_left _)
  | notOpened | called => exact .inl alike.erase_left
  | waited hjob' hat hr work more =>
      rw [hjob] at hjob'
      cases hjob'
      cases job with
      | acquiring d wire => exact .inl (hbeside hjob hr work fun slot hslot => nomatch more.symm.trans hslot)
      | preparing | opening | calling => cases hat
      | _ => cases hunserved
  | acquired => exact .inr ⟨_, Table.find?_insert_self _ _ _⟩
  | notAcquired hjob' hr work last =>
      exact .inl ((hbeside hjob' hr work fun slot hslot => nomatch last.symm.trans hslot).resume_left _)
  | fetched hjob' step =>
      rw [hjob] at hjob'
      cases hjob'
      cases step <;> cases hunserved
  | answered hjob' | overtaken hjob' | returned hjob' | flushed hjob' | followed hjob' | drains hjob'
  | drainsNothing hjob' | drained hjob' | stopsRefresh hjob' | stopsNothing hjob' | joined hjob' =>
      exact (hsame hjob' rfl).elim

/-- A call comes to be without a buffered backend only from where it has none. -/
theorem Called.isUnserved (step : Called m now id input p) {job : ManagerJob}
    (hjob : p.state.jobs.find? id = some job) (hunserved : job.isUnserved = true) :
    ∃ job, m.jobs.find? id = some job ∧ job.isUnserved = true := by
  have hinsert : ∀ {jobs : Table Nat ManagerJob} {mine : ManagerJob}, mine.isUnserved = false →
      (jobs.insert id mine).find? id = some job → False := by
    intro jobs mine hmine hfind
    rw [Table.find?_insert_self] at hfind
    cases hfind
    rw [hunserved] at hmine
    cases hmine
  have herase : ∀ {jobs : Table Nat ManagerJob}, (jobs.erase id).find? id = some job → False := by
    intro jobs hfind
    rw [Table.find?_erase_self] at hfind
    cases hfind
  cases step with
  | waited => exact ⟨job, hjob, hunserved⟩
  | acquires hjob' | goesDirect hjob' | notAcquired hjob' | opened hjob' => exact ⟨_, hjob', rfl⟩
  | fetched hjob' step =>
      cases step with
      | cached | uncached | missed | connected | fetchedFill => exact (hinsert rfl hjob).elim
      | _ => exact (herase hjob).elim
  | acquired | answered | overtaken | drains | drainsNothing | drained | stopsRefresh =>
      exact (hinsert rfl hjob).elim
  | malformed | returned | flushed | notOpened | called | followed | stopsNothing | joined =>
      exact (herase hjob).elim

/-! ## The run without it -/

/-- There is a run without the last task of a call: all that it leaves in the history of another run, seen from outside.
What the second run comes to is like what the first has come to, but for this call. -/
def Undone (start : Manager) (id : Nat) (h : Past) (m : Manager) : Prop :=
  ∃ h' m', Run system start h' m' ∧
    h'.map system.seen = (h.undo (.call id)).map system.seen ∧ Alike (some id) m m'

theorem marked_of_run (run : Run system (.new start limits settings) h m) : m.Marked :=
  fun r hr => (tidy_of_run run r hr).marked

/-- A task that another call is given can be given it in the run without the one. -/
theorem Undone.begins {start : Manager} (undone : Undone start id h m) {other : Nat} (hne : other ≠ id)
    {task : Task} (hbegin : m.begin? other task = some m') :
    Undone start id (.began (.call other) task :: h) m' := by
  obtain ⟨h₁, m₁, run₁, hseen, alike⟩ := undone
  obtain ⟨m₁', hbegin', alike'⟩ := alike.begins (fun heq => hne (Option.some.inj heq).symm) hbegin
  have hbegin' : system.begin? m₁ (.call other) task = some m₁' := hbegin'
  refine ⟨_, m₁', .begins run₁ hbegin', ?_, alike'⟩
  rw [History.undo_began_of_ne fun heq => hne (Actor.call.inj heq)]
  exact congrArg (List.cons _) hseen

/-- A step that another actor takes can be taken in the run without the one. -/
theorem Undone.steps (undone : Undone (.new start limits settings) id h m) (hne : actor ≠ .call id)
    (hstep : m.step now actor input = some p) :
    Undone (.new start limits settings) id (.stepped m now actor input p :: h) p.state := by
  obtain ⟨h₁, m₁, run₁, hseen, alike⟩ := undone
  have hother : ∀ id', some id = some id' → actor ≠ .call id' := by
    rintro id' heq
    cases heq
    exact hne
  obtain ⟨p₁, hstep₁, hshows, alike'⟩ := alike.exists_step (marked_of_run run₁) hother hstep
  refine ⟨_, p₁.state, .steps run₁ hstep₁, ?_, alike'⟩
  rw [History.undo_stepped_of_ne hne, List.map_cons, List.map_cons, hseen, hshows]

/-- **Every run goes without an authorization that has no buffered backend**, as long as it has none. -/
theorem undone_of_run (run : Run system (.new start limits settings) h m) : ∀ id job,
    m.jobs.find? id = some job → job.isUnserved = true → Undone (.new start limits settings) id h m := by
  induction run with
  | start => exact fun id job hjob => (nomatch hjob)
  | @begins h m m' actor task run hbegin ih =>
      intro id job hjob hunserved
      cases actor with
      | call other =>
          have hbegin : m.begin? other task = some m' := hbegin
          obtain ⟨hfree, rfl⟩ := eq_resume_of_begin? hbegin
          by_cases hother : other = id
          · subst hother
            refine ⟨h, m, run, ?_, ?_⟩
            · rw [History.undo_began_self]
            · exact (Alike.of_free (coherent_of_run run) (tidy_of_run run) hfree).resume_left _
          · rw [jobs_resume, Table.find?_insert, if_neg hother] at hjob
            exact (ih id job hjob hunserved).begins hother hbegin
      | flushLoop slot => cases hbegin
      | refreshLoop => cases hbegin
  | @steps h m now actor input p run hstep ih =>
      intro id job hjob hunserved
      have step := stepped_of_step hstep
      by_cases hother : actor = .call id
      · subst hother
        cases step with
        | called step =>
            obtain ⟨job₀, hjob₀, hunserved₀⟩ := step.isUnserved hjob hunserved
            obtain ⟨h₁, m₁, run₁, hseen, alike⟩ := ih id job₀ hjob₀ hunserved₀
            rcases step.alike alike (coherent_of_run run) (tidy_of_run run) hjob₀ hunserved₀ with
              alike' | ⟨slot, hslot⟩
            · refine ⟨h₁, m₁, run₁, ?_, alike'⟩
              rw [History.undo_stepped_self]
              exact hseen
            · rw [hjob] at hslot
              cases hslot
              cases hunserved
      · rw [step.others fun heq => hother heq] at hjob
        exact (ih id job hjob hunserved).steps hother hstep

/-! ## What comes after -/

/-- What can be looked at in two managers is the same. -/
structure LooksSame (m m' : Manager) : Prop where
  backendCount : m'.backendCount = m.backendCount
  slots : m'.backends.slots = m.backends.slots
  cache : m'.cache = m.cache
  gate : m'.gate = m.gate

/-- Nothing that happens from now on tells two managers apart: what can happen at one can happen at the other. -/
def SameFuture (m m' : Manager) : Prop :=
  (∀ since m₁, Run system m since m₁ → ∃ since' m₁', Run system m' since' m₁' ∧
    since'.map system.seen = since.map system.seen ∧ LooksSame m₁ m₁') ∧
  ∀ since' m₁', Run system m' since' m₁' → ∃ since m₁, Run system m since m₁ ∧
    since.map system.seen = since'.map system.seen ∧ LooksSame m₁ m₁'

theorem Alike.looksSame (alike : Alike gone m m') (htidy : ∀ r, m.registry = some r → Tidy r)
    (htidy' : ∀ r, m'.registry = some r → Tidy r) : LooksSame m m' := by
  cases hr : m.registry with
  | none =>
      have hr' := alike.registry_eq_none hr
      refine ⟨?_, ?_, alike.cache, alike.gate⟩
      · unfold backendCount
        rw [hr, hr']
      · rw [backends_congr (hr'.trans hr.symm)]
  | some r =>
      obtain ⟨r', hr', like⟩ := alike.exists_registry hr
      refine ⟨?_, ?_, alike.cache, alike.gate⟩
      · unfold backendCount
        simp only [hr, hr']
        rw [(htidy r hr).size, (htidy' r' hr').size, like.slots]
      · rw [backends_of_registry hr, backends_of_registry hr', like.slots]

/-- Whatever happens at one of two managers that nothing distinguishes can happen at the other. -/
theorem Alike.run (alike : Alike none m m') {h' since : Past} {m₁ : Manager}
    (run' : Run system (.new start limits settings) h' m') (run : Run system m since m₁) :
    ∃ since' m₁', Run system m' since' m₁' ∧ since'.map system.seen = since.map system.seen ∧
      Alike none m₁ m₁' := by
  have hother : ∀ {actor : Actor} (id : Nat), none = some id → actor ≠ .call id := nofun
  induction run with
  | start => exact ⟨[], m', .start, rfl, alike⟩
  | @begins since m₁ m₂ actor task run hbegin ih =>
      obtain ⟨since', m₁', runs, hseen, alike₁⟩ := ih
      cases actor with
      | call id =>
          obtain ⟨m₂', hbegin', alike₂⟩ := alike₁.begins nofun (show m₁.begin? id task = some m₂ from hbegin)
          have hbegin' : system.begin? m₁' (.call id) task = some m₂' := hbegin'
          exact ⟨_, m₂', .begins runs hbegin', congrArg (List.cons _) hseen, alike₂⟩
      | flushLoop slot => cases hbegin
      | refreshLoop => cases hbegin
  | @steps since m₁ now actor input p run hstep ih =>
      obtain ⟨since', m₁', runs, hseen, alike₁⟩ := ih
      have hmarked := marked_of_run (run'.trans runs)
      obtain ⟨p', hstep', hshows, alike₂⟩ := alike₁.exists_step hmarked hother hstep
      refine ⟨_, p'.state, .steps runs hstep', ?_, alike₂⟩
      rw [List.map_cons, List.map_cons, hseen, hshows]

theorem Alike.sameFuture (alike : Alike none m m') {h' : Past}
    (run : Run system (.new start limits settings) h m)
    (run' : Run system (.new start limits settings) h' m') : SameFuture m m' := by
  constructor
  · intro since m₁ runs
    obtain ⟨since', m₁', runs', hseen, alike'⟩ := alike.run run' runs
    exact ⟨since', m₁', runs', hseen,
      alike'.looksSame (tidy_of_run (run.trans runs)) (tidy_of_run (run'.trans runs'))⟩
  · intro since' m₁' runs'
    obtain ⟨since, m₁, runs, hseen, alike'⟩ := alike.symm.run run runs'
    exact ⟨since, m₁, runs, hseen,
      alike'.symm.looksSame (tidy_of_run (run.trans runs)) (tidy_of_run (run'.trans runs'))⟩

end Manager

end GatewayAuth
