import GatewayAuth.Proofs.Dispatch.Accounted

/-!
# `GatewayAuth.Proofs.Dispatch.Direct` — when an authorization goes to its backend directly

A manager without buffered backends checks limits and reports usage in one call to the backend. One with buffered
backends does so only for a call that could not have one: the client for it could not be built, or the backends had been
shut down. Such a call has reported it.

## Contents
- `want_eq_authrep`: who makes direct calls.
- `Unobtainable`, `FellBack`: how a call comes to do without a buffered backend.
- `Diverted`, `diverted_of_run`, `fellBack_of_consulted`: with buffered backends, nobody else makes direct calls.
-/

namespace GatewayAuth

/-- An acquisition that fails has been told that its client could not be built, or finds the backends shut down. -/
theorem Registry.Called.of_not_acquired {r : Registry} {now id : Nat} {input : Input}
    {q : Progress Registry Result Event} {d : String} {e : AuthorizerError}
    (work : Called r now (.call id) input q) (hworking : r.Working id (.acquire d))
    (last : q.result? = some (.acquired (.error e))) :
    (∃ e, r.want (.call id) = .client (.buffered d) ∧ input = .built (.error e)) ∨
      r.handles = none := by
  obtain ⟨job, hjob, hserves⟩ := hworking
  cases work with
  | turnedAway _ closed => exact .inr closed
  | builtLate _ closed => exact .inr closed
  | buildFailed building =>
      rw [building] at hjob
      cases hjob
      cases hserves
      refine .inl ⟨_, ?_, rfl⟩
      unfold want
      simp only [building]
  | _ => cases last

/-! ## Who makes direct calls -/

section
variable {d : String} {wire : Wire.Request}

theorem BufferedBackend.want_ne_authrep (b : BufferedBackend) (actor : Actor) :
    b.want actor ≠ .reply (.authrep d wire) := by
  unfold want
  split <;> nofun

theorem Registry.want_ne_authrep (r : Registry) (actor : Actor) :
    r.want actor ≠ .reply (.authrep d wire) := by
  unfold want
  split
  · split
    · nofun
    · split
      · split <;> nofun
      · nofun
      · exact BufferedBackend.want_ne_authrep _ _
  · split
    · nofun
    · split <;> nofun
    · nofun
    · split
      · exact BufferedBackend.want_ne_authrep _ _
      · nofun
    · split <;> nofun
    · nofun

namespace Manager

theorem wantRegistry_ne_authrep (m : Manager) (actor : Actor) :
    m.wantRegistry actor ≠ .reply (.authrep d wire) := by
  unfold wantRegistry
  split
  · exact Registry.want_ne_authrep _ _
  · nofun

/-- Only an authorization that has come so far makes a direct call. -/
theorem want_eq_authrep {m : Manager} {actor : Actor} (hwant : m.want actor = .reply (.authrep d wire)) :
    ∃ id, actor = .call id ∧ m.jobs.find? id = some (.calling d wire) := by
  unfold want at hwant
  split at hwant
  · exact absurd hwant (wantRegistry_ne_authrep m _)
  · unfold wantRefreshLoop at hwant
    split at hwant
    · cases hwant
    · split at hwant <;> cases hwant
    · split at hwant <;> cases hwant
    · cases hwant
  · next id =>
    refine ⟨id, rfl, ?_⟩
    split at hwant
    · cases hwant
    · cases hwant
    · cases hwant
    · exact absurd hwant (wantRegistry_ne_authrep m _)
    · exact absurd hwant (wantRegistry_ne_authrep m _)
    · exact absurd hwant (wantRegistry_ne_authrep m _)
    · exact absurd hwant (wantRegistry_ne_authrep m _)
    · cases hwant
    · next hjob => cases hwant; exact hjob
    · split at hwant <;> cases hwant
    · split at hwant <;> cases hwant
    · cases hwant

end Manager

end

/-! ## How a call comes to do without a buffered backend -/

namespace Manager

/-- At this moment a call that wants the buffered backend of `d` cannot have it: it is told that the client for it could
not be built, or the backends have been shut down. -/
def Unobtainable (m : Manager) (id : Nat) (d : String) (input : Input) : Prop :=
  (∃ e, m.want (.call id) = .client (.buffered d) ∧ input = .built (.error e)) ∨
    ∃ r, m.registry = some r ∧ r.handles = none

/-- Since it began, a call has wanted the buffered backend of `d` in vain, and has reported it. -/
def FellBack (id : Nat) (d : String) : Past → Prop
  | [] => False
  | .began actor _ :: h => actor ≠ .call id ∧ FellBack id d h
  | .stepped m _ actor input p :: h =>
    actor = .call id ∧ m.Unobtainable id d input ∧ .creationFailed d ∈ p.events ∨ FellBack id d h

variable {m : Manager} {h : Past} {now id : Nat} {actor : Actor} {input : Input} {d : String}
  {p : Progress Manager Result Event} {settings : DispatchSettings}

/-- With buffered backends, who goes to a backend directly has fallen back to that. -/
def Diverted (h : Past) (m : Manager) : Prop :=
  ∀ id job d, m.jobs.find? id = some job → job.direct? = some d → m.registry.isSome = true →
    FellBack id d h

/-- A step after which a call goes to a backend directly: it did so before, or it has just fallen back to that. -/
theorem Called.diverted (step : Called m now id input p) (hc : Coherent h m) {job : ManagerJob}
    (hjob : p.state.jobs.find? id = some job) (hdirect : job.direct? = some d)
    (hregistry : m.registry.isSome = true) :
    (∃ job, m.jobs.find? id = some job ∧ job.direct? = some d) ∨
      m.Unobtainable id d input ∧ .creationFailed d ∈ p.events := by
  cases step.goesDirect_of_job hjob hdirect with
  | unbuffered hr =>
      rw [hr] at hregistry
      cases hregistry
  | @fallsBack wire r e q hacquiring hr work last reported =>
      obtain ⟨task, -, -, hworking⟩ := hc.fits id _ hacquiring
      rw [backends_of_registry hr] at hworking
      refine .inr ⟨?_, reported⟩
      rcases work.of_not_acquired hworking last with ⟨e', hwant, hinput⟩ | hclosed
      · exact .inl ⟨e', (want_of_isAtRegistry hacquiring rfl hr).trans hwant, hinput⟩
      · exact .inr ⟨r, hr, hclosed⟩
  | opened hopening => exact .inl ⟨_, hopening, rfl⟩

/-- **With buffered backends, who goes to a backend directly has fallen back to that**, in every reachable state. -/
theorem diverted_of_run {start : Nat} {limits : Option CacheLimits}
    (run : Run system (.new start limits settings) h m) : Diverted h m := by
  induction run with
  | start => exact fun id job d hjob => (by cases hjob)
  | @begins h m m' actor task run hbegin ih =>
      cases actor with
      | call id =>
          obtain ⟨-, rfl⟩ := eq_resume_of_begin? hbegin
          intro other job d hjob hdirect hregistry
          rw [jobs_resume, Table.find?_insert] at hjob
          split at hjob
          · cases hjob
            cases task <;> cases hdirect
          · next hne =>
            exact ⟨fun heq => hne (Actor.call.inj heq), ih other job d hjob hdirect hregistry⟩
      | flushLoop slot => cases hbegin
      | refreshLoop => cases hbegin
  | @steps h m now actor input p run hstep ih =>
      have step := stepped_of_step hstep
      intro id job d hjob hdirect hregistry
      rw [step.registry_isSome] at hregistry
      by_cases hne : actor = .call id
      · subst hne
        cases step with
        | called step =>
            rcases step.diverted (coherent_of_run run) hjob hdirect hregistry with
              ⟨job', hjob', hdirect'⟩ | ⟨hunobtainable, hreported⟩
            · exact .inr (ih id job' d hjob' hdirect' hregistry)
            · exact .inl ⟨rfl, hunobtainable, hreported⟩
      · rw [step.others hne] at hjob
        exact .inr (ih id job d hjob hdirect hregistry)

section
variable {start : Nat} {limits : Option CacheLimits} {wire : Wire.Request} {c : Consultation}

theorem fellBack_of_consultedNow (run : Run system (.new start limits settings) h m)
    (hbuffered : settings.buffered = true) (hc : c ∈ consultedNow h (m.want (.call id)) input)
    (hcall : c.call = .authrep d wire) : FellBack id d c.before := by
  unfold consultedNow at hc
  split at hc
  · split at hc
    · next call hwant =>
      cases List.mem_singleton.1 hc
      cases hcall
      obtain ⟨id', heq, hjob⟩ := want_eq_authrep hwant
      cases heq
      exact diverted_of_run run id _ d hjob rfl ((registry_isSome_of_run run).trans hbuffered)
    · cases hc
  · cases hc

/-- **With buffered backends, who has asked a backend directly has fallen back to that.** -/
theorem fellBack_of_consulted (run : Run system (.new start limits settings) h m)
    (hbuffered : settings.buffered = true) (hc : c ∈ consulted id h)
    (hcall : c.call = .authrep d wire) : FellBack id d c.before := by
  induction run with
  | start => cases hc
  | begins run hbegin ih =>
      unfold consulted at hc
      split at hc
      · cases hc
      · exact ih hc
  | steps run hstep ih =>
      rw [consulted_stepped] at hc
      split at hc
      · next heq =>
        subst heq
        rcases List.mem_append.1 hc with hnew | hold
        · exact fellBack_of_consultedNow run hbuffered hnew hcall
        · exact ih hold
      · exact ih hc

end

end Manager

end GatewayAuth
