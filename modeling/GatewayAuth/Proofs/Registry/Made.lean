import GatewayAuth.Proofs.Registry.Steps

/-!
# `GatewayAuth.Proofs.Registry.Made` — how the backends of a registry were made

A registry makes all of its backends alike: with its own policy, and for a destination for which a client has been
built. Nothing that happens later changes either of the two.

## Contents
- `BufferedBackend.Stepped.policy`: a backend keeps its policy.
- `Registry.Made`: what all backends have in common; `made_new`: at the start.
- `Began.made`, `Called.made`, `Looped.made`: how tasks and steps keep it.
-/

namespace GatewayAuth

theorem BufferedBackend.policy_next (b : BufferedBackend) (actor : Actor) (summary : FlushSummary)
    (rest : List Wire.Batch) : (b.next actor summary rest).state.policy = b.policy := by
  cases rest <;> rfl

/-- A backend keeps its policy. -/
theorem BufferedBackend.Stepped.policy {b : BufferedBackend} {actor : Actor} {input : Input}
    {p : Progress BufferedBackend Result Event} (h : Stepped b actor input p) :
    p.state.policy = b.policy := by
  cases h with
  | denied | granted | failed | overridden | recorded | refused => rfl
  | drained | accepted | requeued => exact policy_next _ _ _ _

namespace Registry

/-- What the backends of a registry have in common: the policy, and that `built` is true of their destinations, as it is
of the destinations of those that are about to be made. -/
structure Made (policy : FailurePolicy) (built : String → Prop) (r : Registry) : Prop where
  alike : r.policy = policy
  slots : ∀ (i : Nat) (s : Slot), r.slots[i]? = some s →
    s.backend.policy = policy ∧ built s.backend.destination
  registering : ∀ actor d, r.jobs.find? actor = some (.registering d) → built d

variable {policy : FailurePolicy} {built : String → Prop} {r r' : Registry} {now : Nat}
  {actor : Actor} {input : Input} {p : Progress Registry Result Event}

theorem made_new (policy : FailurePolicy) (built : String → Prop) (flushEvery : Nat) :
    (new policy flushEvery).Made policy built :=
  ⟨rfl, fun _ _ hs => (by cases hs), fun _ _ hjob => (by cases hjob)⟩

/-- A slot keeps how it was made through a move at it. -/
theorem Made.set (hr : r.Made policy built) {slot : Nat} {s s' : Slot}
    (hs : r.slots[slot]? = some s) (hpolicy : s'.backend.policy = s.backend.policy)
    (hd : s'.backend.destination = s.backend.destination) : (r.setSlot slot s').Made policy built := by
  refine ⟨hr.alike, fun i t ht => ?_, hr.registering⟩
  by_cases hi : slot = i
  · subst hi
    have ht : (r.slots.set slot s')[slot]? = some t := ht
    rw [List.getElem?_set_self (List.getElem?_eq_some_iff.1 hs).1] at ht
    cases ht
    rw [hpolicy, hd]
    exact hr.slots slot s hs
  · have ht : (r.slots.set slot s')[i]? = some t := ht
    rw [List.getElem?_set_ne hi] at ht
    exact hr.slots i t ht

/-- An actor comes to another phase; where that is the last one before a backend is made, its client has been built. -/
theorem Made.resume (hr : r.Made policy built) (actor : Actor) {job : RegistryJob}
    (hjob : ∀ d, job = .registering d → built d) : (r.resume actor job).Made policy built := by
  refine ⟨hr.alike, hr.slots, fun other d hother => ?_⟩
  rw [jobs_resume, Table.find?_insert] at hother
  split at hother
  · exact hjob d (Option.some.inj hother)
  · exact hr.registering other d hother

theorem Made.release (hr : r.Made policy built) (actor : Actor) :
    (r.release actor).Made policy built := by
  refine ⟨hr.alike, hr.slots, fun other d hother => ?_⟩
  rw [jobs_release, Table.find?_erase] at hother
  split at hother
  · cases hother
  · exact hr.registering other d hother

/-- Neither the cells nor the handles have to do with how backends are made. -/
theorem Made.setCell (hr : r.Made policy built) (d : String) (cell : Cell) :
    (r.setCell d cell).Made policy built := ⟨hr.alike, hr.slots, hr.registering⟩

/-- A new slot has a backend of the policy of the registry. -/
theorem Made.openSlot (hr : r.Made policy built) {d : String} (hd : built d) (handles : List Nat) :
    (r.openSlot now handles d).Made policy built := by
  refine ⟨hr.alike, fun i s hs => ?_, hr.registering⟩
  have hs : (r.slots ++ [⟨.new d r.policy, .idle (now + r.flushEvery)⟩])[i]? = some s := hs
  by_cases hi : i < r.slots.length
  · rw [List.getElem?_append_left hi] at hs
    exact hr.slots i s hs
  · rw [List.getElem?_append_right (Nat.le_of_not_lt hi), List.getElem?_singleton] at hs
    split at hs
    · cases hs
      exact ⟨hr.alike, hd⟩
    · cases hs

theorem Began.made {task : Task} (h : Began r actor task r') (hr : r.Made policy built) :
    r'.Made policy built := by
  cases h with
  | acquire d => exact hr.resume actor nofun
  | shutdown => exact hr.resume actor nofun
  | use work hslot free =>
      refine Made.resume ?_ actor nofun
      exact hr.set hslot rfl rfl

/-- What a call lets be built is what it then makes. -/
theorem Called.made {id : Nat} (h : Called r now (.call id) input p) (hr : r.Made policy built)
    (hbuilt : ∀ d, r.want (.call id) = .client (.buffered d) → input = .built (.ok ()) → built d) :
    p.state.Made policy built := by
  cases h with
  | turnedAway | found | tookNothing | joined => exact hr.release _
  | checked | entered => exact hr.resume _ fun d' hd' => (by cases hd')
  | enteredFirst | claimed => exact (hr.setCell _ _).resume _ fun d' hd' => (by cases hd')
  | @built d job =>
      refine hr.resume _ fun d' hd' => ?_
      cases hd'
      refine hbuilt d ?_ rfl
      unfold want
      simp only [job]
  | buildFailed | builtLate => exact (hr.setCell _ _).release _
  | opened job hhandles => exact (hr.openSlot (hr.registering _ _ job) _).release _
  | worked job hslot work => exact hr.set hslot work.policy work.destination
  | used job hslot work => exact (hr.set hslot work.policy work.destination).release _
  | took job hhandles =>
      have hr' : ({ r with handles := none } : Registry).Made policy built :=
        ⟨hr.alike, hr.slots, hr.registering⟩
      exact hr'.resume _ fun d' hd' => (by cases hd')
  | signalled job =>
      have hr' : ({ r with stopping := true } : Registry).Made policy built :=
        ⟨hr.alike, hr.slots, hr.registering⟩
      exact hr'.resume _ fun d' hd' => (by cases hd')

theorem Looped.made {slot : Nat} (h : Looped r now slot input p) (hr : r.Made policy built) :
    p.state.Made policy built := by
  cases h with
  | ticked hslot | told hslot => exact hr.set hslot rfl rfl
  | worked hslot busy work | flushed hslot busy work =>
      exact hr.set hslot work.policy work.destination

end Registry

end GatewayAuth
