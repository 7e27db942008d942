import GatewayAuth.Proofs.Registry.Sound

/-!
# `GatewayAuth.Proofs.Registry.Drained` — how far a shutdown of the registry has got

A registry is drained once its handles have been taken and every loop has exited. It stays so: without handles no
slot is opened, and a loop that has exited does nothing any more.

## Contents
- `Drained`, and its preservation by `Began`, `Called` and `Looped`.
- `Called.drained_of_stopped`: the shutdown that takes the handles comes back to a drained registry.
-/

namespace GatewayAuth.Registry

/-- The handles have been taken and every loop has exited. -/
structure Drained (r : Registry) : Prop where
  taken : r.handles = none
  exited : ∀ (i : Nat) (s : Slot), r.slots[i]? = some s → s.loop = .exited

variable {r r' : Registry} {now id : Nat} {actor : Actor} {input : Input}
  {p : Progress Registry Result Event}

/-! ## Handles -/

theorem Began.handles {task : Task} (h : Began r actor task r') : r'.handles = r.handles := by
  cases h <;> rfl

theorem Looped.handles {slot : Nat} (h : Looped r now slot input p) :
    p.state.handles = r.handles := by
  cases h <;> rfl

/-- Handles that have been taken do not come back. -/
theorem Called.handles_of_none (h : Called r now actor input p) (hnone : r.handles = none) :
    p.state.handles = none := by
  cases h with
  | opened job hhandles => rw [hnone] at hhandles; cases hhandles
  | took job hhandles => rfl
  | _ => exact hnone

/-- Only a shutdown takes the handles. -/
theorem Called.handles_of_some (h : Called r now actor input p) (hsome : r.handles ≠ none)
    (hjob : r.jobs.find? actor ≠ some .taking) : p.state.handles ≠ none := by
  cases h with
  | opened job hhandles => nofun
  | took job hhandles => exact absurd job hjob
  | _ => exact hsome

/-- A step without a result does not lead back to the taking of handles. -/
theorem Called.ne_taking (h : Called r now actor input p) (more : p.result? = none) :
    p.state.jobs.find? actor ≠ some .taking := by
  cases h with
  | worked job hslot work more => exact fun h => by cases job.symm.trans h
  | checked | entered | enteredFirst | claimed | built | took | signalled =>
      rw [Progress.quiet, jobs_resume, Table.find?_insert_self]
      intro h
      cases h
  | _ => cases more

/-! ## Loops -/

/-- Loops that have exited stay so, and without handles there are no new ones. -/
theorem SlotsMoved.exited {slots : List Slot} {events : List Event}
    (h : SlotsMoved r actor input slots events) (hr : r.Drained) (i : Nat) (s : Slot)
    (hs : slots[i]? = some s) : s.loop = .exited := by
  cases h with
  | kept => exact hr.exited i s hs
  | opened d due hhandles => rw [hr.taken] at hhandles; cases hhandles
  | @moved slot s₀ s' events hslot move =>
      have hexited := hr.exited slot s₀ hslot
      by_cases hi : slot = i
      · subst hi
        rw [List.getElem?_set_self (List.getElem?_eq_some_iff.1 hslot).1] at hs
        cases hs
        -- a loop that has exited is neither woken nor in a flush
        cases move with
        | begun hcall work free => exact hexited
        | woken hloop idle free hwoken => rw [hexited] at idle; cases idle
        | worked who work => exact hexited
        | flushed hloop busy work last => rw [hexited] at busy; cases busy
      · rw [List.getElem?_set_ne hi] at hs
        exact hr.exited i s hs

theorem Began.drained {task : Task} (h : Began r (.call id) task r') (hr : r.Drained) :
    r'.Drained :=
  ⟨h.handles.trans hr.taken, (h.slotsMoved .turn).exited hr⟩

theorem Called.drained (h : Called r now (.call id) input p) (hr : r.Drained) :
    p.state.Drained :=
  ⟨h.handles_of_none hr.taken, h.slotsMoved.exited hr⟩

theorem Looped.drained {slot : Nat} (h : Looped r now slot input p) (hr : r.Drained) :
    p.state.Drained :=
  ⟨h.handles.trans hr.taken, h.slotsMoved.exited hr⟩

/-- **A shutdown that has taken the handles comes back to a drained registry.** It has waited for the loops of all
slots, and no slot has been opened since it took the handles. -/
theorem Called.drained_of_stopped (h : Called r now actor input p) (hr : r.Sound)
    (htakes : r.jobs.find? actor = some .taking → r.handles ≠ none)
    (last : p.result? = some .stopped) : p.state.Drained := by
  cases h with
  | tookNothing job closed => exact absurd closed (htakes job)
  | @joined handles job exited =>
      -- it has waited for the loops of all slots that there are
      obtain ⟨stop, rfl⟩ := hr.jobs _ _ job
      refine ⟨hr.taken stop, fun i s hs => ?_⟩
      have hs : r.slots[i]? = some s := hs
      have hi := List.all_eq_true.1 exited i
        (List.mem_range.2 (List.getElem?_eq_some_iff.1 hs).1)
      unfold hasExited at hi
      rw [hs] at hi
      exact beq_iff_eq.1 hi
  | _ => cases last

end GatewayAuth.Registry
