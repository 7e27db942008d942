import GatewayAuth.Proofs.Registry.Drained

/-!
# `GatewayAuth.Proofs.Registry.Cells` — the cells of destinations, and who has claimed them

Three parts of a registry are locked one after the other while a backend comes about: the table of cells, the cell of
the destination, and the list of handles. `Assigned` ties them together: a cell is claimed by the one call that builds
its backend, and the backend of a slot is the one in the cell of its destination. Seen from the cells, a step does one
of three things (`CellsMoved`), and none of them empties a cell that is filled.

## Contents
- `Registry.system`, `Stepped`: a registry with all that it can do.
- `Builds`, `Assigned`: the invariant, and its preservation by `Began` and `Stepped`.
- `CellsMoved`: what a step does to cells; `CellsMoved.find?`: what is in a cell stays there.
- `CellsMoved.size`: filled cells and slots are of one number.
-/

namespace GatewayAuth

/-- Whether a call is at the building of the backend for a destination. -/
def RegistryJob.IsBuilding : RegistryJob → String → Prop
  | .building d, d' => d' = d
  | .registering d, d' => d' = d
  | _, _ => False

namespace Registry

/-! ## The system -/

/-- A registry as a system of actors; tasks are given to calls only. -/
def system : System Registry Task Result Event :=
  ⟨fun r actor task =>
    match actor with
    | .call _ => r.begin? actor task
    | _ => none, want, step⟩

/-- What has happened at a registry. -/
abbrev Past := History Registry Task Result Event

variable {r r' : Registry} {now id : Nat} {actor : Actor} {input : Input} {d : String}
  {p : Progress Registry Result Event}

/-- What a step of any actor can be. -/
inductive Stepped (r : Registry) (now : Nat) :
    Actor → Input → Progress Registry Result Event → Prop where
  | called {id : Nat} {input : Input} {p : Progress Registry Result Event}
      (step : Called r now (.call id) input p) : Stepped r now (.call id) input p
  | looped {slot : Nat} {input : Input} {p : Progress Registry Result Event}
      (step : Looped r now slot input p) : Stepped r now (.flushLoop slot) input p

/-- Only who has a job takes steps of one. -/
theorem Called.has_job (h : Called r now actor input p) :
    ∃ job, r.jobs.find? actor = some job := by
  cases h <;> exact ⟨_, ‹_›⟩

/-- Every step is one of these cases, where only calls have jobs. -/
theorem stepped_of_step (hstep : r.step now actor input = some p)
    (hcalls : r.jobs.find? .refreshLoop = none) : Stepped r now actor input p := by
  unfold step at hstep
  cases actor with
  | call id => exact .called (called_of_stepCall hstep)
  | flushLoop slot => exact .looped (looped_of_stepLoop hstep)
  | refreshLoop =>
      obtain ⟨job, hjob⟩ := (called_of_stepCall hstep).has_job
      rw [hcalls] at hjob
      cases hjob

/-! ## Cells, builders and slots -/

/-- An actor is building the backend for a destination. -/
def Builds (r : Registry) (actor : Actor) (d : String) : Prop :=
  ∃ job, r.jobs.find? actor = some job ∧ job.IsBuilding d

/-- What cells, jobs and slots know of each other. -/
structure Assigned (r : Registry) : Prop where
  /-- A cell is claimed by who builds its backend, and by nobody else. -/
  claims : ∀ d actor, r.cells.find? d = some (.claimed actor) ↔ r.Builds actor d
  /-- The backend of a slot is the one in the cell of its destination. -/
  slots : ∀ (i : Nat) (s : Slot), r.slots[i]? = some s →
    r.cells.find? s.backend.destination = some (.filled i)
  /-- Only calls have jobs here. -/
  calls : r.jobs.find? .refreshLoop = none

theorem builds_congr (hjob : r'.jobs.find? actor = r.jobs.find? actor) (d : String) :
    r'.Builds actor d ↔ r.Builds actor d := by
  unfold Builds
  rw [hjob]

/-- Who has another job, or none, builds nothing. -/
theorem not_builds (hjob : ∀ job, r.jobs.find? actor = some job → ¬ job.IsBuilding d) :
    ¬ r.Builds actor d := by
  rintro ⟨job, hfind, hbuilding⟩
  exact hjob job hfind hbuilding

theorem builds_iff_of_job {job : RegistryJob} (hjob : r.jobs.find? actor = some job)
    (d : String) : r.Builds actor d ↔ job.IsBuilding d := by
  constructor
  · rintro ⟨job', hjob', hbuilding⟩
    rw [hjob] at hjob'
    cases hjob'
    exact hbuilding
  · intro hbuilding
    exact ⟨job, hjob, hbuilding⟩

theorem not_builds_release (r : Registry) (actor : Actor) (d : String) :
    ¬ (r.release actor).Builds actor d := by
  apply not_builds
  intro job hjob
  rw [jobs_release, Table.find?_erase_self] at hjob
  cases hjob

theorem builds_resume_iff (r : Registry) (actor : Actor) (job : RegistryJob) (d : String) :
    (r.resume actor job).Builds actor d ↔ job.IsBuilding d :=
  builds_iff_of_job (Table.find?_insert_self _ _ _) d

/-- A step that changes neither cells nor destinations keeps the invariant, where its call builds what it built
before. -/
theorem Assigned.of_same_cells (ha : r.Assigned) (hcells : r'.cells = r.cells)
    (hslots : ∀ (i : Nat) (s' : Slot), r'.slots[i]? = some s' →
      ∃ s, r.slots[i]? = some s ∧ s'.backend.destination = s.backend.destination)
    (hothers : ∀ other, other ≠ .call id → r'.jobs.find? other = r.jobs.find? other)
    (hbuilds : ∀ d, r'.Builds (.call id) d ↔ r.Builds (.call id) d) : r'.Assigned := by
  constructor
  case claims =>
    intro d actor
    rw [hcells, ha.claims]
    by_cases hactor : actor = .call id
    · rw [hactor]
      exact (hbuilds d).symm
    · exact (builds_congr (hothers actor hactor) d).symm
  case slots =>
    intro i s' hs'
    obtain ⟨s, hs, hd⟩ := hslots i s' hs'
    rw [hcells, hd]
    exact ha.slots i s hs
  case calls =>
    rw [hothers .refreshLoop nofun]
    exact ha.calls

/-- A step that puts something else into a cell that is not filled keeps the invariant, where nobody but its call has
to do with the cell before and after it. -/
theorem Assigned.of_setCell (ha : r.Assigned) {c : Cell}
    (hcells : r'.cells = r.cells.insert d c)
    (hnot : ∀ i, r.cells.find? d ≠ some (.filled i))
    (hfree : ∀ actor, actor ≠ .call id → r.cells.find? d ≠ some (.claimed actor))
    (hslots : ∀ (i : Nat) (s : Slot), r'.slots[i]? = some s →
      r.slots[i]? = some s ∨ s.backend.destination = d ∧ c = .filled i)
    (hothers : ∀ other, other ≠ .call id → r'.jobs.find? other = r.jobs.find? other)
    (hbefore : ∀ d', r.Builds (.call id) d' → d' = d)
    (hafter : ∀ d', r'.Builds (.call id) d' ↔ d' = d ∧ c = .claimed (.call id))
    (hcell : ∀ actor, c = .claimed actor → actor = .call id) : r'.Assigned := by
  constructor
  case claims =>
    intro d' actor
    rw [hcells, Table.find?_insert]
    by_cases hd : d = d'
    · subst hd
      rw [if_pos rfl]
      by_cases hactor : actor = .call id
      · subst hactor
        rw [hafter, Option.some.injEq]
        exact ⟨fun h => ⟨rfl, h⟩, And.right⟩
      · -- nobody else has claimed the cell, before and after the step
        rw [builds_congr (hothers actor hactor), ← ha.claims, Option.some.injEq]
        exact ⟨fun h => absurd (hcell actor h) hactor, fun h => absurd h (hfree actor hactor)⟩
    · rw [if_neg hd, ha.claims]
      by_cases hactor : actor = .call id
      · subst hactor
        rw [hafter]
        exact ⟨fun h => absurd (hbefore d' h).symm hd, fun h => absurd h.1.symm hd⟩
      · exact (builds_congr (hothers actor hactor) d').symm
  case slots =>
    intro i s hs
    rw [hcells, Table.find?_insert]
    rcases hslots i s hs with hold | ⟨hd, hfilled⟩
    · have hfilled := ha.slots i s hold
      by_cases hd : d = s.backend.destination
      · rw [← hd] at hfilled
        exact absurd hfilled (hnot i)
      · rw [if_neg hd]
        exact hfilled
    · rw [if_pos hd.symm, hfilled]
  case calls =>
    rw [hothers .refreshLoop nofun]
    exact ha.calls

/-- The slots of a registry keep their destinations when one of them changes without moving. -/
theorem destinations_set {slot : Nat} {s : Slot} {backend : BufferedBackend} {loop : FlushLoop}
    (hslot : r.slots[slot]? = some s) (hd : backend.destination = s.backend.destination)
    (i : Nat) (s' : Slot) (hs' : (r.slots.set slot ⟨backend, loop⟩)[i]? = some s') :
    ∃ s, r.slots[i]? = some s ∧ s'.backend.destination = s.backend.destination := by
  by_cases hi : slot = i
  · subst hi
    rw [List.getElem?_set_self (List.getElem?_eq_some_iff.1 hslot).1] at hs'
    cases hs'
    exact ⟨s, hslot, hd⟩
  · rw [List.getElem?_set_ne hi] at hs'
    exact ⟨s', hs', rfl⟩

theorem Began.assigned {task : Task} (h : Began r (.call id) task r')
    (free : r.jobs.find? (.call id) = none) (ha : r.Assigned) : r'.Assigned := by
  have hothers := fun other hne => @h.others _ _ _ _ other hne
  have hbefore : ∀ d, ¬ r.Builds (.call id) d := by
    intro d
    apply not_builds
    rw [free]
    nofun
  have hsame : ∀ (i : Nat) (s : Slot), r.slots[i]? = some s →
      ∃ s', r.slots[i]? = some s' ∧ s.backend.destination = s'.backend.destination :=
    fun i s hs => ⟨s, hs, rfl⟩
  cases h with
  | acquire d₀ | shutdown =>
      refine ha.of_same_cells rfl hsame hothers ?_
      intro d
      rw [builds_resume_iff]
      exact iff_of_false False.elim (hbefore d)
  | use work hslot hfree =>
      refine ha.of_same_cells rfl (destinations_set hslot rfl) hothers ?_
      intro d
      rw [builds_resume_iff]
      exact iff_of_false False.elim (hbefore d)

/-- **A step of a call keeps the invariant.** -/
theorem Called.assigned (h : Called r now (.call id) input p) (ha : r.Assigned) :
    p.state.Assigned := by
  have hothers := fun other hne => @h.others _ _ _ _ _ other hne
  have hsame : ∀ (i : Nat) (s : Slot), r.slots[i]? = some s →
      ∃ s', r.slots[i]? = some s' ∧ s.backend.destination = s'.backend.destination :=
    fun i s hs => ⟨s, hs, rfl⟩
  have hkept : ∀ {d : String} {cell : Cell} (i : Nat) (s : Slot), r.slots[i]? = some s →
      r.slots[i]? = some s ∨ s.backend.destination = d ∧ cell = .filled i :=
    fun i s hs => .inl hs
  cases h with
  | turnedAway job | found job | tookNothing job | joined job =>
      refine ha.of_same_cells rfl hsame hothers ?_
      intro d
      refine iff_of_false (not_builds_release r _ d) ?_
      rw [builds_iff_of_job job]
      exact False.elim
  | checked job | entered job | took job | signalled job =>
      refine ha.of_same_cells rfl hsame hothers ?_
      intro d
      rw [Progress.quiet, builds_resume_iff, builds_iff_of_job job]
      exact iff_of_false False.elim False.elim
  | @built d₀ job =>
      refine ha.of_same_cells rfl hsame hothers ?_
      intro d
      rw [Progress.quiet, builds_resume_iff, builds_iff_of_job job]
      simp [RegistryJob.IsBuilding]
  | @worked slot s _ q job hslot work more =>
      refine ha.of_same_cells rfl (destinations_set hslot work.destination) hothers ?_
      exact fun d => builds_congr rfl d
  | @used slot s _ q result job hslot work last =>
      refine ha.of_same_cells rfl (destinations_set hslot work.destination) hothers ?_
      intro d
      refine iff_of_false (not_builds_release _ _ d) ?_
      rw [builds_iff_of_job job]
      exact False.elim
  | @enteredFirst d₀ job unknown =>
      have hnone := Table.contains_eq_false_iff.1 unknown
      have hbuilds : ∀ d, ¬ r.Builds (.call id) d := by
        intro d
        rw [builds_iff_of_job job]
        exact False.elim
      refine ha.of_setCell (c := .vacant) rfl (fun _ h => by cases hnone.symm.trans h)
        (fun _ _ h => by cases hnone.symm.trans h)
        hkept hothers (fun d hd => absurd hd (hbuilds d)) ?_ (fun _ h => by cases h)
      intro d
      rw [Progress.quiet, builds_resume_iff]
      exact iff_of_false False.elim (fun h => by cases h.2)
  | @claimed d₀ job cell =>
      have hbuilds : ∀ d, ¬ r.Builds (.call id) d := by
        intro d
        rw [builds_iff_of_job job]
        exact False.elim
      refine ha.of_setCell (c := .claimed (.call id)) rfl (fun _ h => by cases cell.symm.trans h)
        (fun _ _ h => by cases cell.symm.trans h) hkept hothers (fun d hd => absurd hd (hbuilds d)) ?_ ?_
      · intro d
        rw [Progress.quiet, builds_resume_iff]
        simp [RegistryJob.IsBuilding, eq_comm]
      · intro actor hactor
        cases hactor
        rfl
  | @buildFailed d₀ e job =>
      have hmine := (ha.claims d₀ (.call id)).2 ⟨_, job, rfl⟩
      refine ha.of_setCell (c := .vacant) rfl (fun _ h => by cases hmine.symm.trans h) ?_ hkept hothers ?_ ?_ (fun _ h => by cases h)
      · intro actor hne hclaimed
        rw [hmine] at hclaimed
        cases hclaimed
        exact hne rfl
      · intro d hbuilds
        rw [builds_iff_of_job job] at hbuilds
        exact hbuilds
      · exact fun d => iff_of_false (not_builds_release _ _ d) (fun h => by cases h.2)
  | @builtLate d₀ job closed =>
      have hmine := (ha.claims d₀ (.call id)).2 ⟨_, job, rfl⟩
      refine ha.of_setCell (c := .vacant) rfl (fun _ h => by cases hmine.symm.trans h) ?_ hkept hothers ?_ ?_ (fun _ h => by cases h)
      · intro actor hne hclaimed
        rw [hmine] at hclaimed
        cases hclaimed
        exact hne rfl
      · intro d hbuilds
        rw [builds_iff_of_job job] at hbuilds
        exact hbuilds
      · exact fun d => iff_of_false (not_builds_release _ _ d) (fun h => by cases h.2)
  | @opened d₀ handles job hhandles =>
      have hmine := (ha.claims d₀ (.call id)).2 ⟨_, job, rfl⟩
      refine ha.of_setCell (c := .filled r.slots.length) rfl (fun _ h => by cases hmine.symm.trans h) ?_ ?_
        hothers ?_ ?_ (fun _ h => by cases h)
      · intro actor hne hclaimed
        rw [hmine] at hclaimed
        cases hclaimed
        exact hne rfl
      · -- the new slot comes after all others
        intro i s hs
        have hs : (r.slots ++ [_])[i]? = some s := hs
        by_cases hi : i < r.slots.length
        · rw [List.getElem?_append_left hi] at hs
          exact .inl hs
        · rw [List.getElem?_append_right (Nat.le_of_not_lt hi), List.getElem?_singleton] at hs
          split at hs
          · next hzero =>
            cases hs
            refine .inr ⟨rfl, ?_⟩
            rw [show i = r.slots.length by omega]
          · cases hs
      · intro d hbuilds
        rw [builds_iff_of_job job] at hbuilds
        exact hbuilds
      · exact fun d => iff_of_false (not_builds_release _ _ d) (fun h => by cases h.2)

theorem Looped.assigned {slot : Nat} (h : Looped r now slot input p) (ha : r.Assigned) :
    p.state.Assigned := by
  have hjobs : ∀ actor, p.state.jobs.find? actor = r.jobs.find? actor := by
    intro actor
    rw [h.jobs]
  have hbuilds := fun d => builds_congr (hjobs (.call 0)) d
  have hothers : ∀ other, other ≠ .call 0 → p.state.jobs.find? other = r.jobs.find? other :=
    fun other _ => hjobs other
  cases h with
  | ticked hslot | told hslot =>
      exact ha.of_same_cells rfl (destinations_set hslot rfl) hothers hbuilds
  | worked hslot busy work | flushed hslot busy work =>
      exact ha.of_same_cells rfl (destinations_set hslot work.destination) hothers hbuilds

theorem Stepped.assigned (h : Stepped r now actor input p) (ha : r.Assigned) :
    p.state.Assigned := by
  cases h with
  | called step => exact step.assigned ha
  | looped step => exact step.assigned ha

theorem assigned_new (policy : FailurePolicy) (flushEvery : Nat) :
    (new policy flushEvery).Assigned :=
  ⟨fun _ _ => ⟨nofun, fun ⟨_, hjob, _⟩ => by cases hjob⟩, nofun, rfl⟩

theorem Stepped.sound (h : Stepped r now actor input p) (hr : r.Sound) : p.state.Sound := by
  cases h with
  | called step => exact step.sound hr
  | looped step => exact step.sound hr

/-! ## What becomes of cells -/

/-- What a step does to the cells, and to the number of slots: nothing, a change among cells that are not filled, or
the filling of a cell with a new slot. -/
inductive CellsMoved (r : Registry) : Registry → Prop where
  | kept {r' : Registry} (hcells : r'.cells = r.cells) (hslots : r'.slots.length = r.slots.length) :
      CellsMoved r r'
  | changed {r' : Registry} {d : String} {cell : Cell}
      (hcells : r'.cells = r.cells.insert d cell) (hcell : cell.isFilled = false)
      (hnot : ∀ i, r.cells.find? d ≠ some (.filled i))
      (hslots : r'.slots.length = r.slots.length) : CellsMoved r r'
  | filled {r' : Registry} {d : String} {handles : List Nat}
      (hcells : r'.cells = r.cells.insert d (.filled r.slots.length))
      (hnot : ∀ i, r.cells.find? d ≠ some (.filled i)) (hhandles : r.handles = some handles)
      (hslots : r'.slots.length = r.slots.length + 1) : CellsMoved r r'

/-- The cell of a backend that is being built is not filled. -/
theorem Assigned.not_filled (ha : r.Assigned) (hbuilds : r.Builds actor d) (i : Nat) :
    r.cells.find? d ≠ some (.filled i) := by
  rw [(ha.claims d actor).2 hbuilds]
  nofun

theorem Began.cells {task : Task} (h : Began r actor task r') : CellsMoved r r' := by
  cases h with
  | use work hslot free => exact .kept rfl List.length_set
  | acquire | shutdown => exact .kept rfl rfl

theorem Stepped.cells (h : Stepped r now actor input p) (ha : r.Assigned) :
    CellsMoved r p.state := by
  cases h with
  | called step =>
      cases step with
      | enteredFirst job unknown =>
          refine .changed rfl rfl ?_ rfl
          rw [Table.contains_eq_false_iff.1 unknown]
          nofun
      | claimed job cell =>
          refine .changed rfl rfl ?_ rfl
          rw [cell]
          nofun
      | buildFailed job => exact .changed rfl rfl (ha.not_filled ⟨_, job, rfl⟩) rfl
      | builtLate job closed => exact .changed rfl rfl (ha.not_filled ⟨_, job, rfl⟩) rfl
      | opened job hhandles =>
          exact .filled rfl (ha.not_filled ⟨_, job, rfl⟩) hhandles List.length_append
      | worked | used => exact .kept rfl List.length_set
      | _ => exact .kept rfl rfl
  | looped step => cases step <;> exact .kept rfl List.length_set

/-- **What is in a cell stays there.** -/
theorem CellsMoved.find? (h : CellsMoved r r') {slot : Nat}
    (hfilled : r.cells.find? d = some (.filled slot)) : r'.cells.find? d = some (.filled slot) := by
  cases h with
  | kept hcells => rwa [hcells]
  | @changed d' cell hcells hcell hnot | @filled d' handles hcells hnot =>
      rw [hcells, Table.find?_insert]
      by_cases hd : d' = d
      · subst hd
        exact absurd hfilled (hnot slot)
      · rwa [if_neg hd]

/-! ## The number of backends -/

/-- What a cell adds to the number of backends. -/
def share (_ : String) (cell : Cell) : Int := if cell.isFilled then 1 else 0

theorem size_eq_sumOf (r : Registry) : (r.size : Int) = r.cells.sumOf share := by
  unfold size Table.values Table.sumOf Assoc.sumOf
  induction r.cells.toList with
  | nil => rfl
  | cons e rest ih =>
      rw [List.map_cons, List.map_cons, List.sum_cons, ← ih]
      unfold share
      by_cases hfilled : e.2.isFilled = true
      · rw [List.filter_cons_of_pos hfilled, List.length_cons, if_pos hfilled]
        omega
      · rw [List.filter_cons_of_neg hfilled, if_neg hfilled]
        omega

/-- A cell that is not filled counts for nothing, so that a change of it counts for what it is changed to. -/
theorem size_insert {cell : Cell} (hcells : r'.cells = r.cells.insert d cell)
    (hnot : ∀ i, r.cells.find? d ≠ some (.filled i)) : (r'.size : Int) = r.size + share d cell := by
  have hold : (r.cells.find? d).elim 0 (share d) = 0 := by
    cases hcell : r.cells.find? d with
    | none => rfl
    | some cell =>
        cases cell with
        | filled i => exact absurd hcell (hnot i)
        | vacant => rfl
        | claimed owner => rfl
  have hsum := Table.sumOf_insert share r.cells d cell
  rw [hold, ← hcells, ← size_eq_sumOf, ← size_eq_sumOf] at hsum
  omega

/-- A step makes as many slots as it fills cells. -/
theorem CellsMoved.size (h : CellsMoved r r') (hsize : r.size = r.slots.length) :
    r'.size = r'.slots.length := by
  cases h with
  | kept hcells hslots =>
      rw [hslots, ← hsize]
      unfold Registry.size
      rw [hcells]
  | changed hcells hcell hnot hslots =>
      have hsum := size_insert hcells hnot
      rw [share, hcell] at hsum
      simp only [Bool.false_eq_true, if_false] at hsum
      omega
  | filled hcells hnot hhandles hslots =>
      have hsum := size_insert hcells hnot
      simp only [share, Cell.isFilled, if_true] at hsum
      omega

end Registry

end GatewayAuth
