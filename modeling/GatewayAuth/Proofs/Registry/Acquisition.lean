import GatewayAuth.Proofs.Registry.Cells

/-!
# `GatewayAuth.Proofs.Registry.Acquisition` — acquiring a backend comes to an end

A call that acquires a backend waits for another one only at a cell that the other has claimed. Where nobody has, it
goes through its phases one after the other, whatever its builder is told, and comes to a slot or to a failure.

## Contents
- `Want.Allows`: what an actor can be told.
- `RegistryJob.phasesLeft`: the phases that an acquisition has before it; `Clear`: nobody is in its way.
- `exists_step_of_clear`, `Called.clear`, `Called.acquired_of_clear`: it goes on until it comes to an answer.
- `LoopsIdle`: only calls have jobs at a registry.
- `exists_begin?_use`: work at a backend that has been acquired can begin.
-/

namespace GatewayAuth

/-- Whether an actor that waits for something can be told `input`. -/
def Want.Allows : Want → Input → Prop
  | .turn, .turn => True
  | .tick _, .tick => True
  | .client _, .built _ => True
  | .reply (.fetch _ _ _ _), .fetched _ => True
  | .reply (.authorize _ _), .answered _ => True
  | .reply (.authrep _ _), .answered _ => True
  | .reply (.report _ _), .reported _ => True
  | _, _ => False

/-- The phases that an acquisition has before it. -/
def RegistryJob.phasesLeft : RegistryJob → Nat
  | .checking _ => 4
  | .entering _ => 3
  | .waiting _ => 2
  | .building _ => 1
  | _ => 0

namespace Registry

variable {r : Registry} {now id : Nat} {d : String} {input : Input} {job : RegistryJob}
  {p : Progress Registry Result Event}

/-- Nobody has claimed the cell of a destination. -/
def Unclaimed (r : Registry) (d : String) : Prop := ∀ owner, r.cells.find? d ≠ some (.claimed owner)

/-- A job acquires the backend for a destination, and nobody is in its way. -/
def Clear (r : Registry) (d : String) : RegistryJob → Prop
  | .checking d' => d' = d ∧ r.Unclaimed d
  | .entering d' => d' = d ∧ r.Unclaimed d
  | .waiting d' => d' = d ∧ r.Unclaimed d ∧ r.cells.contains d = true
  | .building d' => d' = d
  | .registering d' => d' = d
  | _ => False

/-- A cell that is there and that nobody has claimed is vacant or filled. -/
theorem Unclaimed.cases (h : r.Unclaimed d) (hknown : r.cells.contains d = true) :
    r.cells.find? d = some .vacant ∨ ∃ slot, r.cells.find? d = some (.filled slot) := by
  cases hcell : r.cells.find? d with
  | none =>
      rw [Table.contains_eq_false_iff.2 hcell] at hknown
      cases hknown
  | some cell =>
      cases cell with
      | vacant => exact .inl rfl
      | filled slot => exact .inr ⟨slot, rfl⟩
      | claimed owner => exact absurd hcell (h owner)

/-- An acquisition with nobody in its way waits for its turn or for its builder. -/
theorem want_of_clear (hjob : r.jobs.find? (.call id) = some job) (hclear : r.Clear d job) :
    r.want (.call id) = match job with
      | .building d => .client (.buffered d)
      | _ => .turn := by
  unfold want
  cases job with
  | waiting d' =>
      obtain ⟨rfl, hfree, hknown⟩ := hclear
      simp only [hjob]
      rcases hfree.cases hknown with hcell | ⟨slot, hcell⟩ <;> rw [hcell]
  | checking | entering | building | registering => simp only [hjob]
  | _ => cases hclear

theorem want_ne_nothing_of_clear (hjob : r.jobs.find? (.call id) = some job)
    (hclear : r.Clear d job) : r.want (.call id) ≠ .nothing := by
  rw [want_of_clear hjob hclear]
  cases job <;> nofun

/-- Told what it waits for, it takes a step. -/
theorem exists_step_of_clear (now : Nat) (hjob : r.jobs.find? (.call id) = some job)
    (hclear : r.Clear d job) (hallows : (r.want (.call id)).Allows input) :
    ∃ q, r.step now (.call id) input = some q := by
  rw [want_of_clear hjob hclear] at hallows
  show ∃ q, r.stepCall now (.call id) input = some q
  unfold stepCall
  cases job with
  | building d' =>
      cases input with
      | built result => cases result <;> simp only [hjob] <;> exact ⟨_, rfl⟩
      | _ => cases hallows
  | checking d' | registering d' =>
      cases input with
      | turn => simp only [hjob]; split <;> exact ⟨_, rfl⟩
      | _ => cases hallows
  | entering d' =>
      cases input with
      | turn => simp only [hjob]; exact ⟨_, rfl⟩
      | _ => cases hallows
  | waiting d' =>
      obtain ⟨rfl, hfree, hknown⟩ := hclear
      cases input with
      | turn =>
          simp only [hjob]
          rcases hfree.cases hknown with hcell | ⟨slot, hcell⟩ <;> simp only [hcell] <;>
            exact ⟨_, rfl⟩
      | _ => cases hallows
  | _ => cases hclear

/-- Every step of it that goes on leaves it with fewer phases before it, and nobody in its way. -/
theorem Called.clear (h : Called r now (.call id) input p)
    (hjob : r.jobs.find? (.call id) = some job) (hclear : r.Clear d job) (more : p.result? = none) :
    ∃ job', p.state.jobs.find? (.call id) = some job' ∧ p.state.Clear d job' ∧
      job'.phasesLeft < job.phasesLeft := by
  have hinsert : ∀ (r : Registry) (job : RegistryJob),
      (r.resume (.call id) job).jobs.find? (.call id) = some job :=
    fun r job => Table.find?_insert_self _ _ _
  cases h with
  | turnedAway | found | buildFailed | builtLate | opened | used | tookNothing | joined => cases more
  | checked job' =>
      rw [job'] at hjob
      cases hjob
      exact ⟨_, hinsert _ _, hclear, Nat.lt_succ_self _⟩
  | entered job' known =>
      rw [job'] at hjob
      cases hjob
      obtain ⟨rfl, hfree⟩ := hclear
      exact ⟨_, hinsert _ _, ⟨rfl, hfree, known⟩, Nat.lt_succ_self _⟩
  | enteredFirst job' unknown =>
      rw [job'] at hjob
      cases hjob
      obtain ⟨rfl, hfree⟩ := hclear
      refine ⟨_, hinsert _ _, ⟨rfl, fun owner hcell => ?_, ?_⟩, Nat.lt_succ_self _⟩
      · have hcell : (r.cells.insert _ Cell.vacant).find? _ = some (.claimed owner) := hcell
        rw [Table.find?_insert_self] at hcell
        cases hcell
      · exact Table.contains_eq_true_iff.2 ⟨_, Table.find?_insert_self _ _ _⟩
  | claimed job' cell =>
      rw [job'] at hjob
      cases hjob
      exact ⟨_, hinsert _ _, hclear.1, Nat.lt_succ_self _⟩
  | built job' =>
      rw [job'] at hjob
      cases hjob
      exact ⟨_, hinsert _ _, hclear, Nat.lt_succ_self _⟩
  | worked job' | took job' | signalled job' =>
      rw [job'] at hjob
      cases hjob
      cases hclear

/-- What it comes to is a slot or a failure. -/
theorem Called.acquired_of_clear (h : Called r now (.call id) input p)
    (hjob : r.jobs.find? (.call id) = some job) (hclear : r.Clear d job) {result : Result}
    (hresult : p.result? = some result) : ∃ answer, result = .acquired answer := by
  cases h with
  | turnedAway | found | buildFailed | builtLate | opened =>
      cases hresult
      exact ⟨_, rfl⟩
  | used job' | tookNothing job' | joined job' =>
      rw [job'] at hjob
      cases hjob
      cases hclear
  | worked job' hslot work more =>
      cases hresult
  | _ => cases hresult

/-- Flush loops have no jobs here: what they have to do is at their backends. -/
def LoopsIdle (r : Registry) : Prop := ∀ slot, r.jobs.find? (.flushLoop slot) = none

theorem Began.loopsIdle {r' : Registry} {task : Task} (h : Began r (.call id) task r')
    (hr : r.LoopsIdle) : r'.LoopsIdle := by
  intro slot
  have hsame : r'.jobs.find? (.flushLoop slot) = r.jobs.find? (.flushLoop slot) := h.others nofun
  rw [hsame]
  exact hr slot

theorem Called.loopsIdle (h : Called r now (.call id) input p) (hr : r.LoopsIdle) :
    p.state.LoopsIdle := by
  intro slot
  have hsame : p.state.jobs.find? (.flushLoop slot) = r.jobs.find? (.flushLoop slot) := h.others nofun
  rw [hsame]
  exact hr slot

theorem Looped.loopsIdle {slot : Nat} (h : Looped r now slot input p) (hr : r.LoopsIdle) :
    p.state.LoopsIdle := by
  intro slot
  rw [h.jobs]
  exact hr slot

/-- A call without a job can start work at a slot. -/
theorem exists_begin?_use (hr : r.Sound) (hidle : r.jobs.find? (.call id) = none) {slot : Nat} {s : Slot}
    (hs : r.slots[slot]? = some s) (work : BufferedBackend.Task) :
    ∃ r', r.begin? (.call id) (.use slot work) = some r' := by
  have hfree : s.backend.jobs.find? (.call id) = none := by
    cases hwork : s.backend.jobs.find? (.call id) with
    | none => rfl
    | some job =>
        have husing := hr.calls slot s id job hs hwork
        rw [hidle] at husing
        cases husing
  unfold begin? BufferedBackend.begin?
  simp only [Table.contains, hidle, hfree, hs, Option.isSome_none, Bool.false_eq_true, if_false]
  exact ⟨_, rfl⟩

/-- Until the handles are taken, a call can create the backend for a destination that has none, and that nobody has
claimed: it takes these steps. -/
theorem exists_creation {handles : List Nat} (hhandles : r.handles = some handles)
    (hcell : r.cells.find? d = none ∨ r.cells.find? d = some .vacant) (now : Nat) : ∃ r₁ r₂ r₃ r₄ r₅,
      (r.resume (.call id) (.checking d)).step now (.call id) .turn = some (.quiet r₁) ∧
      r₁.step now (.call id) .turn = some (.quiet r₂) ∧ r₂.step now (.call id) .turn = some (.quiet r₃) ∧
      r₃.step now (.call id) (.built (.ok ())) = some (.quiet r₄) ∧
      r₄.step now (.call id) .turn = some (.done r₅ (.acquired (.ok r.slots.length))) ∧
      r₅.slots = r.slots ++ [⟨.new d r.policy, .idle (now + r.flushEvery)⟩] ∧
      r₅.jobs.find? (.call id) = none := by
  let r₀ := r.resume (.call id) (.checking d)
  let r₁ := r₀.resume (.call id) (.entering d)
  let entered := if r₁.cells.contains d then r₁ else r₁.setCell d .vacant
  let r₂ := entered.resume (.call id) (.waiting d)
  let r₃ := (r₂.setCell d (.claimed (.call id))).resume (.call id) (.building d)
  let r₄ := r₃.resume (.call id) (.registering d)
  have hjob₀ : r₀.jobs.find? (.call id) = some (.checking d) := Table.find?_insert_self _ _ _
  have hjob₁ : r₁.jobs.find? (.call id) = some (.entering d) := Table.find?_insert_self _ _ _
  have hjob₂ : r₂.jobs.find? (.call id) = some (.waiting d) := Table.find?_insert_self _ _ _
  have hjob₃ : r₃.jobs.find? (.call id) = some (.building d) := Table.find?_insert_self _ _ _
  have hjob₄ : r₄.jobs.find? (.call id) = some (.registering d) := Table.find?_insert_self _ _ _
  -- the cell is vacant once the call has come to it, and nothing else has changed
  have hentered : entered.cells.find? d = some .vacant ∧ entered.handles = some handles ∧
      entered.slots = r.slots ∧ entered.policy = r.policy ∧ entered.flushEvery = r.flushEvery := by
    by_cases hknown : r₁.cells.contains d = true
    · simp only [entered, if_pos hknown]
      refine ⟨hcell.resolve_left fun hnone => ?_, hhandles, rfl, rfl, rfl⟩
      obtain ⟨cell, hcell⟩ := Table.contains_eq_true_iff.1 hknown
      cases hnone.symm.trans hcell
    · simp only [entered, if_neg hknown]
      exact ⟨Table.find?_insert_self _ _ _, hhandles, rfl, rfl, rfl⟩
  obtain ⟨hvacant, htaken, hslots, hpolicy, hevery⟩ := hentered
  have hvacant : r₂.cells.find? d = some .vacant := hvacant
  have htaken : r₄.handles = some handles := htaken
  refine ⟨r₁, r₂, r₃, r₄, (r₄.openSlot now handles d).release (.call id), ?_, ?_, ?_, ?_, ?_, ?_, ?_⟩
  · have hhandles : r₀.handles = some handles := hhandles
    show r₀.step now (.call id) .turn = some (.quiet r₁)
    simp only [step, stepCall, hjob₀, hhandles, r₁]
  · simp only [step, stepCall, hjob₁, r₂, entered]
  · simp only [step, stepCall, hjob₂, hvacant, r₃]
  · simp only [step, stepCall, hjob₃, r₄]
  · have hslots : r₄.slots = r.slots := hslots
    simp only [step, stepCall, hjob₄, htaken, hslots]
  · show entered.slots ++ [⟨.new d entered.policy, .idle (now + entered.flushEvery)⟩] = _
    rw [hslots, hpolicy, hevery]
  · exact Table.find?_erase_self _ _

end Registry

end GatewayAuth
