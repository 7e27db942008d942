import GatewayAuth.Proofs.Registry.Acquisition

/-!
# `GatewayAuth.Proofs.Registry.Likeness` — a registry without the traces of one actor

An actor that acquires a backend leaves its traces in the cells: it makes one where there is none, and claims it while
it builds. Unless it comes to a backend, this makes no difference to others: two registries that are alike but for such
traces let everyone else take the same steps, with the same results.

## Contents
- `Cell.held`, `SameBackends`, `Like`: what registries that are alike have in common.
- `Marked`: who waits at a cell finds one; kept by every step.
- `Like.begins`, `Like.looped`, `Like.called`: whatever others do in one registry, they can do in the other.
- `Like.beside`, `Like.forget`: an acquisition that comes to nothing leaves its registry like one that never saw it.
-/

namespace GatewayAuth

/-- What a cell holds, for all but one actor: its claims count for nothing, no more than a vacant cell. -/
def Cell.held (gone : Option Actor) : Option Cell → Option Cell
  | some (.filled slot) => some (.filled slot)
  | some (.claimed owner) => if gone = some owner then none else some (.claimed owner)
  | _ => none

namespace Cell

variable {gone : Option Actor} {cell? : Option Cell}

theorem held_eq_filled_iff {slot : Nat} :
    held gone cell? = some (.filled slot) ↔ cell? = some (.filled slot) := by
  unfold held
  split
  · exact Iff.rfl
  · split <;> simp
  · next hfilled _ => exact iff_of_false nofun (hfilled slot)

theorem held_claimed_self (actor : Actor) : held (some actor) (some (.claimed actor)) = none :=
  if_pos rfl

/-- Where nothing is held, there is no cell, or a vacant one. -/
theorem eq_vacant_of_held (hheld : held none cell? = none) (hcell : cell? ≠ none) :
    cell? = some .vacant := by
  cases cell? with
  | none => exact absurd rfl hcell
  | some cell =>
      cases cell with
      | vacant => rfl
      | claimed owner | filled slot => cases hheld

end Cell

namespace Registry

variable {gone : Option Actor} {r r' : Registry} {now id : Nat} {actor : Actor} {input : Input}
  {d : String} {p : Progress Registry Result Event}

/-- Two registries have the same backends and flush loops, and are equally far on their way to a shutdown. -/
structure SameBackends (r r' : Registry) : Prop where
  policy : r'.policy = r.policy
  flushEvery : r'.flushEvery = r.flushEvery
  slots : r'.slots = r.slots
  handles : r'.handles = r.handles
  stopping : r'.stopping = r.stopping

/-- The second registry is like the first, but for one actor, of which it knows nothing. -/
structure Like (gone : Option Actor) (r r' : Registry) : Prop extends SameBackends r r' where
  cells : ∀ d, Cell.held none (r'.cells.find? d) = Cell.held gone (r.cells.find? d)
  jobs : ∀ actor, r'.jobs.find? actor = if gone = some actor then none else r.jobs.find? actor

/-- Who waits at a cell finds one. -/
def Marked (r : Registry) : Prop :=
  ∀ actor d, r.jobs.find? actor = some (.waiting d) → r.cells.find? d ≠ none

/-! ## Cells that are there -/

theorem marked_new (policy : FailurePolicy) (flushEvery : Nat) : (new policy flushEvery).Marked :=
  fun _ _ hjob => nomatch hjob

/-- A step that takes no cell away, and leads its actor to a cell only if there is one. -/
theorem Marked.of_move (hr : r.Marked) (hcells : ∀ d, r.cells.find? d ≠ none → r'.cells.find? d ≠ none)
    (hothers : ∀ other, other ≠ actor → r'.jobs.find? other = r.jobs.find? other)
    (hown : ∀ d, r'.jobs.find? actor = some (.waiting d) →
      r.jobs.find? actor = some (.waiting d) ∨ r'.cells.find? d ≠ none) : r'.Marked := by
  intro other d hjob
  by_cases hother : other = actor
  · subst hother
    rcases hown d hjob with hold | hnew
    · exact hcells d (hr other d hold)
    · exact hnew
  · rw [hothers other hother] at hjob
    exact hcells d (hr other d hjob)

theorem Began.marked {task : Task} (h : Began r actor task r') (hr : r.Marked) : r'.Marked := by
  refine hr.of_move (fun d hd => ?_) (fun other hne => h.others hne) fun d hjob => ?_
  · cases h <;> exact hd
  · cases h <;> simp at hjob

theorem find?_insert_ne_none {cells : Table String Cell} {cell : Cell} (hd : cells.find? d ≠ none)
    (d' : String) : (cells.insert d' cell).find? d ≠ none := by
  rw [Table.find?_insert]
  split
  · exact Option.some_ne_none _
  · exact hd

theorem Called.marked (h : Called r now actor input p) (hr : r.Marked) : p.state.Marked := by
  refine hr.of_move (fun d hd => ?_) (fun other hne => h.others hne) fun d hjob => ?_
  · cases h with
    | enteredFirst | claimed | buildFailed | builtLate | opened => exact find?_insert_ne_none hd _
    | _ => exact hd
  · cases h with
    | entered job known =>
        simp only [Progress.quiet, jobs_resume, Table.find?_insert_self, Option.some.injEq,
          RegistryJob.waiting.injEq] at hjob
        subst hjob
        obtain ⟨cell, hcell⟩ := Table.contains_eq_true_iff.1 known
        exact .inr (Option.ne_none_iff_exists'.2 ⟨cell, hcell⟩)
    | enteredFirst job unknown =>
        simp only [Progress.quiet, jobs_resume, Table.find?_insert_self, Option.some.injEq,
          RegistryJob.waiting.injEq] at hjob
        subst hjob
        exact .inr (Option.ne_none_iff_exists'.2 ⟨_, Table.find?_insert_self _ _ _⟩)
    | worked => exact .inl hjob
    | _ => simp [Progress.quiet, Progress.done] at hjob

theorem Looped.marked {slot : Nat} (h : Looped r now slot input p) (hr : r.Marked) :
    p.state.Marked := by
  cases h <;> exact hr

/-! ## Changes on both sides -/

namespace Like

/-- Everyone else has the same job. -/
theorem job (like : Like gone r r') (hne : gone ≠ some actor) :
    r'.jobs.find? actor = r.jobs.find? actor := (like.jobs actor).trans (if_neg hne)

theorem filled (like : Like gone r r') {slot : Nat} (hcell : r.cells.find? d = some (.filled slot)) :
    r'.cells.find? d = some (.filled slot) := by
  have hheld := like.cells d
  rw [hcell] at hheld
  exact Cell.held_eq_filled_iff.1 hheld

theorem vacant (like : Like gone r r') (hcell : r.cells.find? d = some .vacant)
    (hknown : r'.cells.find? d ≠ none) : r'.cells.find? d = some .vacant := by
  have hheld := like.cells d
  rw [hcell] at hheld
  exact Cell.eq_vacant_of_held hheld hknown

/-- Both put the job of someone else at another phase. -/
theorem resume (like : Like gone r r') (hne : gone ≠ some actor) (job : RegistryJob) :
    Like gone (r.resume actor job) (r'.resume actor job) := by
  refine ⟨⟨like.policy, like.flushEvery, like.slots, like.handles, like.stopping⟩, like.cells, ?_⟩
  intro other
  rw [jobs_resume, jobs_resume, Table.find?_insert, Table.find?_insert, like.jobs]
  by_cases hother : actor = other
  · subst hother
    rw [if_pos rfl, if_pos rfl, if_neg hne]
  · rw [if_neg hother, if_neg hother]

theorem release (like : Like gone r r') (actor : Actor) :
    Like gone (r.release actor) (r'.release actor) := by
  refine ⟨⟨like.policy, like.flushEvery, like.slots, like.handles, like.stopping⟩, like.cells, ?_⟩
  intro other
  rw [jobs_release, jobs_release, Table.find?_erase, Table.find?_erase, like.jobs]
  split
  · split <;> rfl
  · rfl

/-- Both put the same into a cell. -/
theorem setCell (like : Like gone r r') (d : String) {cell : Cell}
    (hcell : Cell.held none (some cell) = Cell.held gone (some cell)) :
    Like gone (r.setCell d cell) (r'.setCell d cell) := by
  refine ⟨⟨like.policy, like.flushEvery, like.slots, like.handles, like.stopping⟩, ?_, like.jobs⟩
  intro d'
  show Cell.held none ((r'.cells.insert d cell).find? d') =
    Cell.held gone ((r.cells.insert d cell).find? d')
  rw [Table.find?_insert, Table.find?_insert]
  split
  · exact hcell
  · exact like.cells d'

/-- One puts something into a cell that counts for nothing, where nothing is held. -/
theorem setCell_left (like : Like gone r r') {cell : Cell} (hbefore : Cell.held gone (r.cells.find? d) = none)
    (hafter : Cell.held gone (some cell) = none) : Like gone (r.setCell d cell) r' := by
  refine ⟨⟨like.policy, like.flushEvery, like.slots, like.handles, like.stopping⟩, ?_, like.jobs⟩
  intro d'
  show _ = Cell.held gone ((r.cells.insert d cell).find? d')
  rw [Table.find?_insert, like.cells]
  split
  · next hd =>
    subst hd
    rw [hbefore, hafter]
  · rfl

/-- Someone comes to a cell, and makes it if there is none. -/
theorem enter (like : Like gone r r') (d : String) :
    Like gone r (if r'.cells.contains d then r' else r'.setCell d .vacant) := by
  split
  · exact like
  · next unknown =>
    have hnone := Table.contains_eq_false_iff.1 (Bool.not_eq_true _ ▸ unknown)
    refine ⟨⟨like.policy, like.flushEvery, like.slots, like.handles, like.stopping⟩, ?_, like.jobs⟩
    intro d'
    show Cell.held none ((r'.cells.insert d .vacant).find? d') = _
    rw [Table.find?_insert, ← like.cells]
    split
    · next hd =>
      subst hd
      rw [hnone]
      rfl
    · rfl

theorem setSlot (like : Like gone r r') (slot : Nat) (s : Slot) :
    Like gone (r.setSlot slot s) (r'.setSlot slot s) :=
  ⟨⟨like.policy, like.flushEvery, congrArg (fun slots => slots.set slot s) like.slots, like.handles,
    like.stopping⟩, like.cells, like.jobs⟩

theorem openSlot (like : Like gone r r') (now : Nat) (handles : List Nat) (d : String) :
    Like gone (r.openSlot now handles d) (r'.openSlot now handles d) := by
  refine ⟨⟨like.policy, like.flushEvery, ?_, ?_, like.stopping⟩, ?_, like.jobs⟩
  · show r'.slots ++ _ = r.slots ++ _
    rw [like.slots, like.policy, like.flushEvery]
  · show some (handles ++ [_]) = some (handles ++ [_])
    rw [like.slots]
  · have hheld : Cell.held none (some (.filled r.slots.length)) =
        Cell.held gone (some (.filled r.slots.length)) := rfl
    have hset := (like.setCell d hheld).cells
    intro d'
    show Cell.held none ((r'.cells.insert d (.filled r'.slots.length)).find? d') = _
    rw [like.slots]
    exact hset d'

end Like

/-! ## Steps of others -/

/-- What two steps have in common, one in each of two registries that are alike. -/
structure Matches (gone : Option Actor) (p p' : Progress Registry Result Event) : Prop where
  result? : p'.result? = p.result?
  events : p'.events = p.events
  like : Like gone p.state p'.state

/-- **Whatever task another actor can start in one registry, it can start in the other.** -/
theorem Like.begins (like : Like gone r r') (hne : gone ≠ some actor) {task : Task} {r₁ : Registry}
    (hbegin : r.begin? actor task = some r₁) :
    ∃ r₁', r'.begin? actor task = some r₁' ∧ Like gone r₁ r₁' := by
  have hfree : r'.jobs.contains actor = r.jobs.contains actor := by
    unfold Table.contains
    rw [like.job hne]
  unfold begin? at hbegin ⊢
  rw [hfree, like.slots]
  split at hbegin
  · cases hbegin
  · next hidle =>
    rw [if_neg hidle]
    cases task with
    | acquire d | shutdown =>
        cases hbegin
        exact ⟨_, rfl, like.resume hne _⟩
    | use slot work =>
        dsimp only at hbegin ⊢
        split at hbegin
        · next s hslot =>
          split at hbegin
          · next backend hwork =>
            cases hbegin
            exact ⟨_, rfl, (like.setSlot _ _).resume hne _⟩
          · cases hbegin
        · cases hbegin

/-- Whatever another actor does at the backend of a slot, it can do in the other registry. -/
theorem Like.stepSlot (like : Like gone r r') {slot : Nat}
    {q : Progress Registry BufferedBackend.Result Event} (hstep : r.stepSlot slot actor input = some q) :
    ∃ r₁, r'.stepSlot slot actor input = some ⟨r₁, q.result?, q.events⟩ ∧ Like gone q.state r₁ := by
  unfold Registry.stepSlot at hstep ⊢
  rw [like.slots]
  split at hstep
  · next s hslot =>
    split at hstep
    · next q' hq' =>
      cases hstep
      exact ⟨_, rfl, like.setSlot _ _⟩
    · cases hstep
  · cases hstep

theorem Like.startFlush (like : Like gone r r') {slot : Nat} {s : Slot} {loop : FlushLoop}
    {r₁ : Registry} (hstart : r.startFlush slot s loop = some r₁) :
    ∃ r₁', r'.startFlush slot s loop = some r₁' ∧ Like gone r₁ r₁' := by
  unfold Registry.startFlush at hstart ⊢
  split at hstart
  · cases hstart
    exact ⟨_, rfl, like.setSlot _ _⟩
  · cases hstart

/-- **Whatever a flush loop does in one registry, it can do in the other.** -/
theorem Like.looped (like : Like gone r r') {slot : Nat} (hstep : r.stepLoop now slot input = some p) :
    ∃ p', r'.stepLoop now slot input = some p' ∧ Matches gone p p' := by
  unfold stepLoop at hstep ⊢
  rw [like.slots, like.flushEvery, like.stopping]
  split at hstep
  · cases hstep
  · next s hslot =>
    split at hstep
    · split at hstep
      · next due _ hdue =>
        obtain ⟨r₁, hstart, rfl⟩ := Option.map_eq_some_iff.1 hstep
        obtain ⟨r₁', hstart', like'⟩ := like.startFlush hstart
        rw [if_pos hdue, hstart']
        exact ⟨_, rfl, rfl, rfl, like'⟩
      · cases hstep
    · split at hstep
      · next due _ stop =>
        obtain ⟨r₁, hstart, rfl⟩ := Option.map_eq_some_iff.1 hstep
        obtain ⟨r₁', hstart', like'⟩ := like.startFlush hstart
        rw [if_pos stop, hstart']
        exact ⟨_, rfl, rfl, rfl, like'⟩
      · cases hstep
    · cases hstep
    · cases hstep
    · split at hstep
      · next r₁ result events hat =>
        obtain ⟨r₁', hat', like'⟩ := like.stepSlot hat
        rw [hat']
        dsimp only at hat' like' ⊢
        rw [like'.slots]
        split at hstep
        · cases hstep
          exact ⟨_, rfl, rfl, rfl, like'.setSlot _ _⟩
        · cases hstep
      · next r₁ events hat =>
        obtain ⟨r₁', hat', like'⟩ := like.stepSlot hat
        rw [hat']
        cases hstep
        exact ⟨_, rfl, rfl, rfl, like'⟩
      · cases hstep

theorem Like.hasExited (like : Like gone r r') (slot : Nat) : r'.hasExited slot = r.hasExited slot := by
  unfold Registry.hasExited
  rw [like.slots]

/-- **Whatever another call does in one registry, it can do in the other.** -/
theorem Like.called (like : Like gone r r') (hmarked : r'.Marked) (hne : gone ≠ some actor)
    (hstep : r.stepCall now actor input = some p) :
    ∃ p', r'.stepCall now actor input = some p' ∧ Matches gone p p' := by
  have hjob := like.job hne
  unfold stepCall at hstep ⊢
  rw [hjob, like.handles]
  split at hstep
  · next d _ =>
    split at hstep
    · cases hstep
      exact ⟨_, rfl, rfl, rfl, like.release _⟩
    · cases hstep
      exact ⟨_, rfl, rfl, rfl, like.resume hne _⟩
  · next d _ =>
    cases hstep
    have like' : Like gone (if r.cells.contains d then r else r.setCell d .vacant) r' := by
      split
      · exact like
      · next unknown =>
        rw [Bool.not_eq_true, Table.contains_eq_false_iff] at unknown
        exact like.setCell_left (congrArg (Cell.held gone) unknown) rfl
    exact ⟨_, rfl, rfl, rfl, (like'.enter d).resume hne _⟩
  · next d job =>
    split at hstep
    · next slot hcell =>
      cases hstep
      rw [like.filled hcell]
      exact ⟨_, rfl, rfl, rfl, like.release _⟩
    · next hcell =>
      cases hstep
      rw [like.vacant hcell (hmarked actor d (hjob.trans job))]
      exact ⟨_, rfl, rfl, rfl, (like.setCell d (if_neg hne).symm).resume hne _⟩
    · cases hstep
  · cases hstep
    exact ⟨_, rfl, rfl, rfl, like.resume hne _⟩
  · cases hstep
    exact ⟨_, rfl, rfl, rfl, (like.setCell _ rfl).release _⟩
  · split at hstep
    · cases hstep
      exact ⟨_, rfl, rfl, rfl, (like.setCell _ rfl).release _⟩
    · cases hstep
      refine ⟨_, rfl, ?_, rfl, (like.openSlot _ _ _).release _⟩
      rw [like.slots]
      rfl
  · split at hstep
    · next hat =>
      obtain ⟨r₁', hat', like'⟩ := like.stepSlot hat
      cases hstep
      rw [hat']
      exact ⟨_, rfl, rfl, rfl, like'.release _⟩
    · next hat =>
      obtain ⟨r₁', hat', like'⟩ := like.stepSlot hat
      cases hstep
      rw [hat']
      exact ⟨_, rfl, rfl, rfl, like'⟩
    · cases hstep
  · split at hstep
    · cases hstep
      exact ⟨_, rfl, rfl, rfl, like.release _⟩
    · cases hstep
      refine ⟨_, rfl, rfl, rfl, Like.resume ?_ hne _⟩
      exact ⟨⟨like.policy, like.flushEvery, like.slots, rfl, like.stopping⟩, like.cells, like.jobs⟩
  · cases hstep
    refine ⟨_, rfl, rfl, rfl, Like.resume ?_ hne _⟩
    exact ⟨⟨like.policy, like.flushEvery, like.slots, rfl, rfl⟩, like.cells, like.jobs⟩
  · split at hstep
    · next handles _ exited =>
      cases hstep
      have exited' : handles.all r'.hasExited = true := by
        rw [funext like.hasExited]
        exact exited
      rw [if_pos exited']
      exact ⟨_, rfl, rfl, rfl, like.release _⟩
    · cases hstep
  · cases hstep

/-- Who takes a step in one registry waits for the same in the other. -/
theorem Like.want (like : Like gone r r') (hmarked : r'.Marked) (hne : gone ≠ some actor)
    (hstep : r.step now actor input = some p) : r'.want actor = r.want actor := by
  unfold Registry.want
  cases actor with
  | flushLoop slot => rw [like.slots, like.stopping]
  | call | refreshLoop =>
      have hstep : r.stepCall now _ input = some p := hstep
      have hjob := like.job hne
      dsimp only
      rw [hjob]
      split
      · rfl
      · next d job =>
        -- at a cell it takes a step only where nobody has claimed it
        unfold stepCall at hstep
        rw [job] at hstep
        cases input with
        | turn =>
            dsimp only at hstep
            split at hstep
            · next hcell => rw [hcell, like.filled hcell]
            · next hcell => rw [hcell, like.vacant hcell (hmarked _ d (hjob.trans job))]
            · cases hstep
        | _ => cases hstep
      · rfl
      · rw [like.slots]
      · rw [funext like.hasExited]
      · rfl

/-! ## Steps of the one -/

/-- A registry is like itself as long as an actor is not there. -/
theorem like_of_free (ha : r.Assigned) (hfree : r.jobs.find? actor = none) : Like (some actor) r r := by
  refine ⟨⟨rfl, rfl, rfl, rfl, rfl⟩, fun d => ?_, fun other => ?_⟩
  · cases hcell : r.cells.find? d with
    | none => rfl
    | some cell =>
        cases cell with
        | vacant | filled => rfl
        | claimed owner =>
            have hne : some actor ≠ some owner := by
              rintro heq
              cases heq
              obtain ⟨job, hjob, -⟩ := (ha.claims d actor).1 hcell
              rw [hfree] at hjob
              cases hjob
            exact (if_neg hne).symm
  · split
    · next heq =>
      cases heq
      exact hfree
    · rfl

/-- Once the actor has nothing to do in the first registry, nothing distinguishes the two. -/
theorem Like.forget (like : Like (some actor) r r') (ha : r.Assigned)
    (hfree : r.jobs.find? actor = none) : Like none r r' := by
  have like₀ := like_of_free ha hfree
  refine ⟨like.toSameBackends, fun d => ?_, fun other => ?_⟩
  · rw [like.cells, ← like₀.cells]
  · rw [like.jobs, ← like₀.jobs]
    exact (if_neg nofun).symm

theorem Like.symm (like : Like none r r') : Like none r' r := by
  refine ⟨⟨like.policy.symm, like.flushEvery.symm, like.slots.symm, like.handles.symm,
    like.stopping.symm⟩, fun d => (like.cells d).symm, fun actor => ?_⟩
  rw [like.jobs]
  rfl

/-- The actor itself comes to another phase. -/
theorem Like.resume_left (like : Like (some actor) r r') (job : RegistryJob) :
    Like (some actor) (r.resume actor job) r' := by
  refine ⟨⟨like.policy, like.flushEvery, like.slots, like.handles, like.stopping⟩, like.cells, ?_⟩
  intro other
  rw [like.jobs, jobs_resume, Table.find?_insert]
  split
  · rfl
  · next hne => rw [if_neg fun heq => hne (congrArg some heq)]

theorem Like.release_left (like : Like (some actor) r r') :
    Like (some actor) (r.release actor) r' := by
  refine ⟨⟨like.policy, like.flushEvery, like.slots, like.handles, like.stopping⟩, like.cells, ?_⟩
  intro other
  rw [like.jobs, jobs_release, Table.find?_erase]
  split
  · rfl
  · next hne => rw [if_neg fun heq => hne (congrArg some heq)]

/-- Nothing can be seen of an acquisition. -/
theorem Called.events_of_serves (step : Called r now actor input p)
    (hserves : ∀ job, r.jobs.find? actor = some job → job.Serves (.acquire d)) : p.events = [] := by
  cases step with
  | turnedAway | checked | entered | enteredFirst | found | claimed | built | buildFailed | builtLate
  | opened => rfl
  | worked job | used job =>
      obtain ⟨work, hwork⟩ := hserves _ job
      cases hwork
  | tookNothing job | took job | signalled job | joined job => cases hserves _ job

/-- An acquisition that does not come to a backend changes neither backends nor flush loops. -/
theorem Called.sameBackends (step : Called r now actor input p)
    (hserves : ∀ job, r.jobs.find? actor = some job → job.Serves (.acquire d))
    (hfails : ∀ slot, p.result? ≠ some (.acquired (.ok slot))) : SameBackends r p.state := by
  cases step with
  | turnedAway | checked | entered | enteredFirst | claimed | built | buildFailed | builtLate =>
      exact ⟨rfl, rfl, rfl, rfl, rfl⟩
  | found | opened => exact absurd rfl (hfails _)
  | worked job | used job =>
      obtain ⟨work, hwork⟩ := hserves _ job
      cases hwork
  | tookNothing job | took job | signalled job | joined job => cases hserves _ job

/-- **Nor does it leave any traces that count.** -/
theorem Like.beside (like : Like (some actor) r r') (ha : r.Assigned) (step : Called r now actor input p)
    (hserves : ∀ job, r.jobs.find? actor = some job → job.Serves (.acquire d))
    (hfails : ∀ slot, p.result? ≠ some (.acquired (.ok slot))) : Like (some actor) p.state r' := by
  have hmine : ∀ {d' job}, r.jobs.find? actor = some job → job.IsBuilding d' →
      Cell.held (some actor) (r.cells.find? d') = none := by
    intro d' job hjob hbuilding
    rw [(ha.claims d' actor).2 ⟨job, hjob, hbuilding⟩]
    exact Cell.held_claimed_self actor
  cases step with
  | turnedAway => exact like.release_left
  | checked | entered | built => exact like.resume_left _
  | enteredFirst job unknown =>
      refine (like.setCell_left ?_ rfl).resume_left _
      rw [Table.contains_eq_false_iff.1 unknown]
      rfl
  | claimed job cell =>
      refine (like.setCell_left ?_ (Cell.held_claimed_self _)).resume_left _
      rw [cell]
      rfl
  | buildFailed job | builtLate job => exact (like.setCell_left (hmine job rfl) rfl).release_left
  | found | opened => exact absurd rfl (hfails _)
  | worked job | used job =>
      obtain ⟨work, hwork⟩ := hserves _ job
      cases hwork
  | tookNothing job | took job | signalled job | joined job => cases hserves _ job

end Registry

end GatewayAuth
