import GatewayAuth.Proofs.Usage.Steps

/-!
# `GatewayAuth.Proofs.Usage.Lone` — a batch that is alone at a backend

Where a backend holds one batch and nothing else, that batch is in the buffer or in the hands of one flush, and it stays
the same batch on its way between them: a flush takes out what went in, and what is put back goes into an empty buffer. So
whatever becomes of reports, each of them carries the batch as it was recorded.

## Contents
- `Usage.add_empty`, `UsageBuffer.batches_merge_empty`: a buffer gives back the one batch that was put into it.
- `BufferedBackend.Moved`, `Stepped.moved`: what a step does to the buffer and to the batches of its actor.
- `HoldsNothing`, `Alone`: a backend that holds nothing, or one batch; `Stepped.holdsNothing`, `Stepped.alone`,
  `Stepped.alone_of_recorded`: what a step makes of them.
- `Alone.eq_of_carried`: what a flush takes out then.
-/

namespace GatewayAuth

/-! ## One batch in a buffer -/

/-- Adding to nothing leaves a delta as it is, since it is within the bounds. -/
theorem addSaturating_zero (delta : Int64) : addSaturating 0 delta = delta := by
  have hlower := delta.le_toInt
  have hupper := delta.toInt_lt
  have hzero : (0 : Int64).toInt = 0 := rfl
  unfold addSaturating
  rw [hzero, Int.zero_add, clamp64_of_mem]
  · exact Int64.ofInt_toInt delta
  · unfold Decimal.int64Min Decimal.int64Max
    omega

namespace Usage

/-- A delta of a metric that is not there yet comes in as it is, after the others. -/
theorem toList_addDelta_of_fresh {u : Usage} {metric : String} (hfresh : metric ∉ u.keys)
    (delta : Int64) : (u.addDelta metric delta).toList = u.toList ++ [(metric, delta)] := by
  have hnone : u.find? metric = none := Table.find?_eq_none_iff.2 hfresh
  show Assoc.insert metric (addSaturating ((u.find? metric).getD 0) delta) u.toList = _
  rw [hnone, Option.getD_none, addSaturating_zero]
  exact Assoc.insert_of_not_mem hfresh delta

/-- **Adding usage to nothing gives that usage.** -/
theorem add_empty (usage : Usage) : Usage.add .empty usage = usage := by
  apply Table.ext
  have hnodup : ((Table.empty : Usage).keys ++ usage.toList.map Prod.fst).Nodup := usage.nodup
  exact Table.toList_foldl_of_fresh (fun hfresh => toList_addDelta_of_fresh hfresh _) usage.toList hnodup

end Usage

namespace UsageBuffer

/-- What goes into an empty buffer is all that is pending. -/
theorem toList_merge_empty (batch : Wire.Batch) :
    (empty.merge batch).pending.toList = [(batch.key, batch.usage)] := by
  show [(batch.key, Usage.add .empty batch.usage)] = _
  rw [Usage.add_empty]

/-- **A drain takes out of a buffer the one batch that went into it**; a batch without usage is not reported. -/
theorem batches_merge_empty (batch : Wire.Batch) :
    (empty.merge batch).batches = if batch.usage.isEmpty then [] else [batch] := by
  unfold batches
  rw [toList_merge_empty]
  cases hempty : batch.usage.isEmpty with
  | true => simp [hempty]
  | false => simp [hempty, BatchKey.batch, Wire.Batch.key]

/-- A request of one transaction goes into an empty buffer as one batch. -/
theorem record_empty {request : Wire.Request} {t : Transaction} (ht : request.transactions = [t]) :
    empty.record request = empty.merge ((request.keyOf t).batch t.usage) := by
  unfold record
  rw [ht]
  rfl

end UsageBuffer

namespace BufferedBackend

variable {b b' : BufferedBackend} {actor : Actor} {input : Input} {batch : Wire.Batch}
  {p : Progress BufferedBackend Result Event}

/-! ## What a step moves -/

/-- What a step of an actor does to the buffer and to the batches that the actor has taken out. -/
inductive Moved (b : BufferedBackend) (actor : Actor) (events : List Event) (b' : BufferedBackend) :
    Prop where
  | nothing (silent : recordedOf events = []) (buffer : b'.buffer = b.buffer)
      (carried : b'.carried actor = b.carried actor)
  | recorded {request : Wire.Request} (event : recordedOf events = [request])
      (free : b.carried actor = []) (buffer : b'.buffer = b.buffer.record request)
      (carried : b'.carried actor = [])
  | drained (silent : recordedOf events = []) (free : b.carried actor = []) (buffer : b'.buffer = .empty)
      (carried : b'.carried actor = b.buffer.batches)
  | accepted {batch : Wire.Batch} (silent : recordedOf events = [])
      (first : b.carried actor = batch :: b'.carried actor) (buffer : b'.buffer = b.buffer)
  | requeued {batch : Wire.Batch} (silent : recordedOf events = [])
      (first : b.carried actor = batch :: b'.carried actor) (buffer : b'.buffer = b.buffer.merge batch)

theorem carried_of_free (h : b.jobs.find? actor = none) : b.carried actor = [] := by
  unfold carried
  rw [h]

@[simp] theorem carried_resume (b : BufferedBackend) (actor : Actor) (job : BufferedJob) :
    (b.resume actor job).carried actor = job.inFlight :=
  carried_of_job (Table.find?_insert_self _ _ _)

@[simp] theorem carried_release (b : BufferedBackend) (actor : Actor) :
    (b.release actor).carried actor = [] := carried_of_free (Table.find?_erase_self _ _)

@[simp] theorem carried_next (b : BufferedBackend) (actor : Actor) (summary : FlushSummary)
    (rest : List Wire.Batch) : (b.next actor summary rest).state.carried actor = rest := by
  unfold carried
  rw [find?_next]
  cases rest <;> rfl

/-- **What a step moves.** -/
theorem Stepped.moved (h : Stepped b actor input p) : Moved b actor p.events p.state := by
  cases h with
  | denied job | failed job =>
      refine .nothing rfl rfl ?_
      rw [carried_of_job job]
      exact carried_release b actor
  | granted job | overridden job | refused job =>
      refine .nothing rfl rfl ?_
      rw [carried_of_job job]
      exact carried_resume b actor _
  | recorded job => exact .recorded rfl (carried_of_job job) rfl (carried_release _ actor)
  | drained job =>
      exact .drained (recordedOf_next _ _ _ _) (carried_of_job job) (buffer_next _ _ _ _)
        (carried_next _ actor _ _)
  | @accepted batch rest summary job =>
      have hfirst : b.carried actor =
          batch :: (b.next actor ⟨summary.reported + 1, summary.requeued⟩ rest).state.carried actor := by
        rw [carried_of_job job, carried_next]
        rfl
      exact .accepted (recordedOf_next _ _ _ _) hfirst (buffer_next _ _ _ _)
  | requeued job =>
      refine .requeued (recordedOf_next _ _ _ _) ?_ (buffer_next _ _ _ _)
      rw [carried_of_job job, carried_next]
      rfl

/-- The batches of other actors stay where they are. -/
theorem Stepped.carried_of_ne (h : Stepped b actor input p) {other : Actor} (hne : other ≠ actor) :
    p.state.carried other = b.carried other := by
  unfold carried
  rw [h.others hne]

/-- The start of a task moves nothing. -/
theorem carried_resume_job (free : b.jobs.find? actor = none) (task : Task) (other : Actor) :
    (b.resume actor task.job).carried other = b.carried other := by
  by_cases hother : actor = other
  · subst hother
    rw [carried_resume, carried_of_free free]
    cases task <;> rfl
  · unfold carried
    rw [jobs_resume, Table.find?_insert, if_neg hother]

/-! ## Nothing, or one batch -/

/-- Nothing is pending, and nobody has taken anything out. -/
structure HoldsNothing (b : BufferedBackend) : Prop where
  buffer : b.buffer = .empty
  carried : ∀ actor, b.carried actor = []

/-- All that is held is one batch: it is pending, or one flush has taken it out. -/
inductive Alone (b : BufferedBackend) (batch : Wire.Batch) : Prop where
  | gone (nothing : b.HoldsNothing)
  | pending (buffer : b.buffer = UsageBuffer.empty.merge batch) (carried : ∀ actor, b.carried actor = [])
  | carried (who : Actor) (buffer : b.buffer = .empty) (takes : b.carried who = [batch])
      (others : ∀ actor, actor ≠ who → b.carried actor = [])

theorem HoldsNothing.congr (hb : b.HoldsNothing) (hbuffer : b'.buffer = b.buffer)
    (hcarried : ∀ actor, b'.carried actor = b.carried actor) : b'.HoldsNothing :=
  ⟨hbuffer.trans hb.buffer, fun actor => (hcarried actor).trans (hb.carried actor)⟩

theorem Alone.congr (hb : b.Alone batch) (hbuffer : b'.buffer = b.buffer)
    (hcarried : ∀ actor, b'.carried actor = b.carried actor) : b'.Alone batch := by
  cases hb with
  | gone nothing => exact .gone (nothing.congr hbuffer hcarried)
  | pending buffer carried =>
      exact .pending (hbuffer.trans buffer) fun actor => (hcarried actor).trans (carried actor)
  | carried who buffer takes others =>
      exact .carried who (hbuffer.trans buffer) ((hcarried who).trans takes)
        fun actor hne => (hcarried actor).trans (others actor hne)

/-- What is known of its actor and of the others is known of all actors. -/
theorem Stepped.forall_carried (h : Stepped b actor input p) (hown : p.state.carried actor = [])
    (hothers : ∀ other, other ≠ actor → b.carried other = []) (other : Actor) :
    p.state.carried other = [] := by
  by_cases hother : other = actor
  · rw [hother]
    exact hown
  · rw [h.carried_of_ne hother]
    exact hothers other hother

/-- Where nothing is held, there will be something only once it is recorded. -/
theorem Stepped.holdsNothing (h : Stepped b actor input p) (hb : b.HoldsNothing)
    (hnot : recordedOf p.events = []) : p.state.HoldsNothing := by
  have hothers : ∀ other, other ≠ actor → b.carried other = [] := fun other _ => hb.carried other
  cases h.moved with
  | nothing _ buffer carried =>
      exact ⟨buffer.trans hb.buffer, h.forall_carried (carried.trans (hb.carried actor)) hothers⟩
  | recorded event =>
      rw [hnot] at event
      cases event
  | drained _ free buffer carried =>
      refine ⟨buffer, h.forall_carried ?_ hothers⟩
      rw [carried, hb.buffer]
      rfl
  | accepted _ first | requeued _ first =>
      rw [hb.carried actor] at first
      cases first

/-- What is recorded where nothing is held is alone there. -/
theorem Stepped.alone_of_recorded (h : Stepped b actor input p) (hb : b.HoldsNothing)
    {request : Wire.Request} {t : Transaction} (hrecorded : recordedOf p.events = [request])
    (ht : request.transactions = [t]) : p.state.Alone ((request.keyOf t).batch t.usage) := by
  have hothers : ∀ other, other ≠ actor → b.carried other = [] := fun other _ => hb.carried other
  cases h.moved with
  | recorded event free buffer carried =>
      rw [hrecorded] at event
      cases event
      refine .pending ?_ (h.forall_carried carried hothers)
      rw [buffer, hb.buffer]
      exact UsageBuffer.record_empty ht
  | nothing silent | drained silent | accepted silent | requeued silent =>
      rw [hrecorded] at silent
      cases silent

/-- **A batch that is alone stays alone**, and stays the batch that it is. -/
theorem Stepped.alone (h : Stepped b actor input p) (hb : b.Alone batch)
    (hnot : recordedOf p.events = []) : p.state.Alone batch := by
  cases hb with
  | gone nothing => exact .gone (h.holdsNothing nothing hnot)
  | pending buffer carried =>
      have hothers : ∀ other, other ≠ actor → b.carried other = [] := fun other _ => carried other
      cases h.moved with
      | nothing _ buffer' carried' =>
          exact .pending (buffer'.trans buffer) (h.forall_carried (carried'.trans (carried actor)) hothers)
      | recorded event =>
          rw [hnot] at event
          cases event
      | drained _ free buffer' carried' =>
          -- the flush takes the batch along, unless there is nothing in it to report
          rw [buffer, UsageBuffer.batches_merge_empty] at carried'
          split at carried'
          · exact .gone ⟨buffer', h.forall_carried carried' hothers⟩
          · refine .carried actor buffer' carried' fun other hne => ?_
            rw [h.carried_of_ne hne]
            exact carried other
      | accepted _ first | requeued _ first =>
          rw [carried actor] at first
          cases first
  | carried who buffer takes others =>
      by_cases hwho : actor = who
      · subst hwho
        cases h.moved with
        | nothing _ buffer' carried' =>
            refine .carried actor (buffer'.trans buffer) (carried'.trans takes) fun other hne => ?_
            rw [h.carried_of_ne hne]
            exact others other hne
        | recorded _ free | drained _ free =>
            rw [takes] at free
            cases free
        | accepted _ first buffer' =>
            rw [takes] at first
            injection first with _ hrest
            exact .gone ⟨buffer'.trans buffer, h.forall_carried hrest.symm others⟩
        | requeued _ first buffer' =>
            -- the buffer is empty, so that the batch goes back as it was
            rw [takes] at first
            injection first with hbatch hrest
            rw [buffer, ← hbatch] at buffer'
            exact .pending buffer' (h.forall_carried hrest.symm others)
      · -- an actor without a batch finds an empty buffer
        have hfree : b.carried actor = [] := others actor hwho
        have hkeeps : p.state.carried who = [batch] := by
          rw [h.carried_of_ne fun heq => hwho heq.symm]
          exact takes
        have hothers : p.state.carried actor = [] →
            ∀ other, other ≠ who → p.state.carried other = [] := by
          intro hown other hne
          by_cases hother : other = actor
          · rw [hother]
            exact hown
          · rw [h.carried_of_ne hother]
            exact others other hne
        cases h.moved with
        | nothing _ buffer' carried' =>
            exact .carried who (buffer'.trans buffer) hkeeps (hothers (carried'.trans hfree))
        | recorded event =>
            rw [hnot] at event
            cases event
        | drained _ free buffer' carried' =>
            rw [buffer] at carried'
            exact .carried who buffer' hkeeps (hothers carried')
        | accepted _ first | requeued _ first =>
            rw [hfree] at first
            cases first

/-- **What is taken out is the batch that is alone.** -/
theorem Alone.eq_of_carried (hb : b.Alone batch) {taken : Wire.Batch} {rest : List Wire.Batch}
    (hcarried : b.carried actor = taken :: rest) : taken = batch := by
  cases hb with
  | gone nothing =>
      rw [nothing.carried actor] at hcarried
      cases hcarried
  | pending buffer carried =>
      rw [carried actor] at hcarried
      cases hcarried
  | carried who buffer takes others =>
      by_cases hwho : actor = who
      · subst hwho
        rw [takes] at hcarried
        injection hcarried with hbatch
        exact hbatch.symm
      · rw [others actor hwho] at hcarried
        cases hcarried

end BufferedBackend

end GatewayAuth
