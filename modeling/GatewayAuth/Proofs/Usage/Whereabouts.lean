import GatewayAuth.Proofs.Usage.Steps

/-!
# `GatewayAuth.Proofs.Usage.Whereabouts` — usage followed from the buffer to the backend

Usage is kept by key and metric, and all that is pending under a key leaves the buffer in one batch. So what has been
recorded under a key can be followed: it is pending until somebody drains the buffer, and then it is carried by that
flush until the batch of its key is accepted or put back.

## Contents
- `UsageBuffer.Holds`, `BufferedJob.Carries`: usage in a buffer, and in the batches of a flush.
- `Whereabouts`, `Whereabouts.after`: where usage is, and where it is after a step.
- `Keeps`, `Stepped.keeps`: it is where it is said to be.
-/

namespace GatewayAuth

variable {key : BatchKey} {metric : String}

/-! ## Buffers and flushes -/

/-- There is a batch of a key, and a metric is in the batches of that key. -/
def BatchesHold (batches : List Wire.Batch) (key : BatchKey) (metric : String) : Prop :=
  (∃ batch ∈ batches, batch.key = key) ∧
    ∀ batch ∈ batches, batch.key = key → batch.usage.contains metric = true

/-- A metric is in the batches of a flush, under a key. -/
def BufferedJob.Carries (job : BufferedJob) (key : BatchKey) (metric : String) : Prop :=
  BatchesHold job.inFlight key metric

/-- A batch of another key is not missed. -/
theorem BatchesHold.of_ne {first : Wire.Batch} {rest : List Wire.Batch}
    (h : BatchesHold (first :: rest) key metric) (hne : first.key ≠ key) :
    BatchesHold rest key metric := by
  obtain ⟨⟨batch, hmem, hkey⟩, hall⟩ := h
  refine ⟨?_, fun batch hbatch => hall batch (List.mem_cons_of_mem _ hbatch)⟩
  rcases List.mem_cons.1 hmem with rfl | hrest
  · exact absurd hkey hne
  · exact ⟨batch, hrest, hkey⟩

/-- A metric is pending under a key. -/
def UsageBuffer.Holds (b : UsageBuffer) (key : BatchKey) (metric : String) : Prop :=
  ∃ usage, b.pending.find? key = some usage ∧ usage.contains metric = true

namespace UsageBuffer

variable {b : UsageBuffer}

theorem holds_accumulate_self {usage : Usage} (h : usage.contains metric = true) (b : UsageBuffer)
    (key : BatchKey) : (b.accumulate key usage).Holds key metric := by
  refine ⟨_, (find?_accumulate b key key usage).trans (if_pos rfl), ?_⟩
  rw [Usage.contains_add, h, Bool.or_true]

/-- What is pending stays pending while usage is added. -/
theorem Holds.accumulate (h : b.Holds key metric) (key' : BatchKey) (usage : Usage) :
    (b.accumulate key' usage).Holds key metric := by
  obtain ⟨pending, hfind, hcontains⟩ := h
  have hadded := find?_accumulate b key' key usage
  by_cases hkey : key' = key
  · subst hkey
    rw [if_pos rfl, hfind] at hadded
    refine ⟨_, hadded, ?_⟩
    rw [Usage.contains_add, Option.getD_some, hcontains, Bool.true_or]
  · rw [if_neg hkey] at hadded
    exact ⟨pending, hadded.trans hfind, hcontains⟩

theorem Holds.foldl_accumulate {request : Wire.Request} {ts : List Transaction} :
    ∀ {b : UsageBuffer}, b.Holds key metric →
      (ts.foldl (fun b t => b.accumulate (request.keyOf t) t.usage) b).Holds key metric := by
  induction ts with
  | nil => exact fun h => h
  | cons t ts ih => exact fun h => ih (h.accumulate _ _)

theorem Holds.record (h : b.Holds key metric) (request : Wire.Request) :
    (b.record request).Holds key metric := h.foldl_accumulate

theorem Holds.merge (h : b.Holds key metric) (batch : Wire.Batch) :
    (b.merge batch).Holds key metric := h.accumulate _ _

/-- What is put back is pending again. -/
theorem holds_merge {batch : Wire.Batch} (h : batch.usage.contains metric = true)
    (b : UsageBuffer) : (b.merge batch).Holds batch.key metric := holds_accumulate_self h b batch.key

/-- What is recorded is pending, each transaction under its own key. -/
theorem holds_record {request : Wire.Request} {t : Transaction} (ht : t ∈ request.transactions)
    (hmetric : t.usage.contains metric = true) (b : UsageBuffer) :
    (b.record request).Holds (request.keyOf t) metric := by
  -- once its own transaction is in, those that follow leave it there
  obtain ⟨before, after, hsplit⟩ := List.append_of_mem ht
  unfold UsageBuffer.record
  rw [hsplit, List.foldl_append, List.foldl_cons]
  exact (holds_accumulate_self hmetric _ _).foldl_accumulate

/-- What is pending under a key is in the batch of that key. -/
theorem Holds.batchesHold (h : b.Holds key metric) : BatchesHold b.batches key metric := by
  obtain ⟨usage, hfind, hcontains⟩ := h
  -- usage without any metric would be passed over by a drain
  have hfull : usage.isEmpty = false := by
    cases hempty : usage.isEmpty with
    | false => rfl
    | true =>
        obtain ⟨n, hn⟩ := Table.contains_eq_true_iff.1 hcontains
        unfold Table.find? at hn
        rw [List.isEmpty_iff.1 hempty] at hn
        cases hn
  refine ⟨⟨key.batch usage, ?_, rfl⟩, fun batch hmem hkey => ?_⟩
  · refine List.mem_map.2 ⟨(key, usage), List.mem_filter.2 ⟨Table.find?_eq_some_iff.1 hfind, ?_⟩, rfl⟩
    rw [hfull]
    rfl
  · obtain ⟨⟨key', usage'⟩, hentry, rfl⟩ := List.mem_map.1 hmem
    have hfind' := Table.find?_eq_some_iff.2 (List.mem_filter.1 hentry).1
    rw [show key' = key from hkey, hfind] at hfind'
    cases hfind'
    exact hcontains

end UsageBuffer

/-! ## Following usage -/

/-- Where usage is that has been recorded under a key. -/
inductive Whereabouts where
  /-- In the buffer. -/
  | pending
  /-- In the batches of a flush. -/
  | carried (actor : Actor)
  /-- At the backend. -/
  | accepted
  deriving DecidableEq, Repr

/-- Where usage of a key is after a step of an actor that has the job `job?` and is told `input`: a drain takes
along all that is pending, and the end of the report of its batch decides about what is carried. -/
def Whereabouts.after (key : BatchKey) (actor : Actor) (job? : Option BufferedJob) (input : Input) :
    Whereabouts → Whereabouts
  | .pending => if job? = some .draining then .carried actor else .pending
  | .carried other =>
    if actor = other then
      match job?, input with
      | some (.reporting batch _ _), .reported (.ok ()) =>
        if batch.key = key then .accepted else .carried other
      | some (.requeueing batch _ _), .turn =>
        if batch.key = key then .pending else .carried other
      | _, _ => .carried other
    else .carried other
  | .accepted => .accepted

/-- A metric under a key is where it is said to be, as far as a backend shows it. -/
def BufferedBackend.Keeps (b : BufferedBackend) (key : BatchKey) (metric : String) :
    Whereabouts → Prop
  | .pending => b.buffer.Holds key metric
  | .carried actor => ∃ job, b.jobs.find? actor = some job ∧ job.Carries key metric
  | .accepted => True

namespace Whereabouts

variable {actor : Actor} {input : Input} {w : Whereabouts}

/-- Who has no job at a backend moves no usage there. -/
@[simp] theorem after_none : w.after key actor none input = w := by
  cases w with
  | pending => rfl
  | carried other => exact ite_self _
  | accepted => rfl

/-- Only the flush that carries usage moves it. -/
theorem after_of_ne {other : Actor} (hne : actor ≠ other) (job? : Option BufferedJob) :
    (carried other).after key actor job? input = carried other := if_neg hne

theorem after_pending_of_ne {job? : Option BufferedJob} (hnot : job? ≠ some .draining) :
    pending.after key actor job? input = pending := if_neg hnot

/-- Usage that is pending after a step has not been taken out, or has been put back. -/
theorem of_after_eq_pending {job? : Option BufferedJob}
    (h : w.after key actor job? input = .pending) :
    w = .pending ∧ job? ≠ some .draining ∨
      ∃ batch rest summary, job? = some (.requeueing batch rest summary) := by
  cases w with
  | accepted => cases h
  | pending =>
      refine .inl ⟨rfl, fun hdraining => ?_⟩
      rw [show Whereabouts.pending.after key actor job? input = .carried actor
        from if_pos hdraining] at h
      cases h
  | carried other =>
      simp only [after] at h
      split at h
      · split at h
        · split at h <;> cases h
        · exact .inr ⟨_, _, _, rfl⟩
        · cases h
      · cases h

/-- Usage that is accepted after a step was so before, or the report of its batch has just succeeded. -/
theorem of_after_eq_accepted {job? : Option BufferedJob}
    (h : w.after key actor job? input = .accepted) :
    w = .accepted ∨ w = .carried actor ∧ input = .reported (.ok ()) ∧
      ∃ batch rest summary, job? = some (.reporting batch rest summary) ∧ batch.key = key := by
  cases w with
  | accepted => exact .inl rfl
  | pending =>
      simp only [after] at h
      split at h <;> cases h
  | carried other =>
      simp only [after] at h
      split at h
      · next hother =>
        subst hother
        split at h
        · next batch rest summary =>
          split at h
          · next hkey => exact .inr ⟨rfl, rfl, batch, rest, summary, rfl, hkey⟩
          · cases h
        · split at h <;> cases h
        · cases h
      · cases h

end Whereabouts

namespace BufferedBackend

variable {b : BufferedBackend} {actor : Actor} {input : Input} {w : Whereabouts}
  {p : Progress BufferedBackend Result Event}

/-- What is left of the batches of a flush is carried on. -/
theorem exists_carries_of_next {summary : FlushSummary} {rest : List Wire.Batch}
    (h : BatchesHold rest key metric) (b : BufferedBackend) (actor : Actor) :
    ∃ job, (b.next actor summary rest).state.jobs.find? actor = some job ∧
      job.Carries key metric := by
  rw [find?_next]
  cases rest with
  | nil => obtain ⟨⟨batch, hmem, -⟩, -⟩ := h; cases hmem
  | cons batch rest => exact ⟨_, rfl, h⟩

/-- A step away from the drains leaves pending usage pending. -/
theorem Stepped.holds_of_not_draining (h : Stepped b actor input p)
    (hnot : b.jobs.find? actor ≠ some .draining) (hpending : b.buffer.Holds key metric) :
    p.state.buffer.Holds key metric := by
  cases h with
  | denied | granted | failed | overridden | refused => exact hpending
  | recorded => exact hpending.record _
  | drained job => exact absurd job hnot
  | accepted =>
      rw [buffer_next]
      exact hpending
  | requeued =>
      rw [buffer_next]
      exact hpending.merge _

/-- The start of a task moves no usage. -/
theorem Keeps.resume (h : b.Keeps key metric w) (free : b.jobs.find? actor = none)
    (job : BufferedJob) : (b.resume actor job).Keeps key metric w := by
  cases w with
  | pending => exact h
  | accepted => trivial
  | carried other =>
      obtain ⟨mine, hmine, hcarries⟩ := h
      refine ⟨mine, ?_, hcarries⟩
      have hne : actor ≠ other := by
        rintro rfl
        rw [free] at hmine
        cases hmine
      rw [jobs_resume, Table.find?_insert, if_neg hne]
      exact hmine

/-- What goes into a buffer goes in from a request that is being recorded. -/
theorem Stepped.recording_of_recorded (h : Stepped b actor input p) {request : Wire.Request}
    (hmem : .recorded request ∈ p.events) :
    (∃ response, b.jobs.find? actor = some (.recording request response)) ∧
      p.state.buffer = b.buffer.record request := by
  have hnext : ∀ {b' : BufferedBackend} {summary : FlushSummary} {rest : List Wire.Batch},
      .recorded request ∉ (b'.next actor summary rest).events := by
    intro b' summary rest hmem
    cases rest with
    | nil => cases List.mem_singleton.1 hmem
    | cons batch rest => cases hmem
  cases h with
  | recorded job =>
      cases List.mem_singleton.1 hmem
      exact ⟨⟨_, job⟩, rfl⟩
  | drained job => exact absurd hmem hnext
  | accepted job =>
      rcases List.mem_cons.1 hmem with heq | hrest
      · cases heq
      · exact absurd hrest hnext
  | requeued job => exact absurd hmem hnext
  | _ => cases hmem

/-- **Usage is where it is said to be**, step after step. -/
theorem Stepped.keeps (h : Stepped b actor input p) (hkeeps : b.Keeps key metric w) :
    p.state.Keeps key metric (w.after key actor (b.jobs.find? actor) input) := by
  cases w with
  | accepted => trivial
  | pending =>
      by_cases hdraining : b.jobs.find? actor = some .draining
      · rw [show Whereabouts.pending.after key actor (b.jobs.find? actor) input = .carried actor
          from if_pos hdraining]
        cases h with
        | drained job => exact exists_carries_of_next hkeeps.batchesHold _ actor
        | _ => simp_all only [Option.some.injEq, reduceCtorEq]
      · rw [Whereabouts.after_pending_of_ne hdraining]
        exact h.holds_of_not_draining hdraining hkeeps
  | carried other =>
      obtain ⟨job, hjob, hcarries⟩ := hkeeps
      by_cases hother : actor = other
      · subst hother
        -- only a flush that is at a batch carries anything
        have hidle : ∀ {job' : BufferedJob}, b.jobs.find? actor = some job' →
            job'.inFlight ≠ [] := by
          intro job' hjob' hnil
          obtain ⟨⟨batch, hmem, -⟩, -⟩ := hcarries
          rw [hjob] at hjob'
          cases hjob'
          rw [hnil] at hmem
          cases hmem
        cases h with
        | @accepted first rest summary job' =>
            rw [hjob] at job'
            cases job'
            rw [hjob]
            by_cases hkey : first.key = key
            · simp only [Whereabouts.after, if_pos hkey, if_true]
              trivial
            · simp only [Whereabouts.after, if_neg hkey, if_true]
              exact exists_carries_of_next (hcarries.of_ne hkey) b actor
        | @refused first rest summary e job' =>
            rw [hjob] at job'
            cases job'
            rw [hjob]
            simp only [Whereabouts.after, if_true]
            exact ⟨_, Table.find?_insert_self _ _ _, hcarries⟩
        | @requeued first rest summary job' =>
            rw [hjob] at job'
            cases job'
            rw [hjob]
            by_cases hkey : first.key = key
            · simp only [Whereabouts.after, if_pos hkey, if_true]
              subst hkey
              show (BufferedBackend.next _ _ _ _).state.buffer.Holds first.key metric
              rw [buffer_next]
              exact UsageBuffer.holds_merge (hcarries.2 first List.mem_cons_self rfl) b.buffer
            · simp only [Whereabouts.after, if_neg hkey, if_true]
              exact exists_carries_of_next (hcarries.of_ne hkey) _ actor
        | denied job' | granted job' | failed job' | overridden job' | recorded job' | drained job' =>
            exact absurd rfl (hidle job')
      · rw [Whereabouts.after_of_ne hother]
        refine ⟨job, ?_, hcarries⟩
        rw [h.others fun heq => hother heq.symm]
        exact hjob

end BufferedBackend

end GatewayAuth
