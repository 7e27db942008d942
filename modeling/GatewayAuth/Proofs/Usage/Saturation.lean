import GatewayAuth.Proofs.Usage.Totals

/-!
# `GatewayAuth.Proofs.Usage.Saturation` — totals while no report succeeds

A flush whose reports fail takes everything out of a buffer and puts it back, one batch after the other and in any
order, while usage comes in and other flushes do the same. Each addition holds its total at the bounds of 64 bits, and
what is beyond a bound is lost there. Where no delta is negative, it does not matter when that happens: nothing comes
down from the upper bound again, so what the next flush takes out is the sum of all deltas, held at that bound. For
deltas of any sign it is the sum itself, as long as no total has been held.

## Contents
- `Act`, `Flushing`, `after`: what is done with a buffer, and what comes of it; `recordedIn`, `formedIn`.
- `mem_batches`, `yields_batches`: what draining takes out, key by key.
- `exact_after`: the balance as long as no total leaves the bounds.
- `Capped`, `capped_after`: the balance up to the upper bound, where no delta is negative.
- `Restores`, `restores_foldl_merge`: a failed flush with nothing in between.
- `Saturates`, `totals_saturate`: all of it, for every past.
-/

namespace GatewayAuth

-- The zero of a sum is that of the core library, also where another one is in scope.
attribute [local instance (high)] Zero.ofOfNat0

/-! ## Sums at the upper bound -/

/-- What is not negative can only be held at the upper bound. -/
theorem clamp64_eq_min {i : Int} (h : 0 ≤ i) : clamp64 i = min i Decimal.int64Max := by
  unfold clamp64 Decimal.int64Min
  split
  · omega
  · split <;> omega

theorem addSaturating_zero_left (d : Int64) : addSaturating 0 d = d := by
  have hsum : clamp64 ((0 : Int64).toInt + d.toInt) = d.toInt := by
    rw [show (0 : Int64).toInt = 0 from rfl, Int.zero_add]
    exact clamp64_of_mem (inRange_toInt d)
  unfold addSaturating
  rw [hsum, Int64.ofInt_toInt]

/-- Adding to nothing changes nothing. -/
theorem Usage.find?_empty_add (u : Usage) (m : String) : (Usage.add .empty u).find? m = u.find? m := by
  rw [find?_add, Table.find?_empty]
  cases u.find? m with
  | none => rfl
  | some d => exact congrArg some (addSaturating_zero_left d)

/-- No delta that a request has for an account is negative. -/
def Wire.Request.NonnegAt (r : Wire.Request) (a : Account) : Prop :=
  ∀ t ∈ r.transactions, r.keyOf t = a.key → 0 ≤ t.usage.total a.metric

instance (r : Wire.Request) (a : Account) : Decidable (r.NonnegAt a) :=
  inferInstanceAs (Decidable (∀ t ∈ r.transactions, _ → _))

namespace UsageBuffer

/-! ## What is done with a buffer -/

/-- What is done with a buffer while no report succeeds. -/
inductive Act where
  | record (request : Wire.Request)
  /-- A flush takes everything out. -/
  | drain
  /-- A flush puts back a batch that could not be reported. -/
  | requeue (batch : Wire.Batch)

/-- A buffer, and the batches that flushes have taken out of it and not put back. -/
structure Flushing where
  buffer : UsageBuffer
  out : List Wire.Batch

/-- What comes of one act; only a batch that is out can be put back. -/
def Flushing.next (s : Flushing) : Act → Flushing
  | .record request => { s with buffer := s.buffer.record request }
  | .drain => ⟨s.buffer.drain.2, s.out ++ s.buffer.drain.1⟩
  | .requeue batch => if batch ∈ s.out then ⟨s.buffer.merge batch, s.out.erase batch⟩ else s

/-- The running totals of an account that an act forms. -/
def Flushing.formed (s : Flushing) (a : Account) : Act → List Int
  | .record request => recordSums a request s.buffer request.transactions
  | .drain => []
  | .requeue batch => if batch ∈ s.out then s.buffer.sums batch.key batch.usage a else []

/-- What comes of some acts, the last one first, on a buffer with nothing in it. -/
def after : List Act → Flushing
  | [] => ⟨empty, []⟩
  | act :: past => (after past).next act

/-- The requests that have been recorded. -/
def recordedIn : List Act → List Wire.Request
  | [] => []
  | .record request :: past => request :: recordedIn past
  | _ :: past => recordedIn past

/-- The running totals of an account that have been formed. -/
def formedIn (a : Account) : List Act → List Int
  | [] => []
  | act :: past => (after past).formed a act ++ formedIn a past

variable {b : UsageBuffer} {a : Account} {r : Wire.Request} {k : BatchKey} {u : Usage}
  {batch : Wire.Batch} {bs : List Wire.Batch} {s : Flushing} {past : List Act}

/-! ## What is taken out -/

/-- Draining gives one batch for each key that has a metric. -/
theorem mem_batches : batch ∈ b.batches ↔
    ∃ u, b.pending.find? batch.key = some u ∧ u.isEmpty = false ∧ batch = batch.key.batch u := by
  unfold batches
  rw [List.mem_map]
  constructor
  · rintro ⟨⟨k, u⟩, hentry, rfl⟩
    obtain ⟨hmem, hmetric⟩ := List.mem_filter.1 hentry
    refine ⟨u, Table.find?_eq_some_iff.2 hmem, ?_, rfl⟩
    simpa using hmetric
  · rintro ⟨u, hfind, hmetric, hbatch⟩
    refine ⟨(batch.key, u), List.mem_filter.2 ⟨Table.find?_eq_some_iff.1 hfind, ?_⟩, hbatch.symm⟩
    simpa using hmetric

theorem nodup_keys_batches (b : UsageBuffer) : (b.batches.map Wire.Batch.key).Nodup := by
  unfold batches
  rw [List.map_map]
  exact b.pending.nodup.sublist (List.filter_sublist.map Prod.fst)

/-- The batch of a key has all that is pending under it. -/
theorem total_of_mem_batches (hmem : batch ∈ b.batches) (hkey : batch.key = a.key) :
    batch.usage.total a.metric = b.pendingAt a := by
  obtain ⟨u, hfind, -, hbatch⟩ := mem_batches.1 hmem
  unfold UsageBuffer.pendingAt total
  rw [← hkey, hfind, hbatch]
  rfl

/-- What some batches have for an account: the sum over all of them, and the total of every one with its key. -/
def Yields (bs : List Wire.Batch) (a : Account) (n : Int) : Prop :=
  batchesAt bs a = n ∧ ∀ batch ∈ bs, batch.key = a.key → batch.usage.total a.metric = n

/-- **A drain yields what is pending.** -/
theorem yields_batches (b : UsageBuffer) (a : Account) : Yields b.batches a (b.pendingAt a) :=
  ⟨usageAt_batches b a, fun _ hmem hkey => total_of_mem_batches hmem hkey⟩

theorem batchesAt_erase (hmem : batch ∈ bs) (a : Account) :
    batch.usageAt a + batchesAt (bs.erase batch) a = batchesAt bs a := by
  rw [← batchesAt_cons]
  exact (sum_map_of_perm (List.perm_cons_erase hmem) (·.usageAt a)).symm

/-! ## Within the bounds -/

/-- **As long as no total leaves the bounds, what has been recorded is pending or out.** -/
theorem exact_after (fits : ∀ n ∈ formedIn a past, InRange n) :
    requestsAt (recordedIn past) a =
      (after past).buffer.pendingAt a + batchesAt (after past).out a := by
  induction past with
  | nil => rfl
  | cons act past ih =>
      have ih := ih fun n hn => fits n (List.mem_append_right _ hn)
      have fits : ∀ n ∈ (after past).formed a act, InRange n := fun n hn =>
        fits n (List.mem_append_left _ hn)
      cases act with
      | record request =>
          have hrecord := pendingAt_record fits
          show requestsAt (request :: recordedIn past) a =
            ((after past).buffer.record request).pendingAt a + batchesAt (after past).out a
          rw [requestsAt_cons, hrecord, ih]
          omega
      | drain =>
          show requestsAt (recordedIn past) a =
            empty.pendingAt a + batchesAt ((after past).out ++ (after past).buffer.batches) a
          rw [pendingAt_empty, batchesAt_append, usageAt_batches, ih]
          omega
      | requeue batch =>
          show requestsAt (recordedIn past) a = ((after past).next (.requeue batch)).buffer.pendingAt a +
            batchesAt ((after past).next (.requeue batch)).out a
          unfold Flushing.next
          unfold Flushing.formed at fits
          dsimp only at fits ⊢
          split
          · next hmem =>
            rw [if_pos hmem] at fits
            have hmerge := pendingAt_merge fits
            have herase := batchesAt_erase hmem a
            dsimp only
            omega
          · exact ih

/-! ## Up to the upper bound -/

/-- What is added to an account that is not negative can only be held at the upper bound. -/
theorem pendingAt_accumulate_eq_min (hb : 0 ≤ b.pendingAt a) (hu : k = a.key → 0 ≤ u.total a.metric) :
    (b.accumulate k u).pendingAt a =
      min (b.pendingAt a + if k = a.key then u.total a.metric else 0) Decimal.int64Max := by
  rw [pendingAt_accumulate_eq_clamp64]
  split
  · next hk =>
    have hdelta := hu hk
    exact clamp64_eq_min (by omega)
  · have hupper := (b.inRange_pendingAt a).2
    omega

theorem transactionsAt_nonneg {ts : List Transaction}
    (hts : ∀ t ∈ ts, r.keyOf t = a.key → 0 ≤ t.usage.total a.metric) : 0 ≤ r.transactionsAt ts a := by
  apply sum_map_nonneg
  intro t ht
  split
  · next hk => exact hts t ht hk
  · exact Int.le_refl 0

theorem pendingAt_foldl_accumulate_eq_min {ts : List Transaction}
    (hts : ∀ t ∈ ts, r.keyOf t = a.key → 0 ≤ t.usage.total a.metric) :
    ∀ {b : UsageBuffer}, 0 ≤ b.pendingAt a →
      (ts.foldl (fun b t => b.accumulate (r.keyOf t) t.usage) b).pendingAt a =
        min (b.pendingAt a + r.transactionsAt ts a) Decimal.int64Max := by
  induction ts with
  | nil =>
      intro b hb
      have hupper := (b.inRange_pendingAt a).2
      show b.pendingAt a = min (b.pendingAt a + 0) _
      omega
  | cons t ts ih =>
      intro b hb
      have hfirst := pendingAt_accumulate_eq_min hb (hts t List.mem_cons_self)
      have hrest : ∀ t ∈ ts, r.keyOf t = a.key → 0 ≤ t.usage.total a.metric := fun t ht =>
        hts t (List.mem_cons_of_mem _ ht)
      have hsum := transactionsAt_nonneg hrest
      have hdelta : 0 ≤ if r.keyOf t = a.key then t.usage.total a.metric else 0 := by
        split
        · next hk => exact hts t List.mem_cons_self hk
        · exact Int.le_refl 0
      have hmax : 0 ≤ Decimal.int64Max := by decide
      rw [List.foldl_cons, ih hrest (by omega), hfirst]
      simp only [Wire.Request.transactionsAt, List.map_cons, List.sum_cons] at hsum ⊢
      omega

/-- Where no delta of an account is negative, a recorded request is added as far as the upper bound allows. -/
theorem pendingAt_record_eq_min (hb : 0 ≤ b.pendingAt a) (hr : r.NonnegAt a) :
    (b.record r).pendingAt a = min (b.pendingAt a + r.usageAt a) Decimal.int64Max :=
  pendingAt_foldl_accumulate_eq_min hr hb

/-- An account with nothing negative in it, in which `n` has been recorded: held at the upper bound, this is what is
pending and out together. -/
structure Capped (s : Flushing) (a : Account) (n : Int) : Prop where
  pending : 0 ≤ s.buffer.pendingAt a
  out : ∀ batch ∈ s.out, 0 ≤ batch.usageAt a
  sum : min (s.buffer.pendingAt a + batchesAt s.out a) Decimal.int64Max = min n Decimal.int64Max

variable {n : Int}

theorem Capped.record (h : Capped s a n) (hr : r.NonnegAt a) :
    Capped (s.next (.record r)) a (r.usageAt a + n) := by
  have hrecord := pendingAt_record_eq_min h.pending hr
  have husage : 0 ≤ r.usageAt a := transactionsAt_nonneg hr
  have hout : 0 ≤ batchesAt s.out a := sum_map_nonneg h.out
  have hpending := h.pending
  have hsum := h.sum
  have hmax : 0 ≤ Decimal.int64Max := by decide
  refine ⟨?_, h.out, ?_⟩
  · show 0 ≤ (s.buffer.record r).pendingAt a
    omega
  · show min ((s.buffer.record r).pendingAt a + batchesAt s.out a) _ = _
    omega

theorem Capped.drain (h : Capped s a n) : Capped (s.next .drain) a n := by
  refine ⟨Int.le_refl 0, ?_, ?_⟩
  · intro batch hmem
    rcases List.mem_append.1 hmem with hold | hnew
    · exact h.out batch hold
    · unfold Wire.Batch.usageAt
      split
      · next hkey =>
        rw [total_of_mem_batches hnew hkey]
        exact h.pending
      · exact Int.le_refl 0
  · show min (empty.pendingAt a + batchesAt (s.out ++ s.buffer.batches) a) _ = _
    rw [pendingAt_empty, batchesAt_append, usageAt_batches, Int.zero_add, Int.add_comm]
    exact h.sum

theorem Capped.requeue (h : Capped s a n) : Capped (s.next (.requeue batch)) a n := by
  unfold Flushing.next
  dsimp only
  split
  · next hmem =>
    have husage := h.out batch hmem
    have hmerge : (s.buffer.merge batch).pendingAt a =
        min (s.buffer.pendingAt a + batch.usageAt a) Decimal.int64Max := by
      refine pendingAt_accumulate_eq_min h.pending fun hkey => ?_
      rw [Wire.Batch.usageAt, if_pos hkey] at husage
      exact husage
    have hrest : ∀ batch' ∈ s.out.erase batch, 0 ≤ batch'.usageAt a := fun batch' hmem' =>
      h.out batch' (List.mem_of_mem_erase hmem')
    have hout : 0 ≤ batchesAt (s.out.erase batch) a := sum_map_nonneg hrest
    have herase := batchesAt_erase hmem a
    have hpending := h.pending
    have hsum := h.sum
    have hmax : 0 ≤ Decimal.int64Max := by decide
    refine ⟨?_, hrest, ?_⟩
    · dsimp only
      omega
    · dsimp only
      omega
  · exact h

/-- **Where no delta of an account is negative, what has been recorded is pending or out, up to the upper bound.** -/
theorem capped_after (nonneg : ∀ r ∈ recordedIn past, r.NonnegAt a) :
    Capped (after past) a (requestsAt (recordedIn past) a) := by
  induction past with
  | nil => exact ⟨Int.le_refl 0, nofun, rfl⟩
  | cons act past ih =>
      cases act with
      | record request =>
          have hcapped := ih fun r hr => nonneg r (List.mem_cons_of_mem _ hr)
          show Capped _ a (requestsAt (request :: recordedIn past) a)
          rw [requestsAt_cons]
          exact hcapped.record (nonneg request List.mem_cons_self)
      | drain => exact (ih nonneg).drain
      | requeue batch => exact (ih nonneg).requeue

/-! ## A failed flush with nothing in between -/

theorem find?_foldl_merge_of_not_mem (hk : ∀ batch ∈ bs, batch.key ≠ k) :
    ∀ b : UsageBuffer, (bs.foldl merge b).pending.find? k = b.pending.find? k := by
  induction bs with
  | nil => exact fun _ => rfl
  | cons first rest ih =>
      intro b
      rw [List.foldl_cons, ih fun batch hmem => hk batch (List.mem_cons_of_mem _ hmem)]
      exact (find?_accumulate _ _ _ _).trans (if_neg (hk first List.mem_cons_self))

/-- Of batches with different keys, each one goes to its own key. -/
theorem find?_foldl_merge_of_mem (hbs : (bs.map Wire.Batch.key).Nodup) (hmem : batch ∈ bs) :
    ∀ b : UsageBuffer, (bs.foldl merge b).pending.find? batch.key =
      some (((b.pending.find? batch.key).getD .empty).add batch.usage) := by
  induction bs with
  | nil => cases hmem
  | cons first rest ih =>
      intro b
      rw [List.map_cons, List.nodup_cons] at hbs
      have hmerge := find?_accumulate b first.key batch.key first.usage
      rw [List.foldl_cons]
      rcases List.mem_cons.1 hmem with rfl | hrest
      · -- no later batch has this key
        rw [find?_foldl_merge_of_not_mem]
        · exact hmerge.trans (if_pos rfl)
        · intro later hlater heq
          apply hbs.1
          rw [← heq]
          exact List.mem_map_of_mem hlater
      · have hne : first.key ≠ batch.key := fun heq => hbs.1 (heq ▸ List.mem_map_of_mem hrest)
        rw [ih hbs.2 hrest]
        rw [if_neg hne] at hmerge
        show some (Usage.add (((b.accumulate first.key first.usage).pending.find? batch.key).getD .empty)
          batch.usage) = _
        rw [hmerge]

/-- A buffer has the keys of another one that have a metric there, and no others, all with the same totals. -/
structure Restores (b b' : UsageBuffer) : Prop where
  keys : ∀ k, b'.pending.contains k = true ↔ ∃ u, b.pending.find? k = some u ∧ u.isEmpty = false
  totals : ∀ k m, (b'.pending.find? k).bind (·.find? m) = (b.pending.find? k).bind (·.find? m)

/-- **Putting back all that was taken out restores the buffer**, in whatever order that is done. -/
theorem restores_foldl_merge (hbs : bs.Perm b.batches) : Restores b (bs.foldl merge empty) := by
  have hnodup : (bs.map Wire.Batch.key).Nodup :=
    (hbs.map Wire.Batch.key).nodup_iff.2 (nodup_keys_batches b)
  have hgone : ∀ {k}, (∀ u, b.pending.find? k = some u → u.isEmpty = true) →
      (bs.foldl merge empty).pending.find? k = none := by
    intro k hk
    rw [find?_foldl_merge_of_not_mem]
    · rfl
    · rintro batch hmem rfl
      obtain ⟨u, hfind, hmetric, -⟩ := mem_batches.1 (hbs.mem_iff.1 hmem)
      rw [hk u hfind] at hmetric
      cases hmetric
  have hback : ∀ {k u}, b.pending.find? k = some u → u.isEmpty = false →
      (bs.foldl merge empty).pending.find? k = some (Usage.add .empty u) := by
    intro k u hfind hmetric
    have hmem : k.batch u ∈ bs := hbs.mem_iff.2 (mem_batches.2 ⟨u, hfind, hmetric, rfl⟩)
    exact find?_foldl_merge_of_mem hnodup hmem empty
  constructor
  case keys =>
    intro k
    rw [Table.contains_eq_true_iff]
    constructor
    · rintro ⟨u', hu'⟩
      apply Decidable.byContradiction
      intro hnone
      rw [hgone] at hu'
      · cases hu'
      · intro u hfind
        cases hmetric : u.isEmpty with
        | true => rfl
        | false => exact absurd ⟨u, hfind, hmetric⟩ hnone
    · rintro ⟨u, hfind, hmetric⟩
      exact ⟨_, hback hfind hmetric⟩
  case totals =>
    intro k m
    cases hfind : b.pending.find? k with
    | none =>
        rw [hgone fun u hu => by rw [hfind] at hu; cases hu]
    | some u =>
        cases hmetric : u.isEmpty with
        | true =>
            -- a key without a metric is gone, and so are its totals, of which it had none
            rw [hgone fun u' hu' => by rw [hfind] at hu'; cases hu'; exact hmetric]
            show none = u.find? m
            unfold Table.find?
            rw [List.isEmpty_iff.1 hmetric]
            rfl
        | false =>
            rw [hback hfind hmetric]
            exact Usage.find?_empty_add u m

/-! ## All of it -/

/-- What has become of totals after some acts. -/
structure Saturates (past : List Act) : Prop where
  /-- Every total keeps within 64 bits. -/
  bounded : ∀ a, InRange ((after past).buffer.pendingAt a) ∧
    ∀ batch ∈ (after past).out, InRange (batch.usageAt a)
  /-- None wraps: what is added is the exact sum, held at the bounds. -/
  held : ∀ k u a, ((after past).buffer.accumulate k u).pendingAt a =
    if k = a.key then clamp64 ((after past).buffer.pendingAt a + u.total a.metric)
    else (after past).buffer.pendingAt a
  /-- Where no delta of an account is negative and every batch has been put back, the next drain yields the sum of all
  deltas, held at the upper bound. -/
  capped : ∀ a, (after past).out = [] → (∀ r ∈ recordedIn past, r.NonnegAt a) →
    Yields (after past).buffer.drain.1 a (min (requestsAt (recordedIn past) a) Decimal.int64Max)
  /-- Where no total of an account has left the bounds and every batch has been put back, it yields the sum of all
  deltas. -/
  exact : ∀ a, (after past).out = [] → (∀ n ∈ formedIn a past, InRange n) →
    Yields (after past).buffer.drain.1 a (requestsAt (recordedIn past) a)

/-- **Totals saturate, and failed flushes are not to be seen in them**, whatever has been done with a buffer and in
whatever order; and of any buffer, draining it and putting everything back restores each key that has a metric. -/
theorem totals_saturate :
    (∀ past, Saturates past) ∧
      ∀ (b : UsageBuffer) (bs : List Wire.Batch), bs.Perm b.drain.1 →
        Restores b (bs.foldl merge b.drain.2) := by
  refine ⟨fun past => ?_, fun b bs hbs => restores_foldl_merge hbs⟩
  constructor
  case bounded =>
    intro a
    refine ⟨inRange_pendingAt _ a, fun batch _ => ?_⟩
    unfold Wire.Batch.usageAt
    split
    · exact Usage.inRange_total _ _
    · decide
  case held => exact fun k u a => pendingAt_accumulate_eq_clamp64 _ k u a
  case capped =>
    intro a hback nonneg
    have hsum := (capped_after nonneg).sum
    have hupper := ((after past).buffer.inRange_pendingAt a).2
    rw [hback, batchesAt_nil, Int.add_zero, Int.min_eq_left hupper] at hsum
    rw [← hsum]
    exact yields_batches _ a
  case exact =>
    intro a hback fits
    have hsum := exact_after fits
    rw [hback, batchesAt_nil, Int.add_zero] at hsum
    rw [hsum]
    exact yields_batches _ a

/-! ## A past -/

/-- The application whose usage it is. -/
def consumer : BatchKey := ⟨⟨Credential.serviceToken, "t"⟩, "42", ⟨"", "", "", "u"⟩⟩

/-- Some calls, and a change of a quota. -/
def consumed (calls quota : Int64) : Usage := .ofList [("calls", calls), ("quota", quota)]

/-- The request with this usage. -/
def consuming (calls quota : Int64) : Wire.Request :=
  ⟨consumer.credential, consumer.service, [⟨consumed calls quota, consumer.params⟩], .empty⟩

/-- Two flushes at work at the same time, neither of which gets a report through. The calls are too many for 64 bits;
the quota goes down and up again. -/
def overlappingFailures : List Act :=
  [.requeue (consumer.batch (consumed 9223372036854775800 7)),
    .requeue (consumer.batch (consumed 20 (-20))), .record (consuming 5 3), .drain,
    .record (consuming 20 (-20)), .drain, .record (consuming 9223372036854775800 7)]

theorem totals_saturate_overlappingFailures :
    let s := after overlappingFailures
    s.out = [] ∧ requestsAt (recordedIn overlappingFailures) ⟨consumer, "calls"⟩ = 9223372036854775825 ∧
      Yields s.buffer.drain.1 ⟨consumer, "calls"⟩ 9223372036854775807 ∧
      Yields s.buffer.drain.1 ⟨consumer, "quota"⟩ (-10) ∧
      Restores s.buffer (s.buffer.drain.1.reverse.foldl merge s.buffer.drain.2) := by
  have hback : (after overlappingFailures).out = [] := by decide +kernel
  have hsaturates := totals_saturate.1 overlappingFailures
  have hcalls := hsaturates.capped ⟨consumer, "calls"⟩ hback (by decide +kernel)
  have hquota := hsaturates.exact ⟨consumer, "quota"⟩ hback (by decide +kernel)
  have hsum : requestsAt (recordedIn overlappingFailures) ⟨consumer, "calls"⟩ = 9223372036854775825 := by
    decide +kernel
  rw [hsum] at hcalls
  refine ⟨hback, hsum, hcalls, hquota, ?_⟩
  exact totals_saturate.2 _ _ (List.reverse_perm _)

end UsageBuffer

end GatewayAuth
