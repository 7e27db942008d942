import GatewayAuth.Proofs.Table
import GatewayAuth.Usage.Buffer

/-!
# `GatewayAuth.Proofs.Usage.Totals` — what a buffer holds, account by account

Usage is counted per `Account`, one metric under one key. Recording and merging add what they are given to the
account: the exact sum, held at the bounds of 64 bits, and so exactly as long as it stays within them; draining
moves everything into batches.

## Contents
- `Account`; `usageAt` of batches and requests, `UsageBuffer.pendingAt`: the amounts that belong to an account.
- `InRange`, `UsageBuffer.sums`, `UsageBuffer.recordSums`: the running totals that an operation forms.
- `Usage.total_add_eq_clamp64`, `pendingAt_accumulate_eq_clamp64`: sums at the bounds of 64 bits.
- `pendingAt_accumulate`, `pendingAt_record`, `pendingAt_merge`, `usageAt_batches`: one equation for each operation.
-/

namespace GatewayAuth

-- The zero of a sum is that of the core library, also where another one is in scope.
attribute [local instance (high)] Zero.ofOfNat0

/-! ## Accounts -/

/-- What usage is counted by: a metric under the key of a batch. -/
structure Account where
  key : BatchKey
  metric : String
  deriving DecidableEq, Repr

/-- The amount of a batch that belongs to an account. -/
def Wire.Batch.usageAt (b : Wire.Batch) (a : Account) : Int :=
  if b.key = a.key then b.usage.total a.metric else 0

/-- The amount of some batches that belongs to an account. -/
def batchesAt (bs : List Wire.Batch) (a : Account) : Int := (bs.map (·.usageAt a)).sum

/-- The amount of some transactions of a request that belongs to an account. -/
def Wire.Request.transactionsAt (r : Wire.Request) (ts : List Transaction) (a : Account) : Int :=
  (ts.map fun t => if r.keyOf t = a.key then t.usage.total a.metric else 0).sum

/-- The amount of a request that belongs to an account. -/
def Wire.Request.usageAt (r : Wire.Request) (a : Account) : Int := r.transactionsAt r.transactions a

/-- The amount of some requests that belongs to an account. -/
def requestsAt (rs : List Wire.Request) (a : Account) : Int := (rs.map (·.usageAt a)).sum

@[simp] theorem batchesAt_nil (a : Account) : batchesAt [] a = 0 := rfl

@[simp] theorem batchesAt_cons (b : Wire.Batch) (bs : List Wire.Batch) (a : Account) :
    batchesAt (b :: bs) a = b.usageAt a + batchesAt bs a := by simp [batchesAt]

@[simp] theorem requestsAt_nil (a : Account) : requestsAt [] a = 0 := rfl

@[simp] theorem requestsAt_cons (r : Wire.Request) (rs : List Wire.Request) (a : Account) :
    requestsAt (r :: rs) a = r.usageAt a + requestsAt rs a := by simp [requestsAt]

theorem batchesAt_append (bs bs' : List Wire.Batch) (a : Account) :
    batchesAt (bs ++ bs') a = batchesAt bs a + batchesAt bs' a := by
  simp [batchesAt]

theorem requestsAt_append (rs rs' : List Wire.Request) (a : Account) :
    requestsAt (rs ++ rs') a = requestsAt rs a + requestsAt rs' a := by
  simp [requestsAt]

/-- A sum that needs no more than 64 bits. -/
def InRange (i : Int) : Prop := Decimal.int64Min ≤ i ∧ i ≤ Decimal.int64Max

instance (i : Int) : Decidable (InRange i) := inferInstanceAs (Decidable (_ ∧ _))

theorem inRange_toInt (d : Int64) : InRange d.toInt := by
  have hlower := d.le_toInt
  have hupper := d.toInt_lt
  unfold InRange Decimal.int64Min Decimal.int64Max
  omega

theorem InRange.toInt_ofInt {i : Int} (h : InRange i) : (Int64.ofInt i).toInt = i := by
  have hupper := h.2
  unfold Decimal.int64Max at hupper
  exact Int64.toInt_ofInt_of_le h.1 (by omega)

/-! ## Totals of usage -/

namespace Usage

theorem total_of_find? {u : Usage} {m : String} {d : Int64} (h : u.find? m = some d) :
    u.total m = d.toInt := by
  unfold total
  rw [h]

theorem total_of_find?_none {u : Usage} {m : String} (h : u.find? m = none) : u.total m = 0 := by
  unfold total
  rw [h]

theorem find?_addDelta (u : Usage) (m m' : String) (d : Int64) :
    (u.addDelta m d).find? m' =
      if m = m' then some (addSaturating ((u.find? m).getD 0) d) else u.find? m' :=
  Table.find?_alter u m m' _

/-- Adding a list of deltas without repeated metrics changes each total at most once. -/
theorem find?_foldl_addDelta {l : List (String × Int64)} (hl : (l.map Prod.fst).Nodup) (u : Usage)
    (m : String) :
    (l.foldl (fun totals e => addDelta totals e.1 e.2) u).find? m =
      match Assoc.find? m l with
      | some d => some (addSaturating ((u.find? m).getD 0) d)
      | none => u.find? m := by
  induction l generalizing u with
  | nil => rfl
  | cons e rest ih =>
      obtain ⟨m₀, d₀⟩ := e
      simp only [List.map_cons, List.nodup_cons] at hl
      rw [List.foldl_cons, ih hl.2, find?_addDelta]
      by_cases hm : m₀ = m
      · subst hm
        have hnone : Assoc.find? m₀ rest = none := Assoc.find?_eq_none_iff.2 hl.1
        simp [Assoc.find?, hnone]
      · simp [Assoc.find?, hm]

theorem find?_add (u v : Usage) (m : String) :
    (u.add v).find? m =
      match v.find? m with
      | some d => some (addSaturating ((u.find? m).getD 0) d)
      | none => u.find? m :=
  find?_foldl_addDelta v.nodup u m

theorem inRange_total (u : Usage) (m : String) : InRange (u.total m) := by
  unfold total
  split
  · exact inRange_toInt _
  · decide

/-- **Adding holds the exact sum at the bounds**, metric by metric. -/
theorem total_add_eq_clamp64 (u v : Usage) (m : String) :
    (u.add v).total m = clamp64 (u.total m + v.total m) := by
  have hadd := find?_add u v m
  cases hv : v.find? m with
  | none =>
      -- what is not added to is within the bounds already
      rw [hv] at hadd
      have hsame : (u.add v).total m = u.total m := by
        unfold total
        rw [hadd]
      rw [hsame, total_of_find?_none hv, Int.add_zero, clamp64_of_mem (u.inRange_total m)]
  | some d =>
      rw [hv] at hadd
      have hu : ((u.find? m).getD 0).toInt = u.total m := by
        unfold total
        cases u.find? m <;> rfl
      rw [total_of_find? hadd, toInt_addSaturating, total_of_find? hv, hu]

/-- A metric stays once it is there, and comes in only with what is added. -/
theorem contains_add (u v : Usage) (m : String) :
    (u.add v).contains m = (u.contains m || v.contains m) := by
  unfold Table.contains
  rw [find?_add]
  cases v.find? m <;> simp

end Usage

/-! ## Buffers -/

namespace UsageBuffer

/-- The amount pending in an account. -/
def pendingAt (b : UsageBuffer) (a : Account) : Int := b.total a.key a.metric

/-- The running totals of an account that adding usage under a key forms. -/
def sums (b : UsageBuffer) (key : BatchKey) (usage : Usage) (a : Account) : List Int :=
  if key = a.key then [b.pendingAt a + usage.total a.metric] else []

/-- The running totals of an account that recording transactions of a request forms. -/
def recordSums (a : Account) (r : Wire.Request) : UsageBuffer → List Transaction → List Int
  | _, [] => []
  | b, t :: ts =>
    b.sums (r.keyOf t) t.usage a ++ recordSums a r (b.accumulate (r.keyOf t) t.usage) ts

@[simp] theorem pendingAt_empty (a : Account) : empty.pendingAt a = 0 := rfl

theorem find?_accumulate (b : UsageBuffer) (k k' : BatchKey) (u : Usage) :
    (b.accumulate k u).pending.find? k' =
      if k = k' then some (((b.pending.find? k).getD .empty).add u) else b.pending.find? k' :=
  Table.find?_alter b.pending k k' _

theorem total_getD (b : UsageBuffer) (k : BatchKey) (m : String) :
    Usage.total ((b.pending.find? k).getD .empty) m = b.total k m := by
  unfold total
  cases b.pending.find? k <;> rfl

theorem inRange_pendingAt (b : UsageBuffer) (a : Account) : InRange (b.pendingAt a) := by
  unfold UsageBuffer.pendingAt total
  split
  · exact Usage.inRange_total _ _
  · decide

/-- **Accumulating adds the usage to its account, as far as the bounds allow, and to no other.** -/
theorem pendingAt_accumulate_eq_clamp64 (b : UsageBuffer) (k : BatchKey) (u : Usage) (a : Account) :
    (b.accumulate k u).pendingAt a =
      if k = a.key then clamp64 (b.pendingAt a + u.total a.metric) else b.pendingAt a := by
  have hfind := find?_accumulate b k a.key u
  by_cases hk : k = a.key
  · rw [if_pos hk] at hfind ⊢
    have htotal : Usage.total ((b.pending.find? k).getD .empty) a.metric = b.pendingAt a := by
      rw [total_getD, hk]
      rfl
    unfold UsageBuffer.pendingAt total at *
    rw [hfind]
    show Usage.total (Usage.add _ u) a.metric = _
    rw [Usage.total_add_eq_clamp64, htotal]
  · rw [if_neg hk] at hfind ⊢
    unfold UsageBuffer.pendingAt total
    rw [hfind]

/-- **Accumulating adds the usage to its account and to no other**, exactly within 64 bits. -/
theorem pendingAt_accumulate {b : UsageBuffer} {k : BatchKey} {u : Usage} {a : Account}
    (fits : ∀ n ∈ b.sums k u a, InRange n) :
    (b.accumulate k u).pendingAt a = b.pendingAt a + if k = a.key then u.total a.metric else 0 := by
  rw [pendingAt_accumulate_eq_clamp64]
  unfold sums at fits
  split
  · next hk =>
    rw [if_pos hk] at fits
    exact clamp64_of_mem (fits _ (List.mem_singleton_self _))
  · rw [Int.add_zero]

theorem pendingAt_foldl_accumulate {a : Account} {r : Wire.Request} {ts : List Transaction} :
    ∀ {b : UsageBuffer}, (∀ n ∈ recordSums a r b ts, InRange n) →
      (ts.foldl (fun b t => b.accumulate (r.keyOf t) t.usage) b).pendingAt a =
        b.pendingAt a + r.transactionsAt ts a := by
  induction ts with
  | nil => intro b _; simp [Wire.Request.transactionsAt]
  | cons t ts ih =>
      intro b fits
      unfold recordSums at fits
      have hfirst := pendingAt_accumulate fun n hn => fits n (List.mem_append_left _ hn)
      rw [List.foldl_cons, ih fun n hn => fits n (List.mem_append_right _ hn), hfirst]
      simp only [Wire.Request.transactionsAt, List.map_cons, List.sum_cons]
      omega

/-- **Recording adds exactly the usage of the request.** -/
theorem pendingAt_record {b : UsageBuffer} {r : Wire.Request} {a : Account}
    (fits : ∀ n ∈ recordSums a r b r.transactions, InRange n) :
    (b.record r).pendingAt a = b.pendingAt a + r.usageAt a := pendingAt_foldl_accumulate fits

/-- **Merging adds exactly the usage of the batch.** -/
theorem pendingAt_merge {b : UsageBuffer} {batch : Wire.Batch} {a : Account}
    (fits : ∀ n ∈ b.sums batch.key batch.usage a, InRange n) :
    (b.merge batch).pendingAt a = b.pendingAt a + batch.usageAt a := pendingAt_accumulate fits

/-! ### Draining -/

theorem usageAt_batch (k : BatchKey) (u : Usage) (a : Account) :
    (k.batch u).usageAt a = if k = a.key then u.total a.metric else 0 := rfl

theorem total_of_isEmpty {u : Usage} (h : u.isEmpty = true) (m : String) : u.total m = 0 := by
  apply Usage.total_of_find?_none
  unfold Table.find?
  rw [List.isEmpty_iff.1 h]
  rfl

/-- Keys without any metric may be left out of a sum. -/
theorem batchesAt_filter_isEmpty (l : List (BatchKey × Usage)) (a : Account) :
    batchesAt ((l.filter fun e => !e.2.isEmpty).map fun e => e.1.batch e.2) a =
      Assoc.sumOf (fun k u => if k = a.key then Usage.total u a.metric else 0) l := by
  induction l with
  | nil => rfl
  | cons e rest ih =>
      unfold Assoc.sumOf at ih ⊢
      rw [List.map_cons, List.sum_cons, ← ih]
      cases he : e.2.isEmpty with
      | false => simp [he, usageAt_batch]
      | true => simp [he, total_of_isEmpty he]

/-- **Draining takes out exactly what is pending.** -/
theorem usageAt_batches (b : UsageBuffer) (a : Account) : batchesAt b.batches a = b.pendingAt a := by
  unfold batches
  rw [batchesAt_filter_isEmpty]
  rw [show Assoc.sumOf _ b.pending.toList = Table.sumOf _ b.pending from rfl]
  rw [Table.sumOf_single (k := a.key) b.pending fun k u hk => if_neg hk]
  unfold UsageBuffer.pendingAt total
  cases b.pending.find? a.key <;> simp

end UsageBuffer

end GatewayAuth
