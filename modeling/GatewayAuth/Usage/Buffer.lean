import GatewayAuth.Wire

/-!
# `GatewayAuth.Usage.Buffer` — authorized usage that waits for the next report

## Contents
- `addSaturating`, `Usage.add`: sums that stay at the bounds of 64 bits instead of wrapping.
- `BatchKey`, `UsageBuffer`: usage per credential, service and application.
- `record`, `merge`, `drain`: the three ways in which a buffer changes.
- `UsageBuffer.total`: the view through which a buffer's content is counted.
-/

namespace GatewayAuth

/-! ## Saturating sums -/

/-- An integer held within 64 bits. -/
def clamp64 (i : Int) : Int :=
  if i < Decimal.int64Min then Decimal.int64Min
  else if Decimal.int64Max < i then Decimal.int64Max
  else i

/-- The sum of two deltas, held at the bounds. -/
def addSaturating (a b : Int64) : Int64 := Int64.ofInt (clamp64 (a.toInt + b.toInt))

theorem clamp64_mem (i : Int) : Decimal.int64Min ≤ clamp64 i ∧ clamp64 i ≤ Decimal.int64Max := by
  unfold clamp64 Decimal.int64Min Decimal.int64Max
  split
  · omega
  · split <;> omega

theorem clamp64_of_mem {i : Int} (h : Decimal.int64Min ≤ i ∧ i ≤ Decimal.int64Max) :
    clamp64 i = i := by
  unfold clamp64
  rw [if_neg (by omega), if_neg (by omega)]

/-- Adding saturates the exact sum. -/
theorem toInt_addSaturating (a b : Int64) :
    (addSaturating a b).toInt = clamp64 (a.toInt + b.toInt) := by
  have h := clamp64_mem (a.toInt + b.toInt)
  unfold Decimal.int64Min Decimal.int64Max at h
  exact Int64.toInt_ofInt_of_le (by omega) (by omega)

/-! ## Usage -/

namespace Usage

/-- Add a delta to the total of a metric. -/
def addDelta (into : Usage) (metric : String) (delta : Int64) : Usage :=
  into.alter metric fun total => addSaturating (total.getD 0) delta

/-- Add every delta of `usage` to the totals. -/
def add (into usage : Usage) : Usage :=
  usage.toList.foldl (fun totals e => addDelta totals e.1 e.2) into

/-- The total of a metric, zero where there is none. -/
def total (usage : Usage) (metric : String) : Int :=
  match usage.find? metric with
  | some n => n.toInt
  | none => 0

end Usage

/-! ## Buffers -/

/-- Whose usage it is: what one report is about. -/
structure BatchKey where
  credential : Credential
  service : String
  params : Params
  deriving DecidableEq, Repr, Inhabited

/-- The key of a batch. -/
def Wire.Batch.key (b : Wire.Batch) : BatchKey := ⟨b.credential, b.service, b.params⟩

/-- The batch of the usage of one key. -/
def BatchKey.batch (k : BatchKey) (usage : Usage) : Wire.Batch :=
  ⟨k.credential, k.service, k.params, usage⟩

/-- The key under which a transaction of a request is recorded. -/
def Wire.Request.keyOf (r : Wire.Request) (t : Transaction) : BatchKey :=
  ⟨r.credential, r.service, t.params⟩

/-- Usage that waits to be reported. -/
structure UsageBuffer where
  pending : Table BatchKey Usage
  deriving DecidableEq, Repr

namespace UsageBuffer

/-- The buffer with nothing in it. -/
def empty : UsageBuffer := ⟨.empty⟩

instance : Inhabited UsageBuffer := ⟨empty⟩

/-- The number of keys with pending usage. -/
def size (b : UsageBuffer) : Nat := b.pending.size

/-- Whether nothing is pending. -/
def isEmpty (b : UsageBuffer) : Bool := b.pending.isEmpty

/-- Add usage under a key. -/
def accumulate (b : UsageBuffer) (key : BatchKey) (usage : Usage) : UsageBuffer :=
  ⟨b.pending.alter key fun totals => (totals.getD .empty).add usage⟩

/-- Add every transaction of an authorized request. -/
def record (b : UsageBuffer) (request : Wire.Request) : UsageBuffer :=
  request.transactions.foldl (fun b t => b.accumulate (request.keyOf t) t.usage) b

/-- Put back a batch that could not be reported. -/
def merge (b : UsageBuffer) (batch : Wire.Batch) : UsageBuffer := b.accumulate batch.key batch.usage

/-- The batches of everything pending; a key without any metric gives none. -/
def batches (b : UsageBuffer) : List Wire.Batch :=
  (b.pending.toList.filter fun e => !e.2.isEmpty).map fun e => e.1.batch e.2

/-- Take everything out. -/
def drain (b : UsageBuffer) : List Wire.Batch × UsageBuffer := (b.batches, empty)

/-- The pending total of a metric under a key. -/
def total (b : UsageBuffer) (key : BatchKey) (metric : String) : Int :=
  match b.pending.find? key with
  | some usage => usage.total metric
  | none => 0

end UsageBuffer

end GatewayAuth
