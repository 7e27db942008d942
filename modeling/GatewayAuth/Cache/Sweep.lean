import GatewayAuth.Cache.Basic

/-!
# `GatewayAuth.Cache.Sweep` — purging and refreshing a cache

A sweep collects its work in one operation, runs the refreshers of the entries close to their deadline one
after the other while the cache is free for others, and writes each result back in one operation.

## Contents
- `SweepSummary`, `Sweep`: counts of a sweep, and where it stands.
- `Cache.startSweep`, `Cache.storeRefreshed`, `Cache.finishSweep`: the three operations on the cache.
- `Sweep.step`: one step of a sweep.
-/

namespace GatewayAuth

/-- What one sweep did. -/
structure SweepSummary where
  refreshed : Nat
  failed : Nat
  expired : Nat
  /-- Entries that were gone when their refresh came back. -/
  skipped : Nat
  deriving DecidableEq, Repr

/-- Where a sweep stands. -/
inductive Sweep (ι ρ : Type) where
  /-- About to collect its work. -/
  | starting
  /-- An entry is being renewed; more are to follow. -/
  | refreshing (key : CacheKey) (refresher : ρ) (rest : List (CacheKey × ρ)) (summary : SweepSummary)
  /-- A renewed item is about to be written back. -/
  | storing (key : CacheKey) (item : ι) (rest : List (CacheKey × ρ)) (summary : SweepSummary)
  /-- About to add its counts to those of the cache. -/
  | closing (summary : SweepSummary)
  deriving DecidableEq, Repr

namespace Cache

variable {ι ρ : Type}

/-- Drop what is expired, and list the entries whose deadline is at most one interval away. -/
def startSweep (c : Cache ι ρ) (now : Nat) : Cache ι ρ × List (CacheKey × ρ) × SweepSummary :=
  let live := c.entries.filter fun _ e => !e.isExpired now
  let due := live.toList.filter fun e => e.2.deadline ≤ now + c.limits.refreshInterval
  ({ c with entries := live }, due.map fun e => (e.1, e.2.refresher),
    ⟨0, 0, c.entries.size - live.size, 0⟩)

/-- Write a renewed item to the entry under its key, with a fresh time to live, if there still is one. -/
def storeRefreshed (c : Cache ι ρ) (now : Nat) (key : CacheKey) (item : ι) : Bool × Cache ι ρ :=
  match c.entries.find? key with
  | some e =>
    (true, { c with
      entries := c.entries.insert key { e with item, deadline := now + c.limits.ttl } })
  | none => (false, c)

/-- Add the counts of a sweep to those of the cache. -/
def finishSweep (c : Cache ι ρ) (summary : SweepSummary) : Cache ι ρ :=
  { c with
    stats := { c.stats with
      expired := c.stats.expired + summary.expired
      refreshes := c.stats.refreshes + summary.refreshed
      refreshFailures := c.stats.refreshFailures + summary.failed } }

end Cache

namespace Sweep

variable {ι ρ : Type}

/-- What a sweep does after an entry has been dealt with. -/
def next (summary : SweepSummary) : List (CacheKey × ρ) → Sweep ι ρ
  | [] => closing summary
  | (key, refresher) :: rest => refreshing key refresher rest summary

/-- What a step of a sweep is told: that it is its turn, or what a refresher came to. -/
inductive Told (ι : Type) where
  | turn
  | renewed (item? : Option ι)

/-- One step of a sweep: the cache after it, and the phase after it or, at the end, the summary. -/
def step (c : Cache ι ρ) (now : Nat) : Sweep ι ρ → Told ι →
    Option (Cache ι ρ × (Sweep ι ρ ⊕ SweepSummary))
  | starting, .turn =>
    let (c, due, summary) := c.startSweep now
    some (c, .inl (next summary due))
  | refreshing key _ rest summary, .renewed (some item) => some (c, .inl (storing key item rest summary))
  | refreshing _ _ rest summary, .renewed none =>
    some (c, .inl (next { summary with failed := summary.failed + 1 } rest))
  | storing key item rest summary, .turn =>
    let (stored, c) := c.storeRefreshed now key item
    let summary :=
      if stored then { summary with refreshed := summary.refreshed + 1 }
      else { summary with skipped := summary.skipped + 1 }
    some (c, .inl (next summary rest))
  | closing summary, .turn => some (c.finishSweep summary, .inr summary)
  | _, _ => none

end Sweep

end GatewayAuth
