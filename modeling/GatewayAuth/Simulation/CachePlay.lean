import GatewayAuth.Cache.Sweep

/-!
# `GatewayAuth.Simulation.CachePlay` — a cache whose refreshers follow plans

## Contents
- `PlanStep`: what a refresher does when it is run; a plan plays one step per run and repeats its last one.
- `CachePlay`: a cache of version numbers, a clock, and the plans of its refreshers.
- `CachePlay.sweep`: a whole sweep, with nothing else going on meanwhile.
-/

namespace GatewayAuth.Simulation

/-- What a refresher does when it is run. -/
structure PlanStep where
  /-- Milliseconds that pass first. -/
  delay : Nat
  /-- Whether it then removes its own entry. -/
  removes : Bool
  /-- Whether it then fails. -/
  fails : Bool
  /-- The version that it brings otherwise. -/
  version : Int64
  deriving DecidableEq, Repr

/-- A cache under test. -/
structure CachePlay where
  now : Nat
  /-- Refreshers are numbered in the order in which they were set. -/
  cache : Cache Int64 Nat
  plans : Table Nat (List PlanStep)

namespace CachePlay

/-- An empty cache at instant zero. -/
def new (limits : CacheLimits) : CachePlay := ⟨0, .new limits, .empty⟩

/-- Let time pass. -/
def advance (p : CachePlay) (ms : Nat) : CachePlay := { p with now := p.now + ms }

/-- Store a version with the plan of its refresher. -/
def set (p : CachePlay) (key : CacheKey) (version : Int64) (plan : List PlanStep) : CachePlay :=
  let number := p.plans.size
  { p with
    cache := p.cache.set p.now key version number
    plans := p.plans.insert number plan }

/-- Read a version. -/
def get (p : CachePlay) (key : CacheKey) : Option Int64 × CachePlay :=
  let (version, cache) := p.cache.get p.now key
  (version, { p with cache })

/-- Remove an entry. -/
def remove (p : CachePlay) (key : CacheKey) : Bool × CachePlay :=
  let (found, cache) := p.cache.remove key
  (found, { p with cache })

/-- The present step of a plan and the plan after it; an empty plan fails at once. -/
def playStep : List PlanStep → PlanStep × List PlanStep
  | [] => (⟨0, false, true, 0⟩, [])
  | [last] => (last, [last])
  | step :: rest => (step, rest)

/-- Run a refresher: what it brings, if it does not fail. -/
def renew (p : CachePlay) (key : CacheKey) (number : Nat) : Option Int64 × CachePlay :=
  let (step, rest) := playStep ((p.plans.find? number).getD [])
  let p := { p with now := p.now + step.delay, plans := p.plans.insert number rest }
  let p := if step.removes then (p.remove key).2 else p
  (if step.fails then none else some step.version, p)

/-- Renew entries one after the other. -/
def renewAll (p : CachePlay) (summary : SweepSummary) :
    List (CacheKey × Nat) → SweepSummary × CachePlay
  | [] => (summary, p)
  | (key, number) :: rest =>
    match p.renew key number with
    | (none, p) => p.renewAll { summary with failed := summary.failed + 1 } rest
    | (some version, p) =>
      let (stored, cache) := p.cache.storeRefreshed p.now key version
      let p := { p with cache }
      if stored then p.renewAll { summary with refreshed := summary.refreshed + 1 } rest
      else p.renewAll { summary with skipped := summary.skipped + 1 } rest

/-- A whole sweep. -/
def sweep (p : CachePlay) : SweepSummary × CachePlay :=
  let (cache, due, summary) := p.cache.startSweep p.now
  let (summary, p) := ({ p with cache } : CachePlay).renewAll summary due
  (summary, { p with cache := p.cache.finishSweep summary })

end CachePlay

end GatewayAuth.Simulation
