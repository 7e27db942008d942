import GatewayAuth.Sorted
import GatewayAuth.Table

/-!
# `GatewayAuth.Cache.Basic` — a bounded cache whose entries expire

## Contents
- `CacheLimits`: size, time to live and interval of sweeps, with defaults for zeros.
- `CacheKey`, `CacheEntry`, `Cache`: items with the means to renew them, their deadlines and last uses.
- `get`, `set`, `remove`: the operations between sweeps. Time is given to each of them in milliseconds.
- `CacheStats`: what has happened to a cache so far.

A cache is generic in its items and in its refreshers: what renews an entry is stored with it and never run
here.
-/

namespace GatewayAuth

/-! ## Limits -/

/-- How much a cache holds and for how long. -/
structure CacheLimits where
  maxSize : Nat
  /-- Retries after a failed refresh, per entry and sweep. -/
  retries : UInt32
  /-- Milliseconds between sweeps. -/
  refreshInterval : Nat
  /-- Milliseconds from the last write of an entry to its end. -/
  ttl : Nat
  deriving DecidableEq, Repr

namespace CacheLimits

/-- The default of `maxSize`. -/
def defaultMaxSize : Nat := 1000

/-- The default of `refreshInterval`. -/
def defaultRefreshInterval : Nat := 180000

/-- The default of `ttl`. -/
def defaultTtl : Nat := 300000

/-- The same limits with defaults in place of zeros. -/
def withDefaults (l : CacheLimits) : CacheLimits :=
  { l with
    maxSize := if l.maxSize = 0 then defaultMaxSize else l.maxSize
    refreshInterval := if l.refreshInterval = 0 then defaultRefreshInterval else l.refreshInterval
    ttl := if l.ttl = 0 then defaultTtl else l.ttl }

theorem withDefaults_pos (l : CacheLimits) :
    0 < l.withDefaults.maxSize ∧ 0 < l.withDefaults.refreshInterval ∧ 0 < l.withDefaults.ttl := by
  unfold withDefaults defaultMaxSize defaultRefreshInterval defaultTtl
  refine ⟨?_, ?_, ?_⟩ <;> dsimp only <;> split <;> omega

end CacheLimits

/-! ## Entries -/

/-- What a configuration is cached under. -/
structure CacheKey where
  location : String
  service : String
  deriving DecidableEq, Repr

/-- The text of a key in log lines. -/
def CacheKey.render (k : CacheKey) : String := k.location ++ "_" ++ k.service

/-- A cached item. -/
structure CacheEntry (ι ρ : Type) where
  item : ι
  refresher : ρ
  /-- The instant from which the entry is expired. -/
  deadline : Nat
  /-- The last time that the entry was set or found. -/
  lastUsed : Nat
  deriving DecidableEq, Repr

/-- Whether an entry is expired. -/
def CacheEntry.isExpired {ι ρ : Type} (e : CacheEntry ι ρ) (now : Nat) : Bool := e.deadline ≤ now

/-- Counts of what has happened to a cache. -/
structure CacheStats where
  hits : Nat
  misses : Nat
  /-- Entries that gave way to others. -/
  evictions : Nat
  /-- Entries dropped after their deadline. -/
  expired : Nat
  refreshes : Nat
  refreshFailures : Nat
  deriving DecidableEq, Repr

namespace CacheStats

/-- Nothing has happened yet. -/
def zero : CacheStats := ⟨0, 0, 0, 0, 0, 0⟩

/-- The share of hits among all reads, in percent. -/
def hitRate (s : CacheStats) : Float :=
  let reads := s.hits + s.misses
  if reads = 0 then 0.0 else Float.ofNat s.hits / Float.ofNat reads * 100.0

end CacheStats

/-- Items under keys, within limits. -/
structure Cache (ι ρ : Type) where
  limits : CacheLimits
  entries : Table CacheKey (CacheEntry ι ρ)
  stats : CacheStats
  deriving DecidableEq, Repr

namespace Cache

variable {ι ρ : Type}

/-- The empty cache; zeros among the limits stand for defaults. -/
def new (limits : CacheLimits) : Cache ι ρ := ⟨limits.withDefaults, .empty, .zero⟩

/-- The number of stored entries, expired ones included. -/
def size (c : Cache ι ρ) : Nat := c.entries.size

/-! ## Reading and writing -/

/-- The unexpired item under a key. Finding it counts as a use; an expired entry is dropped. -/
def get (c : Cache ι ρ) (now : Nat) (key : CacheKey) : Option ι × Cache ι ρ :=
  match c.entries.find? key with
  | some e =>
    if e.isExpired now then
      (none, { c with
        entries := c.entries.erase key
        stats := { c.stats with expired := c.stats.expired + 1, misses := c.stats.misses + 1 } })
    else
      (some e.item, { c with
        entries := c.entries.insert key { e with lastUsed := now }
        stats := { c.stats with hits := c.stats.hits + 1 } })
  | none => (none, { c with stats := { c.stats with misses := c.stats.misses + 1 } })

/-- The keys other than `keep`, least recently used first. -/
def evictionOrder (entries : Table CacheKey (CacheEntry ι ρ)) (keep : CacheKey) : List CacheKey :=
  let candidates := entries.toList.filter fun e => e.1 ≠ keep
  (Sorted.sort (fun a b => decide (a.2.lastUsed ≤ b.2.lastUsed)) candidates).map (·.1)

/-- The keys that have to go so that the table keeps to `maxSize`, sparing `keep`. -/
def victims (maxSize : Nat) (entries : Table CacheKey (CacheEntry ι ρ)) (keep : CacheKey) :
    List CacheKey :=
  (evictionOrder entries keep).take (entries.size - maxSize)

/-- Store an item with a fresh time to live; least recently used entries give way to it. -/
def set (c : Cache ι ρ) (now : Nat) (key : CacheKey) (item : ι) (refresher : ρ) : Cache ι ρ :=
  let entries := c.entries.insert key ⟨item, refresher, now + c.limits.ttl, now⟩
  let out := victims c.limits.maxSize entries key
  { c with
    entries := out.foldl Table.erase entries
    stats := { c.stats with evictions := c.stats.evictions + out.length } }

/-- Remove the entry under a key, and say whether there was one. -/
def remove (c : Cache ι ρ) (key : CacheKey) : Bool × Cache ι ρ :=
  (c.entries.contains key, { c with entries := c.entries.erase key })

end Cache

end GatewayAuth
