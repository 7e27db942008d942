import GatewayAuth.Settings.Basic
import GatewayAuth.Settings.Tree

/-!
# `GatewayAuth.Settings.Section` — reading settings from a tree

A section is a table of its fields, or the list of their values in order. Entries that name no field are
skipped, fields without a value keep their defaults. The entries of a table are read in the order of their
keys, so of two faults the one with the lesser key is reported.

## Contents
- `Misfit`: a value that cannot be read, by its path.
- `Read`, `readFlag`, `readWhole`, `readText`, `readPolicy`: the leaves.
- `Field`, `readSection`: sections by the list of their fields.
- `Settings.ofTree`: all settings.
-/

namespace GatewayAuth.Settings

/-- Why a value cannot be read. -/
inductive MisfitKind where
  /-- A value of another type is expected. -/
  | wrongType
  /-- A whole number of the wrong size. -/
  | outOfRange
  /-- A name that is none of the known ones. -/
  | unknownName
  deriving DecidableEq, Repr

/-- A value that cannot be read. -/
structure Misfit where
  kind : MisfitKind
  /-- The keys on the way to the value. -/
  path : List String
  deriving DecidableEq, Repr

/-- What becomes of the items of a list that is longer than the section. -/
inductive Surplus where
  | ignored
  | refused
  deriving DecidableEq, Repr

/-- The outcome of reading. -/
abbrev Read (α : Type) := Except Misfit α

/-- A value that does not fit, at the place where it is read. -/
def misfit {α : Type} (kind : MisfitKind) : Read α := .error ⟨kind, []⟩

/-- What is read at a key: its path is longer by the key. -/
def under {α : Type} (key : String) : Read α → Read α
  | .ok a => .ok a
  | .error m => .error ⟨m.kind, key :: m.path⟩

/-! ## Leaves -/

/-- Read a truth value. -/
def readFlag : Tree → Read Bool
  | .flag b => .ok b
  | _ => misfit .wrongType

/-- Read a whole number from zero to `upper`. -/
def readWhole (upper : Nat) : Tree → Read Nat
  | .whole i => if 0 ≤ i ∧ i ≤ upper then .ok i.toNat else misfit .outOfRange
  | _ => misfit .wrongType

/-- Read a text; a single character is one, too. -/
def readText : Tree → Read String
  | .text s => .ok s
  | .letter c => .ok (String.singleton c)
  | _ => misfit .wrongType

/-- Read the name of a policy. It may also be the key of a table with nothing else in it, provided that its
value is left empty. -/
def readPolicy : Tree → Read FailurePolicy
  | .text s =>
    match FailurePolicy.ofName? s with
    | some p => .ok p
    | none => misfit .unknownName
  | .table entries =>
    match Sorted.sort (fun a b => decide (a.1 ≤ b.1)) entries with
    | [] => misfit .wrongType
    | (key, value) :: rest =>
      match FailurePolicy.ofName? key, value, rest with
      | none, _, _ => misfit .unknownName
      | some p, .empty, [] => .ok p
      | some _, _, _ => under key (misfit .wrongType)
  | _ => misfit .wrongType

/-! ## Sections -/

/-- A field of a section `σ`: its key, and how a tree sets it. -/
structure Field (σ : Type) where
  key : String
  read : Tree → σ → Read σ

/-- The field that `read` reads and `set` stores. -/
def Field.of {σ α : Type} (key : String) (read : Tree → Read α) (set : σ → α → σ) : Field σ :=
  ⟨key, fun t s => (read t).map (set s)⟩

/-- Read the fields that have an entry. -/
def readEntries {σ : Type} (entries : List (String × Tree)) : List (Field σ) → σ → Read σ
  | [], s => .ok s
  | field :: fields, s =>
    match Assoc.find? field.key entries with
    | none => readEntries entries fields s
    | some t => do
      let s ← under field.key (field.read t s)
      readEntries entries fields s

/-- Read fields from the items of a list, the first of which has the given number. -/
def readItems {σ : Type} (surplus : Surplus) : Nat → List (Field σ) → List Tree → σ → Read σ
  | _, _, [], s => .ok s
  | _, [], _ :: _, s => if surplus = .ignored then .ok s else misfit .wrongType
  | n, field :: fields, t :: ts, s => do
    let s ← under (Decimal.ofNat n) (field.read t s)
    readItems surplus (n + 1) fields ts s

/-- Read a section, starting from the defaults in `s`. -/
def readSection {σ : Type} (surplus : Surplus) (fields : List (Field σ)) (s : σ) : Tree → Read σ
  | .table entries =>
    readEntries entries (Sorted.sort (fun a b => decide (a.key ≤ b.key)) fields) s
  | .list items => readItems surplus 0 fields items s
  | _ => misfit .wrongType

/-! ## Settings -/

/-- The greatest 16-bit number. -/
def max16 : Nat := 65535

/-- The greatest 32-bit number. -/
def max32 : Nat := 4294967295

/-- The greatest 64-bit number. -/
def max64 : Nat := 18446744073709551615

/-- The fields of the section on the cache. -/
def cacheFields : List (Field CacheSettings) :=
  [.of "enabled" readFlag fun s b => { s with enabled := b },
   .of "max_size" (readWhole max64) fun s n => { s with maxSize := n },
   .of "num_retry_failed_refresh" (readWhole max32) fun s n => { s with retries := .ofNat n },
   .of "refresh_interval_seconds" (readWhole max64) fun s n => { s with refreshSeconds := n },
   .of "ttl_seconds" (readWhole max64) fun s n => { s with ttlSeconds := n }]

/-- The fields of the section on the backend. -/
def backendFields : List (Field BackendSettings) :=
  [.of "enable_caching" readFlag fun s b => { s with buffered := b },
   .of "cache_flush_interval_seconds" (readWhole max64) fun s n => { s with flushSeconds := n },
   .of "failure_policy" readPolicy fun s p => { s with policy := p }]

/-- The fields of the section on connections. -/
def httpFields : List (Field HttpSettings) :=
  [.of "request_timeout_ms" (readWhole max64) fun s n => { s with requestTimeout := n },
   .of "connect_timeout_ms" (readWhole max64) fun s n => { s with connectTimeout := n }]

/-- The fields of the section on logging. -/
def loggingFields : List (Field LoggingSettings) :=
  [.of "level" readText fun s t => { s with level := t },
   .of "format" readText fun s t => { s with format := t }]

/-- The fields of the section on metrics. -/
def metricsFields : List (Field MetricsSettings) :=
  [.of "enabled" readFlag fun s b => { s with enabled := b },
   .of "port" (readWhole max16) fun s n => { s with port := n }]

/-- The sections. -/
def sections (surplus : Surplus) : List (Field Settings) :=
  [.of "system_cache" (readSection surplus cacheFields {}) fun s c => { s with cache := c },
   .of "backend" (readSection surplus backendFields {}) fun s b => { s with backend := b },
   .of "http" (readSection surplus httpFields {}) fun s h => { s with http := h },
   .of "logging" (readSection surplus loggingFields {}) fun s l => { s with logging := l },
   .of "metrics" (readSection surplus metricsFields {}) fun s m => { s with metrics := m }]

/-- Read all settings. -/
def ofTree (surplus : Surplus) (t : Tree) : Read Settings := readSection surplus (sections surplus) {} t

/-! ## Writing -/

/-- Settings as a JSON object, every section in full. -/
def toJson (s : Settings) : Json.Value :=
  .object [
    ("backend", .object [
      ("cache_flush_interval_seconds", .nat s.backend.flushSeconds),
      ("enable_caching", .bool s.backend.buffered),
      ("failure_policy", .string s.backend.policy.name)]),
    ("http", .object [
      ("connect_timeout_ms", .nat s.http.connectTimeout),
      ("request_timeout_ms", .nat s.http.requestTimeout)]),
    ("logging", .object [
      ("format", .string s.logging.format),
      ("level", .string s.logging.level)]),
    ("metrics", .object [
      ("enabled", .bool s.metrics.enabled),
      ("port", .nat s.metrics.port)]),
    ("system_cache", .object [
      ("enabled", .bool s.cache.enabled),
      ("max_size", .nat s.cache.maxSize),
      ("num_retry_failed_refresh", .nat s.cache.retries.toNat),
      ("refresh_interval_seconds", .nat s.cache.refreshSeconds),
      ("ttl_seconds", .nat s.cache.ttlSeconds)])]

end GatewayAuth.Settings
