import GatewayAuth.Manager.Basic

/-!
# `GatewayAuth.Settings.Basic` — the settings of a deployment

## Contents
- `Settings`: five sections; the default values are those of an empty configuration.
- `CacheSettings.limits`, `BackendSettings.dispatch`, `Manager.ofSettings`: what the settings lead to.
- `Problem`, `Settings.problems`: the ranges and patterns that settings have to satisfy, and the report of
  those that they miss.
-/

namespace GatewayAuth

/-! ## Sections -/

/-- The cache of configurations. Zero for a size or a time stands for the default. -/
structure CacheSettings where
  enabled : Bool := true
  maxSize : Nat := 0
  retries : UInt32 := 1
  refreshSeconds : Nat := 0
  ttlSeconds : Nat := 0
  deriving DecidableEq, Repr

/-- How authorizations are dispatched. -/
structure BackendSettings where
  buffered : Bool := false
  flushSeconds : Nat := 0
  policy : FailurePolicy := .closed
  deriving DecidableEq, Repr

/-- Time limits of the connections to the remote side, in milliseconds. -/
structure HttpSettings where
  requestTimeout : Nat := 5000
  connectTimeout : Nat := 1000
  deriving DecidableEq, Repr

/-- What is logged, and how. -/
structure LoggingSettings where
  level : String := "info"
  format : String := "json"
  deriving DecidableEq, Repr

/-- Whether and where metrics can be collected. -/
structure MetricsSettings where
  enabled : Bool := false
  port : Nat := 9090
  deriving DecidableEq, Repr

/-- The settings of a deployment. -/
structure Settings where
  cache : CacheSettings := {}
  backend : BackendSettings := {}
  http : HttpSettings := {}
  logging : LoggingSettings := {}
  metrics : MetricsSettings := {}
  deriving DecidableEq, Repr

instance : Inhabited Settings := ⟨{}⟩

/-- The limits of the cache, defaults in place of zeros. -/
def CacheSettings.limits (s : CacheSettings) : CacheLimits :=
  CacheLimits.withDefaults ⟨s.maxSize, s.retries, s.refreshSeconds * 1000, s.ttlSeconds * 1000⟩

/-- The dispatch of authorizations, defaults in place of zeros. -/
def BackendSettings.dispatch (s : BackendSettings) : DispatchSettings :=
  DispatchSettings.withDefaults ⟨s.buffered, s.flushSeconds * 1000, s.policy⟩

/-- A manager as the settings describe it, which starts at `now`. -/
def Manager.ofSettings (now : Nat) (s : Settings) : Manager :=
  .new now (if s.cache.enabled then some s.cache.limits else none) s.backend.dispatch

/-! ## Ranges and patterns -/

/-- Why a value is refused. -/
inductive Objection where
  | above (limit : Nat)
  | below (limit : Nat)
  | shorterThan (limit : Nat)
  /-- The format is none of the known ones. -/
  | unknownFormat
  deriving DecidableEq, Repr

/-- The wording of an objection. -/
def Objection.message : Objection → String
  | above limit => "greater than " ++ Decimal.ofNat limit
  | below limit => "lower than " ++ Decimal.ofNat limit
  | shorterThan limit => "length is lower than " ++ Decimal.ofNat limit
  | unknownFormat => "does not match pattern /^(json|pretty)$/"

/-- A value of the settings that is refused, by its path. -/
structure Problem where
  path : String
  objection : Objection
  deriving DecidableEq, Repr

/-- A problem as a line of a report. -/
def Problem.line (p : Problem) : String := p.path ++ ": " ++ p.objection.message ++ "\n"

/-- A report of problems. -/
def Problem.report (ps : List Problem) : String := String.join (ps.map Problem.line)

/-- The problem of a number outside the bounds, if it is. -/
def rangeProblem (path : String) (lower upper n : Nat) : List Problem :=
  if n < lower then [⟨path, .below lower⟩]
  else if upper < n then [⟨path, .above upper⟩]
  else []

/-- The formats that log lines can take. -/
def LoggingSettings.formats : List String := ["json", "pretty"]

/-- What is wrong with settings, in the order of the paths. -/
def Settings.problems (s : Settings) : List Problem :=
  rangeProblem "backend.cache_flush_interval_seconds" 0 3600 s.backend.flushSeconds ++
  rangeProblem "http.connect_timeout_ms" 1 60000 s.http.connectTimeout ++
  rangeProblem "http.request_timeout_ms" 1 120000 s.http.requestTimeout ++
  (if s.logging.format ∈ LoggingSettings.formats then [] else [⟨"logging.format", .unknownFormat⟩]) ++
  (if s.logging.level.isEmpty then [⟨"logging.level", .shorterThan 1⟩] else []) ++
  rangeProblem "metrics.port" 1024 65535 s.metrics.port ++
  rangeProblem "system_cache.max_size" 0 100000 s.cache.maxSize ++
  rangeProblem "system_cache.num_retry_failed_refresh" 0 10 s.cache.retries.toNat ++
  rangeProblem "system_cache.refresh_interval_seconds" 0 86400 s.cache.refreshSeconds ++
  rangeProblem "system_cache.ttl_seconds" 0 86400 s.cache.ttlSeconds

theorem rangeProblem_eq_nil_iff {path : String} {lower upper n : Nat} :
    rangeProblem path lower upper n = [] ↔ lower ≤ n ∧ n ≤ upper := by
  unfold rangeProblem
  split
  · simp; omega
  · split
    · simp; omega
    · simp; omega

/-! ## Logging -/

/-- The message about a format that no log writer knows; `none` for a known one. -/
def LoggingSettings.formatFault? (s : LoggingSettings) : Option String :=
  if s.format ∈ formats then none
  else some ("Unsupported log format: " ++ s.format ++ ". Use 'json' or 'pretty'")

end GatewayAuth
