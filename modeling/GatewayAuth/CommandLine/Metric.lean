import GatewayAuth.Decimal
import GatewayAuth.Text.Quoted
import GatewayAuth.Wire

/-!
# `GatewayAuth.CommandLine.Metric` — usage as a word of the command line

A word `name=delta` stands for usage of one metric. The name ends at the first equals sign; the delta is a
64-bit signed number.

## Contents
- `parseMetric`: a name with its delta, or a `MetricFault`.
- `total`: the usage that a list of words amounts to.
-/

namespace GatewayAuth.CommandLine

/-- Why a word is no usage. -/
inductive MetricFault where
  /-- There is no equals sign. -/
  | noDelta (word : String)
  | noName
  | badDelta (name : String) (fault : Decimal.IntFault)
  deriving DecidableEq, Repr

/-- The wording of each fault. -/
def MetricFault.message : MetricFault → String
  | noDelta word => "expected metric=delta, got " ++ Text.quote word
  | noName => "metric name must not be empty"
  | badDelta name fault => "invalid delta for " ++ name ++ ": " ++ fault.message

/-- What stands before the first equals sign and what stands after it. -/
def splitAtEquals : List Char → Option (List Char × List Char)
  | [] => none
  | c :: rest =>
    if c = '=' then some ([], rest)
    else (splitAtEquals rest).map fun p => (c :: p.1, p.2)

/-- Read usage of one metric. -/
def parseMetric (word : String) : Except MetricFault (String × Int64) :=
  match splitAtEquals word.toList with
  | none => .error (.noDelta word)
  | some (name, delta) =>
    if name = [] then .error .noName
    else
      match Decimal.readInt Decimal.int64Min Decimal.int64Max delta with
      | .ok n => .ok (String.ofList name, Int64.ofInt n)
      | .error fault => .error (.badDelta (String.ofList name) fault)

/-- Add usage of one metric. -/
def addMetric (usage : Usage) (metric : String × Int64) : Usage :=
  usage.alter metric.1 fun before => before.getD 0 + metric.2

/-- The sum of usage, metric by metric. -/
def total (metrics : List (String × Int64)) : Usage := metrics.foldl addMetric .empty

/-- The first equals sign splits a text, and only there. -/
theorem splitAtEquals_eq_some_iff {cs name delta : List Char} :
    splitAtEquals cs = some (name, delta) ↔ '=' ∉ name ∧ cs = name ++ '=' :: delta := by
  induction cs generalizing name with
  | nil => simp [splitAtEquals]
  | cons c rest ih =>
    by_cases h : c = '='
    · subst h
      cases name with
      | nil => simp [splitAtEquals]
      | cons d name => simp [splitAtEquals]; intro h _ e; exact absurd e h
    · cases name with
      | nil => simp [splitAtEquals, h]
      | cons d name =>
        simp only [splitAtEquals, h, if_false, Option.map_eq_some_iff, Prod.mk.injEq,
          List.cons.injEq, List.mem_cons, not_or, List.cons_append]
        constructor
        · rintro ⟨p, hp, ⟨rfl, rfl⟩, rfl⟩
          obtain ⟨hn, e⟩ := ih.1 hp
          exact ⟨⟨fun e => h e.symm, hn⟩, rfl, e⟩
        · rintro ⟨⟨_, hn⟩, rfl, e⟩
          exact ⟨(name, delta), ih.2 ⟨hn, e⟩, ⟨rfl, rfl⟩, rfl⟩

end GatewayAuth.CommandLine
