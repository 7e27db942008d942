/-!
# `GatewayAuth.Retry` — a bounded number of attempts, one right after the other

## Contents
- `RetryPolicy`: how many retries follow a failed first attempt.
- `RetryPolicy.execute`: the first success, or the failure of the last attempt allowed, with the number of
  attempts made.
-/

namespace GatewayAuth

-- Powers are those of the core library, also where other powers of natural numbers are in scope.
attribute [local instance (high)] instPowNat

universe u v

/-- A budget of attempts. -/
structure RetryPolicy where
  /-- Retries after the first attempt. -/
  maxRetries : UInt32
  deriving DecidableEq, Repr, Inhabited

namespace RetryPolicy

/-- The number of attempts, which a 32-bit counter can count. -/
def maxAttempts (p : RetryPolicy) : Nat := min (p.maxRetries.toNat + 1) (2 ^ (32 : Nat) - 1)

theorem maxAttempts_pos (p : RetryPolicy) : 0 < p.maxAttempts := by
  unfold maxAttempts
  omega

variable {ε : Type u} {α : Type v}

/-- Make attempt number `n` and, while it fails, at most `more` further ones. -/
def tryFrom (operation : Nat → Except ε α) : Nat → Nat → Except ε α × Nat
  | 0, n => (operation n, n)
  | more + 1, n =>
    match operation n with
    | .ok a => (.ok a, n)
    | .error _ => tryFrom operation more (n + 1)

/-- Run an operation, whose outcome may depend on the number of the attempt (counted from 1), until it
succeeds or the budget is spent. The second part is the number of attempts made. -/
def execute (p : RetryPolicy) (operation : Nat → Except ε α) : Except ε α × Nat :=
  tryFrom operation (p.maxAttempts - 1) 1

end RetryPolicy

end GatewayAuth
