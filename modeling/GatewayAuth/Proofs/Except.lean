/-!
# `GatewayAuth.Proofs.Except` — results that may be errors

## Contents
- `ok_bind`, `exists_of_bind`: computations in sequence succeed if each of them does; `check_eq_ok_iff` if the first only checks.
- `map_eq_ok_iff`: what a computation comes to if its value is passed on.
- `Stands`: what a part is if it is read from a value where there is one.
- `eq_ok_of_toOption`: a result is one value if this is what is left without errors; closed results are evaluated so.
-/

namespace GatewayAuth

variable {ε α β : Type}

theorem ok_bind (a : α) (f : α → Except ε β) : (Except.ok a >>= f) = f a := rfl

theorem exists_of_bind {x : Except ε α} {f : α → Except ε β} {b : β} (h : x >>= f = .ok b) :
    ∃ a, x = .ok a ∧ f a = .ok b := by
  cases x with
  | error e => cases h
  | ok a => exact ⟨a, rfl, h⟩

theorem check_eq_ok_iff {check : Except ε Unit} {x : Except ε α} {a : α} :
    (check >>= fun _ => x) = .ok a ↔ check = .ok () ∧ x = .ok a := by
  constructor
  · intro h
    obtain ⟨_, hcheck, hx⟩ := exists_of_bind h
    exact ⟨hcheck, hx⟩
  · rintro ⟨hcheck, hx⟩
    rw [hcheck]
    exact hx

theorem map_eq_ok_iff {x : Except ε α} {f : α → β} {b : β} : x.map f = .ok b ↔ ∃ a, x = .ok a ∧ f a = b := by
  cases x with
  | ok a => simp [Except.map]
  | error e => simp [Except.map]

theorem eq_ok_of_toOption {x : Except ε α} {a : α} (h : x.toOption = some a) : x = .ok a := by
  cases x with
  | error e => cases h
  | ok a' =>
      cases h
      rfl

/-- What a part of a whole has to be: what its value is read as, or the default if there is no value for it. -/
def Stands {τ : Type} (read : τ → Except ε α) (value? : Option τ) (unset a : α) : Prop :=
  match value? with
  | some t => read t = .ok a
  | none => a = unset

/-- Only one thing stands. -/
theorem Stands.unique {τ : Type} {read : τ → Except ε α} {value? : Option τ} {unset a a' : α}
    (h : Stands read value? unset a) (h' : Stands read value? unset a') : a = a' := by
  cases value? with
  | some t => exact Except.ok.inj (h.symm.trans h')
  | none => exact h.trans h'.symm

end GatewayAuth
