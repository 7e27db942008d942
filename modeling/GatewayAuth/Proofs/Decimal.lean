import GatewayAuth.Decimal

/-!
# `GatewayAuth.Proofs.Decimal` — which texts are read as numbers

Reading goes digit by digit and stops as soon as the total leaves the bounds. Within one text totals only move away
from zero, so a total that has left the bounds never comes back, and stopping early refuses no number.

## Contents
- `Spells`: what a text with an optional sign stands for.
- `readDigits_eq_ok_iff`: reading digits on top of a total.
- `readInt_eq_ok_iff`: a text is read as a number exactly if it spells this number, and the number is within the bounds.
-/

namespace GatewayAuth.Decimal

/-- A text stands for a number: at least one digit, leading zeros allowed, with at most one sign in front. -/
inductive Spells : List Char → Int → Prop where
  | bare {ds : List Char} (some : ds ≠ []) (digits : ∀ c ∈ ds, c.isDigit = true) : Spells ds (value ds)
  | plus {ds : List Char} (some : ds ≠ []) (digits : ∀ c ∈ ds, c.isDigit = true) :
      Spells ('+' :: ds) (value ds)
  | minus {ds : List Char} (some : ds ≠ []) (digits : ∀ c ∈ ds, c.isDigit = true) :
      Spells ('-' :: ds) (-value ds)

/-- A magnitude on one side of zero. -/
def signed (negative : Bool) (m : Nat) : Int := if negative then -m else m

/-- The magnitude of a total with digits appended to it. -/
def appended (m : Nat) (ds : List Char) : Nat := ds.foldl (fun n c => n * 10 + digitValue c) m

theorem appended_cons (m : Nat) (c : Char) (ds : List Char) :
    appended m (c :: ds) = appended (m * 10 + digitValue c) ds := by
  unfold appended
  rw [List.foldl_cons]

theorem le_appended (m : Nat) (ds : List Char) : m ≤ appended m ds := by
  induction ds generalizing m with
  | nil => exact Nat.le_refl m
  | cons c ds ih =>
      have hrest := ih (m * 10 + digitValue c)
      rw [appended_cons]
      omega

theorem signed_next (negative : Bool) (m : Nat) (c : Char) :
    (if negative then signed negative m * 10 - digitValue c else signed negative m * 10 + digitValue c) =
      signed negative (m * 10 + digitValue c) := by
  unfold signed
  cases negative with
  | false =>
      simp only [Bool.false_eq_true, if_false]
      omega
  | true =>
      simp only [if_true]
      omega

variable {lower upper n : Int} {negative : Bool} {m : Nat} {c : Char} {cs ds : List Char}

/-- A total that has left the bounds does not come back. -/
theorem not_mem_bounds_appended (hlower : lower ≤ 0) (hupper : 0 ≤ upper)
    (hout : signed negative m < lower ∨ upper < signed negative m) (ds : List Char) :
    ¬(lower ≤ signed negative (appended m ds) ∧ signed negative (appended m ds) ≤ upper) := by
  have hle := le_appended m ds
  unfold signed at hout ⊢
  cases negative with
  | false =>
      simp only [Bool.false_eq_true, if_false] at hout ⊢
      omega
  | true =>
      simp only [if_true] at hout ⊢
      omega

/-- **Digits are read on top of a total exactly if they are digits and what they come to is within the bounds.** -/
theorem readDigits_eq_ok_iff (hlower : lower ≤ 0) (hupper : 0 ≤ upper)
    (hin : lower ≤ signed negative m ∧ signed negative m ≤ upper) :
    readDigits negative lower upper (signed negative m) ds = .ok n ↔
      (∀ c ∈ ds, c.isDigit = true) ∧ n = signed negative (appended m ds) ∧ lower ≤ n ∧ n ≤ upper := by
  induction ds generalizing m with
  | nil =>
      constructor
      · intro h
        cases h
        exact ⟨nofun, rfl, hin⟩
      · rintro ⟨-, rfl, -⟩
        rfl
  | cons c ds ih =>
      rw [readDigits, signed_next, appended_cons]
      by_cases hdigit : c.isDigit = true
      · rw [if_pos hdigit]
        have hall : (∀ c' ∈ c :: ds, c'.isDigit = true) ↔ ∀ c' ∈ ds, c'.isDigit = true := by
          simp [hdigit]
        rw [hall]
        dsimp only
        split
        · next hlow =>
          -- the text has gone below the bounds, and stays there
          constructor
          · intro h
            cases h
          · rintro ⟨-, rfl, hn⟩
            exact absurd hn (not_mem_bounds_appended hlower hupper (.inl hlow) ds)
        · split
          · next hhigh =>
            constructor
            · intro h
              cases h
            · rintro ⟨-, rfl, hn⟩
              exact absurd hn (not_mem_bounds_appended hlower hupper (.inr hhigh) ds)
          · exact ih ⟨by omega, by omega⟩
      · rw [if_neg hdigit]
        constructor
        · intro h
          cases h
        · rintro ⟨hall, -⟩
          exact absurd (hall c List.mem_cons_self) hdigit

/-- There is a sign in front, or there is none. -/
theorem splitSign_cases (cs : List Char) : (∃ ds, cs = '+' :: ds ∧ splitSign cs = (false, ds)) ∨
    (∃ ds, cs = '-' :: ds ∧ splitSign cs = (true, ds)) ∨ splitSign cs = (false, cs) := by
  unfold splitSign
  split
  · exact .inl ⟨_, rfl, rfl⟩
  · exact .inr (.inl ⟨_, rfl, rfl⟩)
  · exact .inr (.inr rfl)

/-- A text spells a number exactly if what follows its sign are digits, and some. -/
theorem spells_iff : Spells cs n ↔ (splitSign cs).2 ≠ [] ∧ (∀ c ∈ (splitSign cs).2, c.isDigit = true) ∧
    n = signed (splitSign cs).1 (value (splitSign cs).2) := by
  constructor
  · intro h
    cases h with
    | bare some digits =>
        -- a digit is no sign
        rcases splitSign_cases cs with ⟨ds, rfl, -⟩ | ⟨ds, rfl, -⟩ | hsplit
        · exact absurd (digits '+' List.mem_cons_self) (by decide)
        · exact absurd (digits '-' List.mem_cons_self) (by decide)
        · rw [hsplit]
          exact ⟨some, digits, rfl⟩
    | plus some digits => exact ⟨some, digits, rfl⟩
    | minus some digits => exact ⟨some, digits, rfl⟩
  · rintro ⟨some, digits, rfl⟩
    rcases splitSign_cases cs with ⟨ds, rfl, hsplit⟩ | ⟨ds, rfl, hsplit⟩ | hsplit
    · rw [hsplit] at some digits ⊢
      exact .plus some digits
    · rw [hsplit] at some digits ⊢
      exact .minus some digits
    · rw [hsplit] at some digits ⊢
      exact .bare some digits

/-- **A text is read as a number exactly if it spells this number, and the number is within the bounds.** -/
theorem readInt_eq_ok_iff (hlower : lower ≤ 0) (hupper : 0 ≤ upper) :
    readInt lower upper cs = .ok n ↔ Spells cs n ∧ lower ≤ n ∧ n ≤ upper := by
  -- reading starts from zero, on either side of it
  have hread : ∀ negative ds, readDigits negative lower upper 0 ds = .ok n ↔
      (∀ c ∈ ds, c.isDigit = true) ∧ n = signed negative (value ds) ∧ lower ≤ n ∧ n ≤ upper := by
    intro negative ds
    cases negative with
    | false => exact @readDigits_eq_ok_iff lower upper n false 0 ds hlower hupper ⟨hlower, hupper⟩
    | true => exact @readDigits_eq_ok_iff lower upper n true 0 ds hlower hupper ⟨hlower, hupper⟩
  rw [spells_iff]
  unfold readInt
  split
  · -- the empty text has no digits
    constructor
    · intro h
      cases h
    · rintro ⟨⟨hsome, -⟩, -⟩
      exact absurd rfl hsome
  · split
    · next negative hsplit =>
      rw [hsplit]
      constructor
      · intro h
        cases h
      · rintro ⟨⟨hsome, -⟩, -⟩
        exact absurd rfl hsome
    · next negative ds hsome hsplit =>
      rw [hsplit, hread]
      constructor
      · rintro ⟨digits, heq, hn⟩
        exact ⟨⟨hsome, digits, heq⟩, hn⟩
      · rintro ⟨⟨-, digits, heq⟩, hn⟩
        exact ⟨digits, heq, hn⟩

end GatewayAuth.Decimal
