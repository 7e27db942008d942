/-!
# `GatewayAuth.Decimal` — whole numbers in decimal

## Contents
- `digits`, `value`: a natural number as its shortest digit string, and the number that a digit string
  stands for; `value_digits` says that reading undoes printing.
- `ofNat`, `ofInt`: the texts used in messages, queries and documents.
- `readInt`: an optional single sign and at least one digit, as in command-line values.
-/

namespace GatewayAuth.Decimal

/-! ## Digits -/

/-- The digits of `n`, without leading zeros; zero is a single `0`. -/
def digits (n : Nat) : List Char := Nat.toDigits 10 n

/-- The number that a digit stands for. -/
def digitValue (c : Char) : Nat := c.toNat - '0'.toNat

/-- The number that a string of digits stands for; leading zeros are allowed. -/
def value (ds : List Char) : Nat := ds.foldl (fun n c => n * 10 + digitValue c) 0

theorem value_append_singleton (ds : List Char) (c : Char) :
    value (ds ++ [c]) = value ds * 10 + digitValue c := by
  simp [value]

theorem digitChar_isDigit {n : Nat} (h : n < 10) : (Nat.digitChar n).isDigit = true := by
  revert h
  revert n
  decide

theorem digitValue_digitChar {n : Nat} (h : n < 10) : digitValue (Nat.digitChar n) = n := by
  revert h
  revert n
  decide

theorem digits_of_lt {n : Nat} (h : n < 10) : digits n = [Nat.digitChar n] :=
  Nat.toDigits_of_lt_base h

theorem digits_of_le {n : Nat} (h : 10 ≤ n) :
    digits n = digits (n / 10) ++ [Nat.digitChar (n % 10)] :=
  Nat.toDigits_of_base_le (by decide) h

theorem digits_ne_nil (n : Nat) : digits n ≠ [] := by
  by_cases h : n < 10
  · simp [digits_of_lt h]
  · simp [digits_of_le (Nat.le_of_not_lt h)]

/-- Reading the digits of a number gives the number back. -/
@[simp] theorem value_digits (n : Nat) : value (digits n) = n := by
  induction n using Nat.strongRecOn with
  | _ n ih =>
    by_cases h : n < 10
    · simp [digits_of_lt h, value, digitValue_digitChar h]
    · have h' : 10 ≤ n := Nat.le_of_not_lt h
      rw [digits_of_le h', value_append_singleton, ih (n / 10) (by omega),
        digitValue_digitChar (by omega)]
      omega

theorem isDigit_of_mem_digits {n : Nat} {c : Char} (h : c ∈ digits n) : c.isDigit = true := by
  induction n using Nat.strongRecOn with
  | _ n ih =>
    by_cases hn : n < 10
    · simp [digits_of_lt hn] at h
      exact h ▸ digitChar_isDigit hn
    · have hn' : 10 ≤ n := Nat.le_of_not_lt hn
      rw [digits_of_le hn', List.mem_append, List.mem_singleton] at h
      rcases h with h | h
      · exact ih (n / 10) (by omega) h
      · exact h ▸ digitChar_isDigit (by omega)

/-! ## Texts -/

/-- The decimal text of a natural number. -/
def ofNat (n : Nat) : String := String.ofList (digits n)

/-- The characters of an integer: a minus sign in front of a negative one. -/
def intChars : Int → List Char
  | .ofNat n => digits n
  | .negSucc n => '-' :: digits (n + 1)

/-- The decimal text of an integer. -/
def ofInt (i : Int) : String := String.ofList (intChars i)

/-- Exactly `width` digits, zeros in front; higher digits are dropped. -/
def padded : Nat → Nat → List Char
  | 0, _ => []
  | width + 1, n => padded width (n / 10) ++ [Nat.digitChar (n % 10)]

theorem length_padded (width n : Nat) : (padded width n).length = width := by
  induction width generalizing n with
  | zero => rfl
  | succ w ih => simp [padded, ih]

/-! ## Reading a signed number -/

/-- Why a text is not a signed decimal number within given bounds. -/
inductive IntFault where
  | empty
  | invalidDigit
  | tooLarge
  | tooSmall
  deriving DecidableEq, Repr

/-- The wording of each fault. -/
def IntFault.message : IntFault → String
  | .empty => "cannot parse integer from empty string"
  | .invalidDigit => "invalid digit found in string"
  | .tooLarge => "number too large to fit in target type"
  | .tooSmall => "number too small to fit in target type"

/-- The sign and the magnitude digits of a text: a single leading `+` or `-` is the sign. A sign alone is
no number, so it stays with the digits and is refused there. -/
def splitSign : List Char → Bool × List Char
  | '+' :: ds => (false, ds)
  | '-' :: ds => (true, ds)
  | ds => (false, ds)

/-- Read digit by digit and stop at the first digit that is none or that leaves the bounds; the total
grows towards the side that `negative` gives. -/
def readDigits (negative : Bool) (lower upper : Int) : Int → List Char → Except IntFault Int
  | total, [] => .ok total
  | total, c :: rest =>
    if c.isDigit then
      let next := if negative then total * 10 - digitValue c else total * 10 + digitValue c
      if next < lower then .error .tooSmall
      else if upper < next then .error .tooLarge
      else readDigits negative lower upper next rest
    else .error .invalidDigit

/-- Read an optional single sign and at least one digit as an integer from `lower` to `upper`. -/
def readInt (lower upper : Int) (cs : List Char) : Except IntFault Int :=
  match cs with
  | [] => .error .empty
  | _ =>
    match splitSign cs with
    | (_, []) => .error .invalidDigit
    | (negative, ds) => readDigits negative lower upper 0 ds

/-- The least 64-bit signed integer. -/
def int64Min : Int := -9223372036854775808

/-- The greatest 64-bit signed integer. -/
def int64Max : Int := 9223372036854775807

end GatewayAuth.Decimal
