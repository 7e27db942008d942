/-!
# `GatewayAuth.Url.Domain.Punycode` — any text in letters, digits and hyphens

The plain characters of a text come first. Then follow, in letters and digits, the steps of a machine that
inserts the other characters one by one, in increasing order of code points.

## Contents
- `threshold`, `adapt`: how the digits of a number are weighted.
- `encode`, `decode?`: the code of a text, and the text with a code.
-/

namespace GatewayAuth.Url.Domain.Punycode

/-! ## Numbers -/

/-- The letter or digit for a value below 36. -/
def digitChar (d : Nat) : Char := if d < 26 then Char.ofNat (97 + d) else Char.ofNat (22 + d)

/-- The value of a letter or digit. -/
def digitValue? (c : Char) : Option Nat :=
  if 'a' ≤ c ∧ c ≤ 'z' then some (c.toNat - 97)
  else if 'A' ≤ c ∧ c ≤ 'Z' then some (c.toNat - 65)
  else if '0' ≤ c ∧ c ≤ '9' then some (c.toNat - 22)
  else none

/-- The least digit that does not end a number, at a place whose weight is given by `k`. -/
def threshold (bias k : Nat) : Nat := if k ≤ bias then 1 else if bias + 26 ≤ k then 26 else k - bias

theorem one_le_threshold (bias k : Nat) : 1 ≤ threshold bias k := by
  unfold threshold
  split
  · omega
  · split <;> omega

/-- Scale a number down until it is at most 455, counting in `k`. -/
def scaleDown (k delta : Nat) : Nat × Nat :=
  if 455 < delta then scaleDown (k + 36) (delta / 35) else (k, delta)
termination_by delta
decreasing_by exact Nat.div_lt_self (by omega) (by decide)

/-- The bias after a number, `size` being the length of the text so far. -/
def adapt (delta size : Nat) (isFirst : Bool) : Nat :=
  let delta := if isFirst then delta / 700 else delta / 2
  let (k, delta) := scaleDown 0 (delta + delta / size)
  k + 36 * delta / (delta + 38)

/-- A number in digits, from the place `k` on. -/
def numberChars (bias k n : Nat) : List Char :=
  let t := threshold bias k
  if n < t then [digitChar n]
  else digitChar (t + (n - t) % (36 - t)) :: numberChars bias (k + 36) ((n - t) / (36 - t))
termination_by n
decreasing_by
  have := one_le_threshold bias k
  exact Nat.lt_of_le_of_lt (Nat.div_le_self _ _) (by omega)

/-! ## Writing -/

/-- What has been written. -/
structure Writing where
  /-- The digits so far. -/
  digits : List Char
  /-- Steps since the last insertion. -/
  delta : Nat
  bias : Nat
  /-- The characters that are in place. -/
  size : Nat

/-- The machine passes a character while it inserts those with code point `n`. -/
def pass (plain n : Nat) (w : Writing) (c : Char) : Writing :=
  if c.toNat < n then { w with delta := w.delta + 1 }
  else if c.toNat = n then
    { digits := w.digits ++ numberChars w.bias 36 w.delta
      delta := 0
      bias := adapt w.delta (w.size + 1) (w.size == plain)
      size := w.size + 1 }
  else w

/-- Write the insertions of the given code points, which are in increasing order and not below `n`. -/
def writeFrom (cs : List Char) (plain n : Nat) (w : Writing) : List Nat → Writing
  | [] => w
  | m :: rest =>
    let w := { w with delta := w.delta + (m - n) * (w.size + 1) }
    let w := cs.foldl (pass plain m) w
    writeFrom cs plain (m + 1) { w with delta := w.delta + 1 } rest

/-- Insert a number into an increasing list, unless it is there. -/
def insertOnce (n : Nat) : List Nat → List Nat
  | [] => [n]
  | m :: rest => if n < m then n :: m :: rest else if n = m then m :: rest else m :: insertOnce n rest

/-- Whether a character is plain. -/
def isPlain (c : Char) : Bool := c.toNat < 128

/-- The code of a text. -/
def encode (cs : List Char) : List Char :=
  let plain := cs.filter isPlain
  let others := ((cs.filter fun c => !isPlain c).map Char.toNat).foldr insertOnce []
  let w := writeFrom cs plain.length 128 ⟨[], 0, 72, plain.length⟩ others
  (if plain.isEmpty then [] else plain ++ ['-']) ++ w.digits

/-! ## Reading -/

/-- What has been read. -/
structure Reading where
  text : List Char
  /-- The code point of the last insertion. -/
  point : Nat
  bias : Nat
  /-- The place after the last insertion. -/
  place : Nat
  /-- The number that is being read, with the place in it. -/
  number : Nat
  weight : Nat
  k : Nat

/-- Make an insertion. -/
def Reading.insert? (r : Reading) (number : Nat) : Option Reading :=
  let size := r.text.length + 1
  let point := r.point + number / size
  let place := number % size
  if point.isValidChar then
    some {
      text := r.text.take place ++ Char.ofNat point :: r.text.drop place
      point
      bias := adapt (number - r.place) size (r.place == 0)
      place := place + 1
      number := place + 1
      weight := 1
      k := 36 }
  else none

/-- Read insertions digit by digit. -/
def readDigits (r : Reading) : List Char → Option (List Char)
  | [] => if r.k = 36 then some r.text else none
  | c :: rest =>
    match digitValue? c with
    | none => none
    | some d =>
      let number := r.number + d * r.weight
      let t := threshold r.bias r.k
      if d < t then
        match r.insert? number with
        | some r => readDigits r rest
        | none => none
      else readDigits { r with number, weight := r.weight * (36 - t), k := r.k + 36 } rest

/-- The text with a code; the last hyphen ends the plain characters, unless there are none in front of it. -/
def decode? (cs : List Char) : Option (List Char) :=
  if !cs.all isPlain then none
  else
    let digits := (cs.reverse.takeWhile (· ≠ '-')).reverse
    let plain := cs.take (cs.length - digits.length - 1)
    readDigits ⟨plain, 128, 72, 0, 0, 1, 36⟩ (if plain.isEmpty then cs else digits)

end GatewayAuth.Url.Domain.Punycode
