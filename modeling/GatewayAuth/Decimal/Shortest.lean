import GatewayAuth.Decimal

/-!
# `GatewayAuth.Decimal.Shortest` — the fewest digits that read back as the same double

## Contents
- `Binary`: a positive double as mantissa and exponent of two, with the interval of reals that round to it.
- `shortest`: the digits and exponent of ten of the shortest decimal in that interval; among the decimals
  of that length the one nearest to the value, and of two equally near ones the one with the even last digit.
- `floatChars`: the text of a double in a document: positional from `1e-5` up to seventeen digits before the
  point, scientific elsewhere, always with a point or an exponent.

All arithmetic is on natural numbers over a common denominator, so nothing is rounded on the way.
-/

namespace GatewayAuth.Decimal

-- Powers are those of the core library, also where other powers of natural numbers are in scope.
attribute [local instance (high)] instPowNat

/-! ## The value of a double -/

/-- A positive finite double: `mantissa · 2 ^ exponent`, and whether the double below it is half as far
away as the one above. -/
structure Binary where
  mantissa : Nat
  exponent : Int
  narrowBelow : Bool
  deriving Repr

/-- The finite double with the given bits, sign apart; `none` for zero, infinities and non-numbers. -/
def Binary.ofBits? (bits : Nat) : Option Binary :=
  let fraction : Nat := bits % 2 ^ (52 : Nat)
  let biased : Nat := bits / 2 ^ (52 : Nat) % 2 ^ (11 : Nat)
  if biased = 2047 then none
  else if biased = 0 then
    if fraction = 0 then none else some ⟨fraction, -1074, false⟩
  else some ⟨2 ^ (52 : Nat) + fraction, (biased : Int) - 1075, fraction = 0 && 1 < biased⟩

/-- A quotient of natural numbers, for a value scaled by a power of two: numerator and denominator of
`n · 2 ^ e`. -/
def scaled (n : Nat) (e : Int) : Nat × Nat :=
  match e with
  | .ofNat k => (n * 2 ^ k, 1)
  | .negSucc k => (n, 2 ^ (k + 1))

/-- The exponent of ten just above a value: the least `k` from `start` on, within `fuel` steps, with
`num / den < 10 ^ k`. -/
def exponentAbove (num den : Nat) : Nat → Int → Int
  | 0, k => k
  | fuel + 1, k =>
    let below : Bool := match k with
      | .ofNat j => num < den * 10 ^ j
      | .negSucc j => num * 10 ^ (j + 1) < den
    if below then k else exponentAbove num den fuel (k + 1)

/-- The numerator of `num / den` in units of `10 ^ k`, and its denominator. -/
def inUnits (num den : Nat) (k : Int) : Nat × Nat :=
  match k with
  | .ofNat j => (num, den * 10 ^ j)
  | .negSucc j => (num * 10 ^ (j + 1), den)

/-! ## Search over grids -/

/-- The nearer hit among the two neighbours of the value on the grid of units `10 ^ k`. `num`, `low` and
`high` are the value and the ends of its interval over the denominator `den`. -/
def gridHit? (num low high den : Nat) (closed : Bool) (k : Int) : Option Nat :=
  let (v, d) := inUnits num den k
  let (l, _) := inUnits low den k
  let (h, _) := inUnits high den k
  let inside (c : Nat) : Bool :=
    if closed then l ≤ c * d && c * d ≤ h else l < c * d && c * d < h
  let floor := v / d
  let below := floor ≠ 0 && inside floor
  let above := inside (floor + 1)
  let rest := 2 * (v - floor * d)
  match below, above with
  | false, false => none
  | true, false => some floor
  | false, true => some (floor + 1)
  | true, true =>
    if rest < d then some floor
    else if d < rest then some (floor + 1)
    else if floor % 2 = 0 then some floor else some (floor + 1)

/-- The first grid with a hit, from `places` digits upwards. -/
def searchGrids (num low high den : Nat) (closed : Bool) (top : Int) : Nat → Nat → Nat × Int
  | 0, places => (num / den, top - places)
  | fuel + 1, places =>
    match gridHit? num low high den closed (top - places) with
    | some c => (c, top - places)
    | none => searchGrids num low high den closed top fuel (places + 1)

/-- Digits and exponent of ten of the shortest decimal that reads back as `b`. -/
def Binary.shortest (b : Binary) : List Char × Int :=
  let (num, den) := scaled (4 * b.mantissa) (b.exponent - 2)
  let (low, _) := scaled (4 * b.mantissa - (if b.narrowBelow then 1 else 2)) (b.exponent - 2)
  let (high, _) := scaled (4 * b.mantissa + 2) (b.exponent - 2)
  let top := exponentAbove num den 700 (-330)
  let (c, k) := searchGrids num low high den (b.mantissa % 2 = 0) top 17 1
  let ds := digits c
  let kept := (ds.reverse.dropWhile (· = '0')).reverse
  (kept, k + (ds.length - kept.length : Nat))

/-! ## The text of a double -/

/-- A run of zeros. -/
def zeros (n : Nat) : List Char := List.replicate n '0'

/-- Digits `ds` times `10 ^ k`: positional while the point falls from four places in front of the digits
to sixteen places behind their first, scientific elsewhere. -/
def decimalChars (ds : List Char) (k : Int) : List Char :=
  let point : Int := ds.length + k
  if 0 ≤ k ∧ point ≤ 16 then ds ++ zeros k.toNat ++ ['.', '0']
  else if 0 < point ∧ point ≤ 16 then ds.take point.toNat ++ '.' :: ds.drop point.toNat
  else if -5 < point ∧ point ≤ 0 then '0' :: '.' :: zeros (-point).toNat ++ ds
  else
    let lead := match ds with
      | [] => []
      | [d] => [d]
      | d :: rest => d :: '.' :: rest
    lead ++ 'e' :: intChars (point - 1)

/-- The text of a finite double. -/
def floatChars (x : Float) : List Char :=
  let bits := x.toBits.toNat
  let sign := if 2 ^ (63 : Nat) ≤ bits then ['-'] else []
  match Binary.ofBits? (bits % 2 ^ (63 : Nat)) with
  | none => sign ++ ['0', '.', '0']
  | some b =>
    let (ds, k) := b.shortest
    sign ++ decimalChars ds k

end GatewayAuth.Decimal
