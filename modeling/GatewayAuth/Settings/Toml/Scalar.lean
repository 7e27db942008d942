import GatewayAuth.Decimal
import GatewayAuth.Settings.Toml.Quoted
import GatewayAuth.Settings.Tree

/-!
# `GatewayAuth.Settings.Toml.Scalar` — bare values of TOML documents

Numbers, truth values, dates and times are written without quotes. Each reader takes all characters of the
value. Whole numbers have at most 64 bits; a date or time is read as a table with its text.
-/

namespace GatewayAuth.Settings.Toml

/-! ## Numbers -/

/-- The digits of a group in which single underscores may stand between two digits. -/
def ungroup (isDigit : Char → Bool) : List Char → Option (List Char)
  | [] => none
  | [c] => if isDigit c then some [c] else none
  | c :: '_' :: rest => if isDigit c then (ungroup isDigit rest).map (c :: ·) else none
  | c :: rest => if isDigit c then (ungroup isDigit rest).map (c :: ·) else none

/-- The digits of a whole number without leading zeros. -/
def decimalDigits (cs : List Char) : Option (List Char) :=
  match ungroup Char.isDigit cs with
  | some ('0' :: _ :: _) => none
  | ds => ds

/-- A whole number within 64 bits. -/
def wholeOf (i : Int) : Option Tree :=
  if Decimal.int64Min ≤ i ∧ i ≤ Decimal.int64Max then some (.whole i) else none

/-- The number that digits to a base stand for. -/
def basedValue (base : Nat) (ds : List Char) : Nat :=
  ds.foldl (fun n c => n * base + (hexValue? c).getD 0) 0

/-- Read the digits of a whole number to a base. -/
def readBased (base : Nat) (cs : List Char) : Option Tree := do
  let ds ← ungroup (fun c => (hexValue? c).any (· < base)) cs
  wholeOf (basedValue base ds)

/-- Read a whole number. -/
def readWholeNumber (cs : List Char) : Option Tree :=
  match cs with
  | '0' :: 'x' :: rest => readBased 16 rest
  | '0' :: 'o' :: rest => readBased 8 rest
  | '0' :: 'b' :: rest => readBased 2 rest
  | _ => do
    let (negative, ds) := Decimal.splitSign cs
    let ds ← decimalDigits ds
    let n : Int := Decimal.value ds
    wholeOf (if negative then -n else n)

/-- Whether digits, as many of them as `places` after the point, times ten to the power of `e` exceed
every double. -/
def exceedsDoubles (ds : List Char) (places : Nat) (e : Int) : Bool :=
  let n := Decimal.value ds
  let e := e - places
  if n = 0 ∨ e + (ds.length : Int) < 308 then false
  else if 400 < e then true
  else if 0 ≤ e then (Float.ofScientific n false e.toNat).isInf
  else (Float.ofScientific n true (-e).toNat).isInf

/-- Whether a character marks an exponent. -/
def isExponentMark (c : Char) : Bool := c == 'e' || c == 'E'

/-- Read the exponent after its mark; nothing stands for zero. -/
def readExponent : List Char → Option Int
  | [] => some 0
  | _ :: rest =>
    let (negative, ds) := Decimal.splitSign rest
    (ungroup Char.isDigit ds).map fun ds =>
      if negative then -(Decimal.value ds : Int) else (Decimal.value ds : Int)

/-- Read a number with a fraction, an exponent or both; it must not be beyond every double, unless it is
negative. -/
def readFraction (cs : List Char) : Option Tree := do
  let (negative, ds) := Decimal.splitSign cs
  if ds = ['i', 'n', 'f'] ∨ ds = ['n', 'a', 'n'] then return .fraction
  let inWhole := fun (c : Char) => c.isDigit || c == '_'
  let whole ← decimalDigits (ds.takeWhile inWhole)
  let (places, tail) ← match ds.dropWhile inWhole with
    | [] => none
    | '.' :: rest =>
      (ungroup Char.isDigit (rest.takeWhile fun c => !isExponentMark c)).map fun places =>
        (places, rest.dropWhile fun c => !isExponentMark c)
    | c :: rest => if isExponentMark c then some ([], c :: rest) else none
  let e ← readExponent tail
  if !negative ∧ exceedsDoubles (whole ++ places) places.length e then none
  return .fraction

/-! ## Dates and times -/

/-- Read so many digits. -/
def takeDigits : Nat → Nat → List Char → Option (Nat × List Char)
  | 0, n, cs => some (n, cs)
  | width + 1, n, c :: cs =>
    if c.isDigit then takeDigits width (n * 10 + Decimal.digitValue c) cs else none
  | _ + 1, _, [] => none

/-- Read a number of two digits from `lower` to `upper`. -/
def takePair (lower upper : Nat) (cs : List Char) : Option (Nat × List Char) := do
  let (n, rest) ← takeDigits 2 0 cs
  if lower ≤ n ∧ n ≤ upper then some (n, rest) else none

/-- Read one given character. -/
def takeMark (c : Char) : List Char → Option (List Char)
  | c' :: rest => if c' = c then some rest else none
  | [] => none

/-- The number of days of a month. -/
def monthLength (year month : Nat) : Nat :=
  if month = 2 then
    if year % 4 = 0 ∧ (year % 100 ≠ 0 ∨ year % 400 = 0) then 29 else 28
  else if month = 4 ∨ month = 6 ∨ month = 9 ∨ month = 11 then 30
  else 31

/-- Read a date. -/
def takeDate (cs : List Char) : Option (List Char) := do
  let (year, cs) ← takeDigits 4 0 cs
  let cs ← takeMark '-' cs
  let (month, cs) ← takePair 1 12 cs
  let cs ← takeMark '-' cs
  let (_, cs) ← takePair 1 (monthLength year month) cs
  return cs

/-- Read a time of day. -/
def takeTime (cs : List Char) : Option (List Char) := do
  let (_, cs) ← takePair 0 23 cs
  let cs ← takeMark ':' cs
  let (_, cs) ← takePair 0 59 cs
  let cs ← takeMark ':' cs
  let (_, cs) ← takePair 0 60 cs
  match cs with
  | '.' :: rest => if (rest.takeWhile Char.isDigit).isEmpty then none else some (rest.dropWhile Char.isDigit)
  | _ => some cs

/-- Whether the characters are the distance from universal time, or nothing. -/
def isOffset : List Char → Bool
  | [] => true
  | ['Z'] => true
  | ['z'] => true
  | c :: rest =>
    (c == '+' || c == '-') && Option.isSome (do
      let (_, cs) ← takePair 0 23 rest
      let cs ← takeMark ':' cs
      let (_, cs) ← takePair 0 59 cs
      if cs.isEmpty then some () else none)

/-- Whether the characters are a date, a time or both. -/
def isMoment (cs : List Char) : Bool :=
  match takeDate cs with
  | some [] => true
  | some (c :: rest) =>
    (c == 'T' || c == 't' || c == ' ') && (takeTime rest).any isOffset
  | none => takeTime cs == some []

/-- The tree of a date or time. -/
def momentTree (cs : List Char) : Tree := .table [("$moment", .text (String.ofList cs))]

/-! ## Bare values -/

/-- Whether a character belongs to a bare value. -/
def isBare (c : Char) : Bool := c.isAlphanum || c == '_' || c == '+' || c == '-' || c == '.' || c == ':'

/-- Read a bare value. -/
def readBare (cs : List Char) : Option Tree :=
  if cs = ['t', 'r', 'u', 'e'] then some (.flag true)
  else if cs = ['f', 'a', 'l', 's', 'e'] then some (.flag false)
  else if isMoment cs then some (momentTree cs)
  else (readWholeNumber cs).or (readFraction cs)

/-- Read a bare value and give the characters after it. A blank may separate a date from a time. -/
def scanBare (cs : List Char) : Option (Tree × List Char) :=
  let token := cs.takeWhile isBare
  let rest := cs.dropWhile isBare
  let dated : Option (Tree × List Char) :=
    match takeDate token, rest with
    | some [], ' ' :: more =>
      let token := token ++ ' ' :: more.takeWhile isBare
      if isMoment token then some (momentTree token, more.dropWhile isBare) else none
    | _, _ => none
  dated.or ((readBare token).map fun t => (t, rest))

end GatewayAuth.Settings.Toml
