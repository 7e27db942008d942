import GatewayAuth.Decimal
import GatewayAuth.Text.Blank

/-!
# `GatewayAuth.Timestamp` — instants in coordinated universal time

## Contents
- `Timestamp`: calendar fields in universal time; a leap second is second 60.
- `Timestamp.parse?`: the internet date format with some latitude: white space around fields, a blank or a
  small `t` between date and time, signed years, any number of fraction digits (nine count), and the offset
  as `Z`, `UTC` or hours and minutes with an optional colon.
- `Timestamp.chars`: the canonical text, in universal time with the shortest exact fraction of 0, 3, 6 or 9
  digits.
-/

namespace GatewayAuth

-- Powers are those of the core library, also where other powers of natural numbers are in scope.
attribute [local instance (high)] instPowNat

/-- An instant, as the fields of its date and time in universal time. -/
structure Timestamp where
  year : Int
  month : Nat
  day : Nat
  hour : Nat
  minute : Nat
  second : Nat
  nanos : Nat
  deriving DecidableEq, Repr

namespace Timestamp

open GatewayAuth.Text

/-! ## The calendar -/

/-- The first year of the calendar in use. -/
def minYear : Int := -262143

/-- The last year of the calendar in use. -/
def maxYear : Int := 262142

/-- Whether a year has a leap day. -/
def isLeap (year : Int) : Bool := year % 4 = 0 && (year % 100 ≠ 0 || year % 400 = 0)

/-- The number of days of a month. -/
def daysIn (year : Int) (month : Nat) : Nat :=
  if month = 2 then if isLeap year then 29 else 28
  else if month = 4 ∨ month = 6 ∨ month = 9 ∨ month = 11 then 30
  else 31

/-- Whether the calendar has a date. -/
def isDate (year : Int) (month day : Nat) : Bool :=
  minYear ≤ year && year ≤ maxYear && 1 ≤ month && month ≤ 12 && 1 ≤ day && day ≤ daysIn year month

/-- The date before a date. -/
def dayBefore (year : Int) (month day : Nat) : Int × Nat × Nat :=
  if 1 < day then (year, month, day - 1)
  else if 1 < month then (year, month - 1, daysIn year (month - 1))
  else (year - 1, 12, 31)

/-- The date after a date. -/
def dayAfter (year : Int) (month day : Nat) : Int × Nat × Nat :=
  if day < daysIn year month then (year, month, day + 1)
  else if month < 12 then (year, month + 1, 1)
  else (year + 1, 1, 1)

/-- The instant whose local fields are `t` where clocks are `offset` minutes ahead of universal time. -/
def ofLocal? (t : Timestamp) (offset : Int) : Option Timestamp :=
  let minutes : Int := t.hour * 60 + t.minute - offset
  let (year, month, day) :=
    if minutes < 0 then dayBefore t.year t.month t.day
    else if 1440 ≤ minutes then dayAfter t.year t.month t.day
    else (t.year, t.month, t.day)
  if year < minYear ∨ maxYear < year then none
  else
    let inDay := (minutes % 1440).toNat
    some { t with year, month, day, hour := inDay / 60, minute := inDay % 60 }

/-! ## Reading -/

/-- At most `width` digits at the front, of which there is at least one, and the rest. -/
def number? (width : Nat) (cs : List Char) : Option (Nat × List Char) :=
  let ds := (cs.take width).takeWhile Char.isDigit
  if ds.isEmpty then none else some (Decimal.value ds, cs.drop ds.length)

/-- A field of at most two digits after white space. -/
def field? (cs : List Char) : Option (Nat × List Char) := number? 2 (trimStart cs)

/-- A year after white space: up to four digits, or a sign and any number of digits. -/
def year? (cs : List Char) : Option (Int × List Char) :=
  match trimStart cs with
  | '-' :: r => (number? r.length r).map fun (n, rest) => (-(n : Int), rest)
  | '+' :: r => (number? r.length r).map fun (n, rest) => ((n : Int), rest)
  | r => (number? 4 r).map fun (n, rest) => ((n : Int), rest)

/-- The rest after white space and a separator. -/
def separator? (c : Char) (cs : List Char) : Option (List Char) :=
  match trimStart cs with
  | c' :: rest => if c' = c then some rest else none
  | [] => none

/-- Nanoseconds after a point, if there is one. Digits after the ninth are dropped. -/
def fraction? (cs : List Char) : Option (Nat × List Char) :=
  match cs with
  | '.' :: r =>
    let ds := r.takeWhile Char.isDigit
    let kept := ds.take 9
    if ds.isEmpty then none
    else some (Decimal.value kept * 10 ^ (9 - kept.length), r.drop ds.length)
  | _ => some (0, cs)

/-- The digit at the front. -/
def digit? (cs : List Char) : Option (Nat × List Char) :=
  match cs with
  | c :: rest => if c.isDigit then some (Decimal.digitValue c, rest) else none
  | [] => none

/-- Hours and minutes of an offset after its sign, as minutes. -/
def offsetMinutes? (cs : List Char) : Option (Nat × List Char) := do
  let (h1, cs) ← digit? cs
  let (h2, cs) ← digit? cs
  let cs := cs.dropWhile fun c => c == ':' || isBlank c
  let (m1, cs) ← digit? cs
  let (m2, cs) ← digit? cs
  if 5 < m1 then none
  return ((h1 * 10 + h2) * 60 + m1 * 10 + m2, cs)

/-- The offset from universal time in minutes. -/
def offset? (cs : List Char) : Option (Int × List Char) :=
  match cs with
  | 'Z' :: rest => some (0, rest)
  | 'z' :: rest => some (0, rest)
  | '+' :: rest => (offsetMinutes? rest).map fun (n, r) => ((n : Int), r)
  | '-' :: rest => (offsetMinutes? rest).map fun (n, r) => (-(n : Int), r)
  | '−' :: rest => (offsetMinutes? rest).map fun (n, r) => (-(n : Int), r)
  | u :: t :: c :: rest =>
    if u.toLower = 'u' ∧ t.toLower = 't' ∧ c.toLower = 'c' then some (0, rest) else none
  | _ => none

/-- The mark between date and time. -/
def isTimeMark (c : Char) : Bool := c == 'T' || c == 't' || c == ' '

/-- Read an instant. -/
def parse? (cs : List Char) : Option Timestamp := do
  let (year, cs) ← year? cs
  let cs ← separator? '-' cs
  let (month, cs) ← field? cs
  let cs ← separator? '-' cs
  let (day, cs) ← field? cs
  let cs ← match cs with
    | c :: rest => if isTimeMark c then some rest else none
    | [] => none
  let (hour, cs) ← field? cs
  let cs ← separator? ':' cs
  let (minute, cs) ← field? cs
  let cs ← separator? ':' cs
  let (second, cs) ← field? cs
  let (nanos, cs) ← fraction? cs
  let (offset, cs) ← offset? (trimStart cs)
  if !(trimStart cs).isEmpty then none
  if !isDate year month day || 23 < hour || 59 < minute || 60 < second then none
  if 1440 ≤ offset.natAbs then none
  ofLocal? ⟨year, month, day, hour, minute, second, nanos⟩ offset

/-! ## Writing -/

/-- A year: four digits, or a sign and at least four digits outside of 0 to 9999. -/
def yearChars (year : Int) : List Char :=
  if 0 ≤ year ∧ year ≤ 9999 then Decimal.padded 4 year.toNat
  else
    let ds := Decimal.digits year.natAbs
    (if year < 0 then '-' else '+') :: (List.replicate (4 - ds.length) '0' ++ ds)

/-- The shortest exact fraction of a second. -/
def fractionChars (nanos : Nat) : List Char :=
  if nanos = 0 then []
  else if nanos % 1000000 = 0 then '.' :: Decimal.padded 3 (nanos / 1000000)
  else if nanos % 1000 = 0 then '.' :: Decimal.padded 6 (nanos / 1000)
  else '.' :: Decimal.padded 9 nanos

/-- The canonical text of an instant. -/
def chars (t : Timestamp) : List Char :=
  yearChars t.year ++ '-' :: Decimal.padded 2 t.month ++ '-' :: Decimal.padded 2 t.day ++
    'T' :: Decimal.padded 2 t.hour ++ ':' :: Decimal.padded 2 t.minute ++
    ':' :: Decimal.padded 2 t.second ++ fractionChars t.nanos ++ ['Z']

/-- The canonical text of an instant. -/
def render (t : Timestamp) : String := String.ofList t.chars

end Timestamp

end GatewayAuth
