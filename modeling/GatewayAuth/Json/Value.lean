import GatewayAuth.Json.Raw
import GatewayAuth.Decimal.Shortest
import GatewayAuth.Sorted

/-!
# `GatewayAuth.Json.Value` — free-form JSON values

## Contents
- `Number`, `Value`: a value as a program sees it. Members are listed in the order in which they print.
- `Numeral.number`: whole numbers of up to 64 bits stay exact, all others become doubles.
- `Value.ofRaw`: the strict reading of a tree as a free-form value, with a bound on nesting. Members come
  out sorted by name, and of two members with one name the later one counts.
- `Value.render`, `Value.renderIndented`: the compact and the two-space layouts.
-/

namespace GatewayAuth.Json

-- Powers are those of the core library, also where other powers of natural numbers are in scope.
attribute [local instance (high)] instPowNat

/-! ## Numbers -/

/-- A number: exact from −2⁶³ to 2⁶⁴−1, a double otherwise. -/
inductive Number where
  | int (i : Int)
  | float (x : Float)
  deriving Repr

/-- The greatest whole number that stays exact while digits are read. -/
def maxSignificand : Nat := 18446744073709551615

/-- Append digits to a significand as long as it stays within 64 bits; the second part counts the digits
that no longer fitted, whatever they are. -/
def significand : Nat → List Char → Nat × Nat
  | total, [] => (total, 0)
  | total, c :: rest =>
    let next := total * 10 + Decimal.digitValue c
    if next ≤ maxSignificand then significand next rest else (total, rest.length + 1)

/-- Scale a double by a power of ten in steps that keep the factor a double; `none` on overflow. -/
def scaleFloat : Nat → Float → Int → Option Float
  | 0, _, _ => none
  | fuel + 1, x, e =>
    if e.natAbs ≤ 308 then
      let factor := Float.ofScientific 1 false e.natAbs
      if 0 ≤ e then
        let y := x * factor
        if y.isInf then none else some y
      else some (x / factor)
    else if x == 0.0 then some x
    else if 0 ≤ e then none
    else scaleFloat fuel (x / Float.ofScientific 1 false 308) (e + 308)

/-- The double of sign, significand and exponent of ten. -/
def floatOfParts (negative : Bool) (sig : Nat) (e : Int) : Option Float :=
  (scaleFloat (e.natAbs / 308 + 2) sig.toUInt64.toFloat e).map fun x => if negative then -x else x

/-- The greatest exponent that is still added up digit by digit. -/
def maxExponent : Nat := 2147483647

/-- The number that a numeral stands for, or `none` when it is beyond every double. Digits that do not fit
into 64 bits only count as places, and so do digits after the point. -/
def Numeral.number (n : Numeral) : Option Number :=
  let (whole, dropped) := significand 0 n.whole
  let (sig, unused) := significand whole n.fraction
  let places : Int := (dropped : Int) - ((n.fraction.length - unused : Nat) : Int)
  match n.exponent with
  | some (down, ds) =>
    let e := Decimal.value ds
    if maxExponent < e then
      if sig ≠ 0 ∧ down = false then none
      else some (.float (if n.negative then -0.0 else 0.0))
    else (floatOfParts n.negative sig (if down then places - e else places + e)).map .float
  | none =>
    if dropped = 0 ∧ n.fraction = [] then
      if n.negative = false then some (.int sig)
      else if sig = 0 ∨ 2 ^ (63 : Nat) < sig then some (.float (-sig.toUInt64.toFloat))
      else some (.int (-(sig : Int)))
    else (floatOfParts n.negative sig places).map .float

/-! ## Values -/

/-- A free-form value. -/
inductive Value where
  | null
  | bool (b : Bool)
  | number (n : Number)
  | string (s : String)
  | array (items : List Value)
  | object (members : List (String × Value))
  deriving Repr

instance : Inhabited Value := ⟨.null⟩

/-- An exact number as a value. -/
def Value.int (i : Int) : Value := .number (.int i)

/-- A natural number as a value. -/
def Value.nat (n : Nat) : Value := .number (.int n)

/-- A text, or null. -/
def Value.optional (s : Option String) : Value :=
  match s with
  | none => .null
  | some s => .string s

/-- How deep brackets and braces may be nested where they are read strictly. -/
def nestingLimit : Nat := 127

/-- Set the value of `name` in a list of members sorted by name. -/
def setMember (name : String) (v : Value) : List (String × Value) → List (String × Value)
  | [] => [(name, v)]
  | (name', v') :: rest =>
    if name < name' then (name, v) :: (name', v') :: rest
    else if name = name' then (name, v) :: rest
    else (name', v') :: setMember name v rest

mutual
/-- Read a tree as a free-form value, with `depth` levels of nesting left. -/
def Value.ofRaw (depth : Nat) : Raw → Except Fault Value
  | .null => .ok .null
  | .bool b => .ok (.bool b)
  | .numeral n =>
    match n.number with
    | some x => .ok (.number x)
    | none => .error .malformed
  | .cutNumeral => .error .ended
  | .string l => l.text.map .string
  | .array items fault =>
    match depth with
    | 0 => .error .malformed
    | depth + 1 => do
      let vs ← itemsOfRaw depth items
      close fault
      return .array vs
  | .object members fault =>
    match depth with
    | 0 => .error .malformed
    | depth + 1 => do
      let ms ← membersOfRaw depth [] members
      close fault
      return .object ms
  | .broken f => .error f
/-- Read the items of an array. -/
def itemsOfRaw (depth : Nat) : List Raw → Except Fault (List Value)
  | [] => .ok []
  | v :: rest => do
    let v ← Value.ofRaw depth v
    let vs ← itemsOfRaw depth rest
    return v :: vs
/-- Read the members of an object and add them to those read before. -/
def membersOfRaw (depth : Nat) (before : List (String × Value)) :
    List (Literal × Raw) → Except Fault (List (String × Value))
  | [] => .ok before
  | (name, v) :: rest => do
    let name ← name.text
    let v ← Value.ofRaw depth v
    membersOfRaw depth (setMember name v before) rest
end

/-- Read a text that holds one free-form value and nothing else. -/
def Value.ofText (text : String) : Except Fault Value := do
  let (tree, more) := Raw.ofText text
  let v ← Value.ofRaw nestingLimit tree
  if more then throw .malformed
  return v

/-- The member of an object with the given name. -/
def Value.member? (v : Value) (name : String) : Option Value :=
  match v with
  | .object members => (members.find? fun m => m.1 == name).map (·.2)
  | _ => none

/-! ## Layout -/

/-- A hexadecimal digit. -/
def hexDigit (n : Nat) : Char := Nat.digitChar n

/-- How a character stands inside a string literal. -/
def escapedChars (c : Char) : List Char :=
  if c = '"' then ['\\', '"']
  else if c = '\\' then ['\\', '\\']
  else if c = '\x08' then ['\\', 'b']
  else if c = '\x0c' then ['\\', 'f']
  else if c = '\n' then ['\\', 'n']
  else if c = '\r' then ['\\', 'r']
  else if c = '\t' then ['\\', 't']
  else if c < ' ' then
    ['\\', 'u', '0', '0', hexDigit (c.toNat / 16), hexDigit (c.toNat % 16)]
  else [c]

/-- A text as a string literal. -/
def quoteChars (s : List Char) : List Char := '"' :: s.flatMap escapedChars ++ ['"']

/-- The text of a number. -/
def Number.chars : Number → List Char
  | .int i => Decimal.intChars i
  | .float x => Decimal.floatChars x

/-- The comma between an element and what follows it, if anything does. -/
def comma {α : Type} (rest : List α) : List Char := if rest.isEmpty then [] else [',']

mutual
/-- The compact layout: no white space. -/
def Value.chars : Value → List Char
  | .null => ['n', 'u', 'l', 'l']
  | .bool true => ['t', 'r', 'u', 'e']
  | .bool false => ['f', 'a', 'l', 's', 'e']
  | .number n => n.chars
  | .string s => quoteChars s.toList
  | .array items => '[' :: itemsChars items
  | .object members => '\x7b' :: membersChars members
/-- Items and the closing bracket. -/
def itemsChars : List Value → List Char
  | [] => [']']
  | v :: rest => v.chars ++ comma rest ++ itemsChars rest
/-- Members and the closing brace. -/
def membersChars : List (String × Value) → List Char
  | [] => ['\x7d']
  | (name, v) :: rest => quoteChars name.toList ++ ':' :: v.chars ++ comma rest ++ membersChars rest
end

/-- The compact text of a value. -/
def Value.render (v : Value) : String := String.ofList v.chars

/-- The start of a line at the given depth. -/
def newLine (depth : Nat) : List Char := '\n' :: List.replicate (2 * depth) ' '

mutual
/-- The layout with one item or member per line; empty arrays and objects stay together. -/
def Value.indentedChars (depth : Nat) : Value → List Char
  | .null => ['n', 'u', 'l', 'l']
  | .bool true => ['t', 'r', 'u', 'e']
  | .bool false => ['f', 'a', 'l', 's', 'e']
  | .number n => n.chars
  | .string s => quoteChars s.toList
  | .array items => if items.isEmpty then ['[', ']'] else '[' :: indentedItems depth items
  | .object members =>
    if members.isEmpty then ['\x7b', '\x7d'] else '\x7b' :: indentedMembers depth members
/-- Items, one per line, and the closing bracket on a line of its own. -/
def indentedItems (depth : Nat) : List Value → List Char
  | [] => newLine depth ++ [']']
  | v :: rest =>
    newLine (depth + 1) ++ v.indentedChars (depth + 1) ++ comma rest ++ indentedItems depth rest
/-- Members, one per line, and the closing brace on a line of its own. -/
def indentedMembers (depth : Nat) : List (String × Value) → List Char
  | [] => newLine depth ++ ['\x7d']
  | (name, v) :: rest =>
    newLine (depth + 1) ++ quoteChars name.toList ++ ':' :: ' ' :: v.indentedChars (depth + 1) ++
      comma rest ++ indentedMembers depth rest
end

/-- The text of a value with two spaces per level of nesting. -/
def Value.renderIndented (v : Value) : String := String.ofList (v.indentedChars 0)

end GatewayAuth.Json
