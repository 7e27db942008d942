import GatewayAuth.Decimal

/-!
# `GatewayAuth.Json.Raw` — the syntax of a JSON text, and where it goes wrong

A decoder for a typed document reads parts of a text strictly (fields that it models) and only skips
others (fields that it does not). The two ways of reading differ in what they refuse, and the first
problem in the order of the text decides the answer. So scanning and reading are two stages here:

## Contents
- `Raw`: the tree of a text as it was written, with numerals and string literals kept as lexemes. Scanning
  stops at the first place where even a skipped value would be refused, and leaves the `Fault` there.
- `Raw.skip`: what reading without interest in the content says about a tree.
- `Literal.text`, `Numeral.number`: strict readings of the two kinds of lexeme.
- `Raw.scan`, `Raw.ofText`: from characters to trees.
-/

namespace GatewayAuth.Json

/-- How a text fails to be JSON: it ends too early, or it goes on with something that no JSON text has
there. -/
inductive Fault where
  | ended
  | malformed
  deriving DecidableEq, Repr

/-! ## String literals -/

/-- One unit of a string literal. -/
inductive LiteralUnit where
  /-- A character that stands for itself. -/
  | plain (c : Char)
  /-- A character written as a backslash and a letter or sign. -/
  | escaped (c : Char)
  /-- A sixteen-bit unit written as a backslash, `u` and four hexadecimal digits. -/
  | code (unit : Nat)
  deriving DecidableEq, Repr

/-- A string literal: its units, and the fault that took the place of the closing quote. -/
structure Literal where
  units : List LiteralUnit
  fault : Option Fault
  deriving DecidableEq, Repr

/-- Whether a sixteen-bit unit is the first half of a pair. -/
def isLeading (unit : Nat) : Bool := 0xD800 ≤ unit && unit ≤ 0xDBFF

/-- Whether a sixteen-bit unit is the second half of a pair. -/
def isTrailing (unit : Nat) : Bool := 0xDC00 ≤ unit && unit ≤ 0xDFFF

/-- The character of a pair of units. -/
def pairChar (lead trail : Nat) : Char :=
  Char.ofNat ((lead - 0xD800) * 0x400 + (trail - 0xDC00) + 0x10000)

/-- The characters of a literal that ends as `fault` says. Halves of pairs that stand alone are refused;
when the text breaks off right after a first half, the break is what is reported. -/
def literalChars (fault : Option Fault) : List LiteralUnit → Except Fault (List Char)
  | [] => match fault with
    | none => .ok []
    | some f => .error f
  | .plain c :: rest => (literalChars fault rest).map (c :: ·)
  | .escaped c :: rest => (literalChars fault rest).map (c :: ·)
  | .code lead :: rest =>
    if isTrailing lead then .error .malformed
    else if isLeading lead then
      match rest with
      | .code trail :: rest' =>
        if isTrailing trail then (literalChars fault rest').map (pairChar lead trail :: ·)
        else .error .malformed
      | [] => .error (fault.getD .malformed)
      | _ => .error .malformed
    else (literalChars fault rest).map (Char.ofNat lead :: ·)

/-- The text of a literal. -/
def Literal.text (l : Literal) : Except Fault String :=
  (literalChars l.fault l.units).map String.ofList

/-- The value of a hexadecimal digit. -/
def hexValue? (c : Char) : Option Nat :=
  if c.isDigit then some (c.toNat - '0'.toNat)
  else if 'a' ≤ c ∧ c ≤ 'f' then some (c.toNat - 'a'.toNat + 10)
  else if 'A' ≤ c ∧ c ≤ 'F' then some (c.toNat - 'A'.toNat + 10)
  else none

/-- The value of four hexadecimal digits. -/
def hexUnit? (a b c d : Char) : Option Nat := do
  let a ← hexValue? a
  let b ← hexValue? b
  let c ← hexValue? c
  let d ← hexValue? d
  return ((a * 16 + b) * 16 + c) * 16 + d

/-- What a backslash and `c` stand for. -/
def escapeChar? : Char → Option Char
  | '"' => some '"'
  | '\\' => some '\\'
  | '/' => some '/'
  | 'b' => some '\x08'
  | 'f' => some '\x0c'
  | 'n' => some '\n'
  | 'r' => some '\r'
  | 't' => some '\t'
  | _ => none

/-- The number of octets of a text in UTF-8. -/
def octets (cs : List Char) : Nat := cs.foldl (fun n c => n + c.utf8Size) 0

/-- Put a unit in front of a literal. -/
def Literal.cons (u : LiteralUnit) (l : Literal) : Literal := { l with units := u :: l.units }

/-- Scan a string literal after its opening quote. A hexadecimal escape needs four octets of text; with
fewer the text has ended, whatever they are. -/
def Literal.scan : List Char → Literal × Option (List Char)
  | [] => (⟨[], some .ended⟩, none)
  | '"' :: rest => (⟨[], none⟩, some rest)
  | ['\\'] => (⟨[], some .ended⟩, none)
  | '\\' :: 'u' :: a :: b :: c :: d :: rest =>
    match hexUnit? a b c d with
    | some n =>
      let (l, rest') := Literal.scan rest
      (l.cons (.code n), rest')
    | none => (⟨[], some .malformed⟩, none)
  | '\\' :: 'u' :: short => (⟨[], some (if octets short < 4 then .ended else .malformed)⟩, none)
  | '\\' :: e :: rest =>
    match escapeChar? e with
    | some c =>
      let (l, rest') := Literal.scan rest
      (l.cons (.escaped c), rest')
    | none => (⟨[], some .malformed⟩, none)
  | c :: rest =>
    if c < ' ' then (⟨[], some .malformed⟩, none)
    else
      let (l, rest') := Literal.scan rest
      (l.cons (.plain c), rest')

/-! ## Numerals -/

/-- A numeral as it was written: sign, digits before the point, digits after it (none without a point)
and an exponent (whether it is negative, and its digits). -/
structure Numeral where
  negative : Bool
  whole : List Char
  fraction : List Char
  exponent : Option (Bool × List Char)
  deriving DecidableEq, Repr

/-! ## Trees -/

/-- The tree of a text. A tree with a fault in it ends there: nothing after the fault was scanned. -/
inductive Raw where
  | null
  | bool (b : Bool)
  | numeral (n : Numeral)
  /-- A numeral that stops, at the end of the text, where it needs a digit. -/
  | cutNumeral
  | string (l : Literal)
  /-- Items, and the fault that took the place of the closing bracket. -/
  | array (items : List Raw) (fault : Option Fault)
  /-- Members, and the fault that took the place of the closing brace or of a further name. -/
  | object (members : List (Literal × Raw)) (fault : Option Fault)
  /-- No value here. -/
  | broken (f : Fault)
  deriving Repr

/-- What a place that should hold a closing mark says. -/
def close (fault : Option Fault) : Except Fault Unit :=
  match fault with
  | none => .ok ()
  | some f => .error f

mutual
/-- Read a tree without interest in its content: only faults of scanning count, and a numeral that is cut
off is malformed. -/
def Raw.skip : Raw → Except Fault Unit
  | .null | .bool _ | .numeral _ => .ok ()
  | .cutNumeral => .error .malformed
  | .string l => close l.fault
  | .array items fault => do skipAll items; close fault
  | .object members fault => do skipMembers members; close fault
  | .broken f => .error f
/-- Skip the items of an array. -/
def skipAll : List Raw → Except Fault Unit
  | [] => .ok ()
  | v :: rest => do v.skip; skipAll rest
/-- Skip the members of an object, names included. -/
def skipMembers : List (Literal × Raw) → Except Fault Unit
  | [] => .ok ()
  | (name, v) :: rest => do close name.fault; v.skip; skipMembers rest
end

/-! ## Scanning -/

/-- The white space of JSON. -/
def isBlank (c : Char) : Bool := c == ' ' || c == '\n' || c == '\t' || c == '\r'

/-- A text without its leading white space. -/
def skipBlank (cs : List Char) : List Char := cs.dropWhile isBlank

/-- Scan the rest of a fixed word. -/
def scanWord (v : Raw) : List Char → List Char → Raw × Option (List Char)
  | [], cs => (v, some cs)
  | _ :: _, [] => (.broken .ended, none)
  | w :: ws, c :: cs => if w = c then scanWord v ws cs else (.broken .malformed, none)

/-- The value of a place where a digit is missing: cut off at the end of the text, malformed elsewhere. -/
def missingDigit (rest : List Char) : Raw :=
  if rest.isEmpty then .cutNumeral else .broken .malformed

/-- Scan an exponent, if there is one, and finish the numeral. -/
def scanExponent (n : Numeral) (cs : List Char) : Raw × Option (List Char) :=
  let digits (negative : Bool) (r : List Char) : Raw × Option (List Char) :=
    match r.takeWhile Char.isDigit with
    | [] => (missingDigit r, none)
    | ds => (.numeral { n with exponent := some (negative, ds) }, some (r.dropWhile Char.isDigit))
  let signed (r : List Char) : Raw × Option (List Char) :=
    match r with
    | '+' :: r' => digits false r'
    | '-' :: r' => digits true r'
    | _ => digits false r
  match cs with
  | 'e' :: r => signed r
  | 'E' :: r => signed r
  | _ => (.numeral n, some cs)

/-- Scan a fraction, if there is one, and what follows. -/
def scanFraction (n : Numeral) (cs : List Char) : Raw × Option (List Char) :=
  match cs with
  | '.' :: r =>
    match r.takeWhile Char.isDigit with
    | [] => (missingDigit r, none)
    | ds => scanExponent { n with fraction := ds } (r.dropWhile Char.isDigit)
  | _ => scanExponent n cs

/-- Scan a numeral after its sign. A leading zero stands alone. -/
def scanMagnitude (negative : Bool) (cs : List Char) : Raw × Option (List Char) :=
  match cs.takeWhile Char.isDigit with
  | [] => (missingDigit cs, none)
  | '0' :: _ :: _ => (.broken .malformed, none)
  | ds => scanFraction ⟨negative, ds, [], none⟩ (cs.dropWhile Char.isDigit)

/-- Scan a numeral. -/
def scanNumeral (cs : List Char) : Raw × Option (List Char) :=
  match cs with
  | '-' :: r => scanMagnitude true r
  | _ => scanMagnitude false cs

mutual
/-- Scan one value, at most `fuel` calls deep. -/
def scanValue : Nat → List Char → Raw × Option (List Char)
  | 0, _ => (.broken .ended, none)
  | fuel + 1, cs =>
    match skipBlank cs with
    | [] => (.broken .ended, none)
    | 'n' :: r => scanWord .null ['u', 'l', 'l'] r
    | 't' :: r => scanWord (.bool true) ['r', 'u', 'e'] r
    | 'f' :: r => scanWord (.bool false) ['a', 'l', 's', 'e'] r
    | '"' :: r =>
      let (l, rest) := Literal.scan r
      (.string l, rest)
    | '[' :: r =>
      match skipBlank r with
      | [] => (.array [] (some .ended), none)
      | ']' :: rest => (.array [] none, some rest)
      | r' =>
        let (items, fault, rest) := scanItems fuel r'
        (.array items fault, rest)
    | '{' :: r =>
      match skipBlank r with
      | '}' :: rest => (.object [] none, some rest)
      | r' =>
        let (members, fault, rest) := scanMembers fuel r'
        (.object members fault, rest)
    | c :: r =>
      if c = '-' ∨ c.isDigit then scanNumeral (c :: r) else (.broken .malformed, none)
/-- Scan the items of an array up to its closing bracket; at least one is due. -/
def scanItems : Nat → List Char → List Raw × Option Fault × Option (List Char)
  | 0, _ => ([], some .ended, none)
  | fuel + 1, cs =>
    match scanValue fuel cs with
    | (v, none) => ([v], none, none)
    | (v, some rest) =>
      match skipBlank rest with
      | [] => ([v], some .ended, none)
      | ',' :: r =>
        let (items, fault, rest') := scanItems fuel r
        (v :: items, fault, rest')
      | ']' :: r => ([v], none, some r)
      | _ => ([v], some .malformed, none)
/-- Scan the members of an object up to its closing brace; at least one is due. -/
def scanMembers : Nat → List Char → List (Literal × Raw) × Option Fault × Option (List Char)
  | 0, _ => ([], some .ended, none)
  | fuel + 1, cs =>
    match skipBlank cs with
    | [] => ([], some .ended, none)
    | '"' :: r =>
      match Literal.scan r with
      | (name, none) => ([(name, .broken .malformed)], none, none)
      | (name, some rest) =>
        match skipBlank rest with
        | [] => ([(name, .broken .ended)], none, none)
        | ':' :: r' =>
          match scanValue fuel r' with
          | (v, none) => ([(name, v)], none, none)
          | (v, some rest') =>
            match skipBlank rest' with
            | [] => ([(name, v)], some .ended, none)
            | ',' :: r'' =>
              let (members, fault, rest'') := scanMembers fuel r''
              ((name, v) :: members, fault, rest'')
            | '}' :: r'' => ([(name, v)], none, some r'')
            | _ => ([(name, v)], some .malformed, none)
        | _ => ([(name, .broken .malformed)], none, none)
    | _ => ([], some .malformed, none)
end

/-- The tree of a text, and whether anything but white space follows it. Two calls per character are
enough: only a bracket, a brace or a comma leads from one call to the next but one. -/
def Raw.ofText (text : String) : Raw × Bool :=
  let cs := text.toList
  match scanValue (2 * cs.length + 2) cs with
  | (v, none) => (v, false)
  | (v, some rest) => (v, !(skipBlank rest).isEmpty)

end GatewayAuth.Json
