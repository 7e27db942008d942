import GatewayAuth.Text.Utf8

/-!
# `GatewayAuth.Url.Percent` — octets as percent signs with two digits

## Contents
- `encode`: a text in which characters that may not stand for themselves are written by their octets.
- `decode?`: the text that such a writing stands for.
- The sets of characters that each part of a URL escapes.
-/

namespace GatewayAuth.Url.Percent

/-! ## Encoding and decoding -/

/-- A hexadecimal digit, in upper case. -/
def hexDigit (n : Nat) : Char := if n < 10 then Char.ofNat (48 + n) else Char.ofNat (55 + n)

/-- An octet by its number. -/
def encodeOctet (b : Nat) : List Char := ['%', hexDigit (b / 16), hexDigit (b % 16)]

/-- A character by the numbers of its octets. -/
def encodeChar (c : Char) : List Char := (Text.octetsOf c).flatMap encodeOctet

/-- A text with the characters that `escaped` names written by their octets. -/
def encode (escaped : Char → Bool) (cs : List Char) : List Char :=
  cs.flatMap fun c => if escaped c then encodeChar c else [c]

/-- The value of a hexadecimal digit in either case. -/
def digitValue? (c : Char) : Option Nat :=
  if c.isDigit then some (c.toNat - 48)
  else if 'A' ≤ c ∧ c ≤ 'F' then some (c.toNat - 55)
  else if 'a' ≤ c ∧ c ≤ 'f' then some (c.toNat - 87)
  else none

/-- The octet that two digits give. -/
def octet? (c d : Char) : Option Nat :=
  match digitValue? c, digitValue? d with
  | some high, some low => some (high * 16 + low)
  | _, _ => none

/-- The octets of a text in which some octets are written by their numbers. A percent sign without two digits
stands for itself. -/
def octets : List Char → List Nat
  | '%' :: c :: d :: rest =>
    match octet? c d with
    | some b => b :: octets rest
    | none => 37 :: octets (c :: d :: rest)
  | c :: rest => Text.octetsOf c ++ octets rest
  | [] => []

/-- The text that a writing with percent signs stands for, if it stands for one. -/
def decode? (cs : List Char) : Option (List Char) := Text.readOctets (octets cs)

/-! ## What is escaped -/

/-- Controls and everything beyond ASCII are escaped everywhere. -/
def always (c : Char) : Bool := c < ' ' || '~' < c

/-- What is escaped in a fragment. -/
def inFragment (c : Char) : Bool := always c || [' ', '"', '<', '>', '\x60'].contains c

/-- What is escaped in a query. -/
def inQuery (c : Char) : Bool := always c || [' ', '"', '#', '<', '>', '\''].contains c

/-- What is escaped in a path that is read from a text. -/
def inPath (c : Char) : Bool := inFragment c || ['#', '?', '\x7b', '\x7d'].contains c

/-- What is escaped in a single part of a path. -/
def inSegment (c : Char) : Bool := inPath c || ['/', '%', '\\'].contains c

/-- What is escaped in a user name or password. -/
def inUserInfo (c : Char) : Bool :=
  inPath c || ['/', ':', ';', '=', '@', '[', '\\', ']', '^', '|'].contains c

/-- What is escaped in the pairs of a form; a blank becomes a plus sign instead. -/
def inForm (c : Char) : Bool := !(c.isAlphanum || ['*', '-', '.', '_', ' '].contains c)

end GatewayAuth.Url.Percent
