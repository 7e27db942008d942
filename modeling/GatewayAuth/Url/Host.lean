import GatewayAuth.Decimal
import GatewayAuth.Url.Percent

/-!
# `GatewayAuth.Url.Host` — hosts by name and by address

## Contents
- `Fault`: what can be wrong with a URL, and the wording.
- `readAddress4`: an IPv4 address of up to four parts in decimal, octal or hexadecimal.
- `readAddress6`: an IPv6 address in brackets; one run of zeros may be left out.
- `address4Chars`, `address6Chars`: the canonical texts.
-/

namespace GatewayAuth.Url

-- Powers are those of the core library, also where other powers of natural numbers are in scope.
attribute [local instance (high)] instPowNat

/-- What is wrong with a URL. -/
inductive Fault where
  | relative
  | emptyHost
  | invalidPort
  | invalidAddress4
  | invalidAddress6
  | invalidDomainCharacter
  | invalidDomain
  deriving DecidableEq, Repr

/-- The wording of a fault. -/
def Fault.message : Fault → String
  | relative => "relative URL without a base"
  | emptyHost => "empty host"
  | invalidPort => "invalid port number"
  | invalidAddress4 => "invalid IPv4 address"
  | invalidAddress6 => "invalid IPv6 address"
  | invalidDomainCharacter => "invalid domain character"
  | invalidDomain => "invalid international domain name"

/-- The parts of a list between the places where `p` holds. -/
def splitWhere {α : Type} (p : α → Bool) : List α → List (List α)
  | [] => [[]]
  | a :: rest =>
    match splitWhere p rest with
    | [] => [[a]]
    | part :: parts => if p a then [] :: part :: parts else (a :: part) :: parts

/-! ## IPv4 -/

/-- The number that digits to a base stand for. -/
def basedValue (base : Nat) (ds : List Char) : Nat :=
  ds.foldl (fun n c => n * base + (Percent.digitValue? c).getD 0) 0

/-- Read a part of an address: hexadecimal after `0x`, octal after `0`, decimal otherwise. -/
def readPart (cs : List Char) : Option Nat :=
  let based (base : Nat) (ds : List Char) : Option Nat :=
    if ds.all fun c => (Percent.digitValue? c).any (· < base) then some (basedValue base ds) else none
  match cs with
  | [] => none
  | '0' :: 'x' :: ds => based 16 ds
  | '0' :: 'X' :: ds => based 16 ds
  | '0' :: d :: ds => based 8 (d :: ds)
  | ds => based 10 ds

/-- The parts of a host name between points, without an empty one at the end. -/
def partsOf (cs : List Char) : List (List Char) :=
  let parts := splitWhere (· == '.') cs
  if parts.getLast? = some [] then parts.dropLast else parts

/-- Whether the last part of a host name is a number, so that the host has to be an address. -/
def endsInNumber (cs : List Char) : Bool :=
  match (partsOf cs).getLast? with
  | none => false
  | some part => (!part.isEmpty && part.all Char.isDigit) || (readPart part).isSome

/-- Put the parts of an address together: every part but the last is an octet, the last fills the rest. -/
def joinParts : Nat → List Nat → Option Nat
  | _, [] => none
  | places, [n] => if n < 256 ^ places then some n else none
  | places, n :: rest =>
    if n < 256 then (joinParts (places - 1) rest).map (n * 256 ^ (places - 1) + ·) else none

/-- Read an address. -/
def readAddress4 (cs : List Char) : Except Fault Nat :=
  let parts := partsOf cs
  if 4 < parts.length then .error .invalidAddress4
  else
    match (parts.mapM readPart).bind (joinParts 4) with
    | some n => .ok n
    | none => .error .invalidAddress4

/-- The four octets of an address, with points between them. -/
def address4Chars (n : Nat) : List Char :=
  Decimal.digits (n / 16777216) ++ '.' :: Decimal.digits (n / 65536 % 256) ++
    '.' :: Decimal.digits (n / 256 % 256) ++ '.' :: Decimal.digits (n % 256)

/-! ## IPv6 -/

/-- Read an octet in decimal, without leading zeros. -/
def readOctet (cs : List Char) : Option Nat :=
  match cs with
  | [] => none
  | '0' :: _ :: _ => none
  | ds =>
    let n := Decimal.value ds
    if ds.all Char.isDigit ∧ n < 256 then some n else none

/-- Read an IPv4 address at the end of an IPv6 address, as two pieces. -/
def readTail (cs : List Char) : Option (List Nat) :=
  match (splitWhere (· == '.') cs).mapM readOctet with
  | some [a, b, c, d] => some [a * 256 + b, c * 256 + d]
  | _ => none

/-- Read up to `limit` hexadecimal digits. -/
def takeHex : Nat → Nat → List Char → Nat × List Char
  | 0, n, cs => (n, cs)
  | limit + 1, n, c :: cs =>
    match Percent.digitValue? c with
    | some d => takeHex limit (n * 16 + d) cs
    | none => (n, c :: cs)
  | _ + 1, n, [] => (n, [])

/-- Read the pieces of an address after those in `pieces`; `gap` is the place after the zero that stands for
a run of zeros. At most so many pieces are to come. -/
def readPieces : Nat → List Nat → Option Nat → List Char → Option (List Nat × Option Nat)
  | _, pieces, gap, [] => some (pieces, gap)
  | 0, _, _, _ :: _ => none
  | left + 1, pieces, gap, c :: cs =>
    if c = ':' then
      if gap.isSome then none
      else readPieces left (pieces ++ [0]) (some (pieces.length + 1)) cs
    else
      let (n, rest) := takeHex 4 0 (c :: cs)
      match rest with
      | [] => some (pieces ++ [n], gap)
      | [':'] => none
      | ':' :: rest => readPieces left (pieces ++ [n]) gap rest
      | '.' :: _ =>
        if rest.length ≤ cs.length ∧ pieces.length ≤ 6 then
          (readTail (c :: cs)).map fun tail => (pieces ++ tail, gap)
        else none
      | _ => none

/-- The eight pieces of an address, the run of zeros in place. -/
def fillGap (pieces : List Nat) (gap : Option Nat) : Option (List Nat) :=
  match gap with
  | some k => some (pieces.take k ++ List.replicate (8 - pieces.length) 0 ++ pieces.drop k)
  | none => if pieces.length = 8 then some pieces else none

/-- Read an address, without its brackets. -/
def readAddress6 (cs : List Char) : Except Fault (List Nat) :=
  let pieces := match cs with
    | ':' :: ':' :: rest => readPieces 7 [0] (some 1) rest
    | ':' :: _ => none
    | [] => none
    | [_] => none
    | cs => readPieces 8 [] none cs
  match pieces.bind fun p => fillGap p.1 p.2 with
  | some pieces => .ok pieces
  | none => .error .invalidAddress6

/-- The number of zeros at the front. -/
def zeroRun (pieces : List Nat) : Nat := (pieces.takeWhile (· == 0)).length

/-- Where the longest run of at least two zeros begins, the first of several, and how long it is. -/
def longestRun : Nat → List Nat → Option (Nat × Nat)
  | _, [] => none
  | place, piece :: rest =>
    let n := zeroRun (piece :: rest)
    match longestRun (place + 1) rest with
    | some (start, length) => if length ≤ n then some (place, n) else some (start, length)
    | none => if 2 ≤ n then some (place, n) else none

/-- Pieces in hexadecimal, with colons between them. -/
def piecesChars : List Nat → List Char
  | [] => []
  | [n] => Nat.toDigits 16 n
  | n :: rest => Nat.toDigits 16 n ++ ':' :: piecesChars rest

/-- The canonical text of an address: the longest run of zeros is left out. -/
def address6Chars (pieces : List Nat) : List Char :=
  match longestRun 0 pieces with
  | some (start, length) =>
    piecesChars (pieces.take start) ++ ':' :: ':' :: piecesChars (pieces.drop (start + length))
  | none => piecesChars pieces

end GatewayAuth.Url
