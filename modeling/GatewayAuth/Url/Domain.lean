import GatewayAuth.Text.Composition
import GatewayAuth.Text.Mark
import GatewayAuth.Url.Domain.Direction
import GatewayAuth.Url.Domain.Image
import GatewayAuth.Url.Domain.Joining
import GatewayAuth.Url.Domain.Punycode
import GatewayAuth.Url.Host

/-!
# `GatewayAuth.Url.Domain` — host names in their registered form

A name consists of parts between points. Its characters are replaced by those that they stand for, small
letters among them; then a part with other than ASCII characters is registered by a code that starts with
four marking characters. A part may also be given by its code.

## Contents
- `isForbidden`: characters with a meaning elsewhere in a URL.
- `Part`, `readPart?`: a part as it is registered and as it reads.
- `registeredName`: the registered form of a name.
-/

namespace GatewayAuth.Url

namespace Domain

/-! ## Parts -/

/-- Whether an ASCII character cannot stand in a host name. -/
def isForbidden (c : Char) : Bool :=
  c ≤ ' ' || c == '\x7f' ||
    ['%', '#', '/', ':', '<', '>', '?', '@', '[', '\\', ']', '^', '|'].contains c

/-- What the code of a part starts with. -/
def codeMarker : List Char := ['x', 'n', '-', '-']

/-- A part of a name. -/
structure Part where
  /-- How it reads. -/
  text : List Char
  /-- How it is registered. -/
  registered : List Char
  deriving DecidableEq, Repr

/-- Whether a text is what it stands for, with nothing left to be composed. -/
def isFinal (text : List Char) : Bool :=
  text.all (fun c => Domain.image? c == some [c]) && Text.composed text == text

/-- Read a part whose characters have been replaced. A code has to be that of a text that needs one. -/
def readPart? (cs : List Char) : Option Part :=
  if cs.take 4 = codeMarker then
    match Punycode.decode? (cs.drop 4) with
    | none => none
    | some text => if isFinal text && !text.all Punycode.isPlain then some ⟨text, cs⟩ else none
  else if cs.all Punycode.isPlain then some ⟨cs, cs⟩
  else some ⟨cs, codeMarker ++ Punycode.encode cs⟩

/-- Whether a part can stand in a name: no forbidden character, no mark in front, joiners where they fit. -/
def Part.isValid (p : Part) : Bool :=
  !p.text.any isForbidden && !(p.text.head?.any Text.isMark) && joinersFit p.text

/-- Whether a name with this part counts as written from right to left. -/
def Part.turns (p : Part) : Bool := p.text.any fun c => (directionOf c).turns

/-! ## Names -/

/-- The characters that a name stands for. -/
def standsFor? (cs : List Char) : Option (List Char) :=
  (cs.mapM image?).map fun images => Text.composed images.flatten

/-- Parts with points between them. -/
def joinPoints : List (List Char) → List Char
  | [] => []
  | [part] => part
  | part :: rest => part ++ '.' :: joinPoints rest

end Domain

/-- The registered form of a name, if it has one. -/
def registeredName (cs : List Char) : Option (List Char) := do
  let text ← Domain.standsFor? cs
  let parts ← (splitWhere (· == '.') text).mapM Domain.readPart?
  if parts.all Domain.Part.isValid &&
      (!parts.any Domain.Part.turns || parts.all fun p => Domain.keepsDirection p.text) then
    some (Domain.joinPoints (parts.map (·.registered)))
  else none

end GatewayAuth.Url
