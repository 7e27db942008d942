import GatewayAuth.Decimal
import GatewayAuth.Url.Percent

/-!
# `GatewayAuth.Url.Basic` — URLs of the web

## Contents
- `Url`: the parts of a URL with the scheme `http` or `https`, each in its escaped form.
- `render`: the text of a URL.
- `parent`: the path of the directory above; `popIfEmpty`, `push`, `extend`: paths by their parts.
- `appendPairs`: further pairs in the query, and `formChars`, the form that they take.
-/

namespace GatewayAuth

/-- A URL with the scheme `http` or `https`. -/
structure Url where
  scheme : String
  user : List Char
  password : List Char
  host : List Char
  /-- The port, unless it is the default of the scheme. -/
  port : Option Nat
  /-- The parts of the path, each after a slash; there is at least one. -/
  path : List (List Char)
  query : Option (List Char)
  fragment : Option (List Char)
  deriving DecidableEq, Repr

namespace Url

/-! ## Text -/

/-- The user name and password, if there are any. -/
def userChars (u : Url) : List Char :=
  if u.user.isEmpty ∧ u.password.isEmpty then []
  else u.user ++ (if u.password.isEmpty then [] else ':' :: u.password) ++ ['@']

/-- The path. -/
def pathChars (u : Url) : List Char := u.path.flatMap ('/' :: ·)

/-- The characters of a URL. -/
def chars (u : Url) : List Char :=
  u.scheme.toList ++ ':' :: '/' :: '/' :: u.userChars ++ u.host ++
    (match u.port with
      | some n => ':' :: Decimal.digits n
      | none => []) ++
    u.pathChars ++
    (match u.query with
      | some q => '?' :: q
      | none => []) ++
    (match u.fragment with
      | some f => '#' :: f
      | none => [])

/-- The text of a URL. -/
def render (u : Url) : String := String.ofList u.chars

/-! ## Paths -/

/-- Whether a part of a path stands for the directory itself. -/
def isSingleDot (part : List Char) : Bool :=
  part == ['.'] || part.map Char.toLower == ['%', '2', 'e']

/-- Whether a part of a path stands for the directory above. -/
def isDoubleDot (part : List Char) : Bool :=
  let dots : List (List Char) := [['.'], ['%', '2', 'e']]
  dots.any fun a => dots.any fun b => part.map Char.toLower == a ++ b

/-- Whether the characters are the letter of a drive. -/
def isDrive (cs : List Char) : Bool :=
  match cs with
  | [c, d] => c.isAlpha && (d == ':' || d == '|')
  | _ => false

/-- The path of the directory above. The letter of a drive at the end of a path stays there, whatever the scheme. -/
def parent (path : List (List Char)) : List (List Char) :=
  if path.getLast?.any isDrive then path else path.dropLast

/-- Whether a character is dropped wherever it stands in a URL. -/
def isDropped (c : Char) : Bool := c == '\t' || c == '\n' || c == '\r'

/-- The URL without one empty part at the end of its path, unless the path has no other part. -/
def popIfEmpty (u : Url) : Url :=
  if 1 < u.path.length ∧ u.path.getLast? = some [] then { u with path := u.path.dropLast } else u

/-- A path with one more part. Tabs and line ends in the part are dropped; if what is left stands for a
directory, the path ends in an empty part after it. -/
def pushPart (path : List (List Char)) (part : List Char) : List (List Char) :=
  let path := if path = [[]] then [] else path
  let part := Percent.encode Percent.inSegment (part.filter fun c => !isDropped c)
  if isDoubleDot part then parent path ++ [[]]
  else if isSingleDot part then path ++ [[]]
  else path ++ [part]

/-- The URL with one more part at the end of its path; parts that plainly stand for directories are left
out. -/
def push (u : Url) (part : List Char) : Url :=
  if part = ['.'] ∨ part = ['.', '.'] then u else { u with path := pushPart u.path part }

/-- The URL with more parts at the end of its path. -/
def extend (u : Url) (parts : List (List Char)) : Url := parts.foldl push u

/-! ## Queries -/

/-- A text as it stands in a form. -/
def formEncode (s : String) : List Char :=
  (Percent.encode Percent.inForm s.toList).map fun c => if c = ' ' then '+' else c

/-- A pair as it stands in a form. -/
def pairChars (pair : String × String) : List Char :=
  formEncode pair.1 ++ '=' :: formEncode pair.2

/-- Pairs as a form. -/
def formChars : List (String × String) → List Char
  | [] => []
  | [pair] => pairChars pair
  | pair :: rest => pairChars pair ++ '&' :: formChars rest

/-- The URL with more pairs at the end of its query. -/
def appendPairs (u : Url) (pairs : List (String × String)) : Url :=
  let before := u.query.getD []
  let query := if before.isEmpty ∨ pairs.isEmpty then before ++ formChars pairs
    else before ++ '&' :: formChars pairs
  { u with query := some query }

end Url

end GatewayAuth
