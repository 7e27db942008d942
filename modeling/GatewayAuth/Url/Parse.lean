import GatewayAuth.Url.Basic
import GatewayAuth.Url.Domain

/-!
# `GatewayAuth.Url.Parse` — reading URLs

Reading is lenient: white space around the text is ignored, tabs and line ends are dropped everywhere, slashes
may be missing or written backwards, and dots in paths are resolved. What is read comes out in one form.

## Contents
- `splitScheme`: the scheme and what follows it.
- `readHost`, `readAuthority`: user, password, host and port.
- `readPath`, `splitSuffix`: path, query and fragment.
- `parse`: a URL of the web, or the scheme of another one that follows the rules of its kind.
-/

namespace GatewayAuth.Url

/-! ## Schemes -/

/-- The kinds of schemes. -/
inductive SchemeKind where
  /-- Schemes of hosts that are reached by a network protocol. -/
  | network
  | file
  | other
  deriving DecidableEq, Repr

/-- The kind of a scheme. -/
def kindOf (scheme : String) : SchemeKind :=
  if scheme ∈ ["http", "https", "ws", "wss", "ftp"] then .network
  else if scheme = "file" then .file
  else .other

/-- The port that a scheme implies. -/
def defaultPort (scheme : String) : Option Nat :=
  if scheme = "http" ∨ scheme = "ws" then some 80
  else if scheme = "https" ∨ scheme = "wss" then some 443
  else if scheme = "ftp" then some 21
  else none

/-- Whether a character may stand in a scheme after its first letter. -/
def isSchemeChar (c : Char) : Bool := c.isAlphanum || c == '+' || c == '-' || c == '.'

/-- The scheme of a text in lower case, and what follows its colon. -/
def splitScheme (cs : List Char) : Option (String × List Char) :=
  match cs.head?, cs.dropWhile isSchemeChar with
  | some c, ':' :: rest =>
    if c.isAlpha then some (String.ofList ((cs.takeWhile isSchemeChar).map Char.toLower), rest) else none
  | _, _ => none

/-! ## Hosts -/

/-- Read a host in brackets. -/
def readBracketed (cs : List Char) : Except Fault (List Char) :=
  if cs.getLast? = some ']' then do
    let pieces ← readAddress6 cs.tail.dropLast
    return '[' :: address6Chars pieces ++ [']']
  else .error .invalidAddress6

/-- Read the host of a scheme whose hosts are names or addresses. -/
def readHost (cs : List Char) : Except Fault (List Char) :=
  if cs.head? = some '[' then readBracketed cs
  else
    match (Percent.decode? cs).bind registeredName with
    | none => .error .invalidDomain
    | some [] => .error .emptyHost
    | some name => if endsInNumber name then (readAddress4 name).map address4Chars else .ok name

/-- Whether a character cannot stand in a host of another scheme. -/
def isForbiddenAnywhere (c : Char) : Bool :=
  ['\x00', '\t', '\n', '\r', ' ', '#', '/', ':', '<', '>', '?', '@', '[', '\\', ']', '^', '|'].contains c

/-- Read the host of another scheme. -/
def readOpaqueHost (cs : List Char) : Except Fault (List Char) :=
  if cs.head? = some '[' then readBracketed cs
  else if cs.any isForbiddenAnywhere then .error .invalidDomainCharacter
  else .ok (Percent.encode Percent.always cs)

/-! ## Authorities -/

/-- The host and what follows it: the first colon outside brackets ends the host. -/
def splitHost (inBrackets : Bool) : List Char → List Char × List Char
  | [] => ([], [])
  | c :: rest =>
    if c = ':' ∧ !inBrackets then ([], c :: rest)
    else
      let (host, rest) := splitHost (if c = '[' then true else if c = ']' then false else inBrackets) rest
      (c :: host, rest)

/-- Read a port after its colon. -/
def readPort (scheme : String) (cs : List Char) : Except Fault (Option Nat) :=
  let ds := cs.takeWhile (· ≠ '\\')
  let n := Decimal.value ds
  if !ds.all Char.isDigit ∨ 65535 < n then .error .invalidPort
  else if ds.isEmpty ∨ defaultPort scheme = some n then .ok none
  else .ok (some n)

/-- The parts of an authority. -/
structure Authority where
  user : List Char
  password : List Char
  host : List Char
  port : Option Nat

/-- Split at the last `@`: what is in front of it, if there is one, and what follows. -/
def splitUser (cs : List Char) : Option (List Char) × List Char :=
  let after := (cs.reverse.takeWhile (· ≠ '@')).reverse
  if after.length = cs.length then (none, cs) else (some (cs.take (cs.length - after.length - 1)), after)

/-- Read an authority; `followed` says whether a path, a query or a fragment comes after it. -/
def readAuthority (kind : SchemeKind) (scheme : String) (followed : Bool) (cs : List Char) :
    Except Fault Authority := do
  let (info, cs) := splitUser cs
  if info = some [] ∧ cs.isEmpty ∧ followed then throw .emptyHost
  let info := info.getD []
  let user := Percent.encode Percent.inUserInfo (info.takeWhile (· ≠ ':'))
  let password := Percent.encode Percent.inUserInfo (info.dropWhile (· ≠ ':')).tail
  let (host, rest) := splitHost false cs
  if kind = .network ∧ host.isEmpty then throw .emptyHost
  let host ← if kind = .other then readOpaqueHost host else readHost host
  if host.isEmpty ∧ !rest.isEmpty then throw .emptyHost
  let port ← readPort scheme rest.tail
  if host.isEmpty ∧ !(user.isEmpty ∧ password.isEmpty) then throw .emptyHost
  return ⟨user, password, host, port⟩

/-! ## Paths, queries and fragments -/

/-- Resolve the parts of a path after those in `path`; a part that stands for a directory leaves an empty part
behind it if it is the last one. -/
def resolveParts : List (List Char) → List (List Char) → List (List Char)
  | path, [] => path
  | path, part :: parts =>
    let part := Percent.encode Percent.inPath part
    let ending : List (List Char) := if parts.isEmpty then [[]] else []
    if isDoubleDot part then resolveParts (parent path ++ ending) parts
    else if isSingleDot part then resolveParts (path ++ ending) parts
    else resolveParts (path ++ [part]) parts

/-- Whether a character separates the parts of a path. -/
def isSlash (c : Char) : Bool := c == '/' || c == '\\'

/-- Read the path of a URL of the web. -/
def readPath (cs : List Char) : List (List Char) :=
  let cs := match cs with
    | c :: rest => if isSlash c then rest else cs
    | [] => []
  resolveParts [] (splitWhere isSlash cs)

/-- The path, the query and the fragment in what follows an authority. -/
def splitSuffix (cs : List Char) : List Char × Option (List Char) × Option (List Char) :=
  let beforeFragment := cs.takeWhile (· ≠ '#')
  let fragment := match cs.dropWhile (· ≠ '#') with
    | [] => none
    | _ :: rest => some rest
  let query := match beforeFragment.dropWhile (· ≠ '?') with
    | [] => none
    | _ :: rest => some rest
  (beforeFragment.takeWhile (· ≠ '?'), query, fragment)

/-! ## Whole texts -/

/-- What a text is the URL of. -/
inductive Address where
  | web (url : Url)
  /-- Something with another scheme. -/
  | other (scheme : String)
  deriving Repr

/-- Whether a character ends an authority. -/
def endsAuthority (kind : SchemeKind) (c : Char) : Bool :=
  c == '/' || c == '?' || c == '#' || (kind != .other && c == '\\')

/-- Read what follows the slashes in front of an authority. -/
def readLocated (kind : SchemeKind) (scheme : String) (cs : List Char) : Except Fault Address := do
  let rest := cs.dropWhile fun c => !endsAuthority kind c
  let authority ← readAuthority kind scheme (!rest.isEmpty) (cs.takeWhile fun c => !endsAuthority kind c)
  if scheme = "http" ∨ scheme = "https" then
    let (path, query, fragment) := splitSuffix rest
    return .web {
      scheme
      user := authority.user
      password := authority.password
      host := authority.host
      port := authority.port
      path := readPath path
      query := query.map (Percent.encode Percent.inQuery)
      fragment := fragment.map (Percent.encode Percent.inFragment) }
  else return .other scheme

/-- Check the host of a file, if it has one. -/
def checkFileHost (cs : List Char) : Except Fault Unit :=
  match cs with
  | c :: d :: rest =>
    let host := rest.takeWhile fun c => !endsAuthority .file c
    if isSlash c ∧ isSlash d ∧ !host.isEmpty ∧ !isDrive host then (readHost host).map fun _ => ()
    else .ok ()
  | _ => .ok ()

/-- Read a URL. -/
def parse (text : String) : Except Fault Address :=
  let isAround := fun (c : Char) => c ≤ ' '
  let cs := ((text.toList.dropWhile isAround).reverse.dropWhile isAround).reverse
  match splitScheme (cs.filter fun c => !isDropped c) with
  | none => .error .relative
  | some (scheme, rest) =>
    match kindOf scheme with
    | .network => readLocated .network scheme (rest.dropWhile isSlash)
    | .file => (checkFileHost rest).map fun _ => .other scheme
    | .other =>
      match rest with
      | '/' :: '/' :: rest => readLocated .other scheme rest
      | _ => .ok (.other scheme)

end GatewayAuth.Url
