import GatewayAuth.Settings.Toml.Outline
import GatewayAuth.Settings.Toml.Scalar

/-!
# `GatewayAuth.Settings.Toml.Document` — TOML documents as trees

## Contents
- `scanKey`: keys, bare, quoted or dotted.
- `scanValue`: values, lists and inline tables among them, nested at most `nestingLimit` levels deep.
- `readLine`: a header, a definition, a comment or nothing.
- `ofText`: a whole document; `none` if it does not follow the grammar or defines something twice.
-/

namespace GatewayAuth.Settings.Toml

/-- How many brackets and braces may be open at once, and how many parts a dotted key may have. -/
def nestingLimit : Nat := 79

/-! ## Gaps -/

/-- The characters without blanks in front. -/
def skipSpace (cs : List Char) : List Char := cs.dropWhile fun c => c == ' ' || c == '\t'

/-- The characters without blanks, line ends and comments in front. A comment that holds a control
character stops there. -/
def skipGaps (inComment : Bool) : List Char → List Char
  | [] => []
  | c :: rest =>
    if c = '\n' then skipGaps false rest
    else if inComment then if isVisible c then skipGaps true rest else c :: rest
    else if c = ' ' ∨ c = '\t' then skipGaps false rest
    else if c = '#' then skipGaps true rest
    else c :: rest

/-- The characters after the end of a line on which nothing but a comment is left. -/
def endLine (cs : List Char) : Option (List Char) :=
  let cs := match skipSpace cs with
    | '#' :: rest => rest.dropWhile isVisible
    | rest => rest
  match cs with
  | [] => some []
  | '\n' :: rest => some rest
  | _ => none

/-! ## Keys -/

/-- Whether a character may stand in a bare key. -/
def isKeyChar (c : Char) : Bool := c.isAlphanum || c == '_' || c == '-'

/-- Read one part of a key. -/
def scanPart (cs : List Char) : Option (String × List Char) :=
  match cs with
  | '"' :: rest => (scanEscaped false .plain rest).map fun r => (String.ofList r.1, r.2)
  | '\'' :: rest => (scanLiteral rest).map fun r => (String.ofList r.1, r.2)
  | _ =>
    match cs.takeWhile isKeyChar with
    | [] => none
    | part => some (String.ofList part, cs.dropWhile isKeyChar)

/-- Read a dotted key of at most so many parts: those before the last one, and the last one. -/
def scanKey : Nat → List Char → Option (List String × String × List Char)
  | 0, _ => none
  | limit + 1, cs => do
    let (part, rest) ← scanPart (skipSpace cs)
    match skipSpace rest with
    | '.' :: rest => do
      let (path, key, rest) ← scanKey limit rest
      return (part :: path, key, rest)
    | rest => return ([], part, rest)

/-! ## Values -/

mutual
/-- Read a value, at most `fuel` calls deep, with so many levels of nesting left. -/
def scanValue : Nat → Nat → List Char → Option (Tree × List Char)
  | 0, _, _ => none
  | fuel + 1, depth, cs =>
    match cs with
    | '[' :: rest =>
      if depth = 0 then none
      else (scanItems fuel (depth - 1) rest).map fun r => (.list r.1, r.2)
    | '\x7b' :: rest =>
      if depth = 0 then none
      else
        match skipSpace rest with
        | '\x7d' :: rest => some (.table [], rest)
        | rest => (scanPairs fuel (depth - 1) [] rest).map fun r => (.table (entriesTree r.1), r.2)
    | _ =>
      if cs.head? = some '"' ∨ cs.head? = some '\'' then
        (scanQuoted cs).map fun r => (.text (String.ofList r.1), r.2)
      else scanBare cs
/-- Read the items of a list up to the closing bracket; a comma may follow the last one. -/
def scanItems : Nat → Nat → List Char → Option (List Tree × List Char)
  | 0, _, _ => none
  | fuel + 1, depth, cs =>
    match skipGaps false cs with
    | ']' :: rest => some ([], rest)
    | cs => do
      let (t, rest) ← scanValue fuel depth cs
      match skipGaps false rest with
      | ',' :: rest => do
        let (ts, rest) ← scanItems fuel depth rest
        return (t :: ts, rest)
      | ']' :: rest => return ([t], rest)
      | _ => none
/-- Read the definitions of an inline table up to the closing brace, and add them to `entries`. -/
def scanPairs : Nat → Nat → Entries → List Char → Option (Entries × List Char)
  | 0, _, _, _ => none
  | fuel + 1, depth, entries, cs => do
    let (path, key, rest) ← scanKey nestingLimit cs
    match rest with
    | '=' :: rest => do
      let (t, rest) ← scanValue fuel depth (skipSpace rest)
      let entries ← addPath path key t entries
      match skipSpace rest with
      | ',' :: rest => scanPairs fuel depth entries rest
      | '\x7d' :: rest => return (entries, rest)
      | _ => none
    | _ => none
end

/-! ## Lines -/

/-- What has been read of a document. -/
structure Draft where
  /-- The keys of the last header. -/
  header : List String
  root : Entries

/-- Read one line, which a value may continue over several; gives the characters after it. -/
def readLine (draft : Draft) (cs : List Char) : Option (Draft × List Char) :=
  match skipSpace cs with
  | '[' :: '[' :: rest => do
    let (path, key, rest) ← scanKey nestingLimit rest
    match rest with
    | ']' :: ']' :: rest =>
      return (⟨path ++ [key], ← openElement path key draft.root⟩, ← endLine rest)
    | _ => none
  | '[' :: rest => do
    let (path, key, rest) ← scanKey nestingLimit rest
    match rest with
    | ']' :: rest => return (⟨path ++ [key], ← openTable path key draft.root⟩, ← endLine rest)
    | _ => none
  | cs =>
    match endLine cs with
    | some rest => some (draft, rest)
    | none => do
      let (path, key, rest) ← scanKey nestingLimit cs
      match rest with
      | '=' :: rest => do
        let rest := skipSpace rest
        let (t, rest) ← scanValue (2 * rest.length + 2) nestingLimit rest
        return ({ draft with root := ← define draft.header path key t draft.root }, ← endLine rest)
      | _ => none

/-- Read lines to the end of the document, at most so many of them. -/
def readLines : Nat → Draft → List Char → Option Entries
  | _, draft, [] => some draft.root
  | 0, _, _ :: _ => none
  | limit + 1, draft, cs => do
    let (draft, rest) ← readLine draft cs
    readLines limit draft rest

/-- The characters of a text with bare newlines in place of carriage returns with newlines. -/
def joinLineEnds : List Char → List Char
  | '\r' :: '\n' :: rest => '\n' :: joinLineEnds rest
  | c :: rest => c :: joinLineEnds rest
  | [] => []

/-- The tree of a document. A byte order mark may stand in front; every line takes at least one character. -/
def ofText (text : String) : Option Tree :=
  let cs := match joinLineEnds text.toList with
    | '\ufeff' :: rest => rest
    | cs => cs
  (readLines cs.length ⟨[], []⟩ cs).map fun entries => .table (entriesTree entries)

end GatewayAuth.Settings.Toml
