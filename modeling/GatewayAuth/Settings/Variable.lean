import GatewayAuth.Decimal
import GatewayAuth.Settings.Toml.Quoted
import GatewayAuth.Settings.Tree
import GatewayAuth.Sorted
import GatewayAuth.Text.Blank

/-!
# `GatewayAuth.Settings.Variable` — settings in environment variables

The name of a variable gives the path of a setting, its text the value: a truth value, a number, a quoted
text, a list or a table if it can be read as one, and otherwise the text itself.

## Contents
- `pathOf?`: the path that a name gives, if it is the name of a setting; `nameOf` is the usual name of a path.
- `valueOf`: the tree that a text gives.
- `treeOf`: all variables as one layer.
-/

namespace GatewayAuth.Settings.Variable

/-! ## Names -/

/-- The start of the names of settings, in any mixture of cases. -/
def marker : List Char := ['a', 'u', 't', 'h', 'o', 'r', 'i', 'z', 'e', 'r', '_']

/-- The characters with two underscores as a point, from the left. -/
def joinUnderscores : List Char → List Char
  | '_' :: '_' :: rest => '.' :: joinUnderscores rest
  | c :: rest => c :: joinUnderscores rest
  | [] => []

/-- The parts of a list of characters between points. -/
def splitPoints : List Char → List (List Char)
  | [] => [[]]
  | c :: rest =>
    match splitPoints rest with
    | [] => [[c]]
    | part :: parts => if c = '.' then [] :: part :: parts else (c :: part) :: parts

/-- The path of keys that a name gives. A name with an empty part is the name of no setting. -/
def pathOf? (name : String) : Option (List String) :=
  let cs := (Text.trim name.toList).map Char.toLower
  if cs.take marker.length = marker then
    let parts := splitPoints (joinUnderscores (cs.drop marker.length))
    if parts.any List.isEmpty then none else some (parts.map String.ofList)
  else none

/-- The usual name of the variable for a path. -/
def nameOf (path : List String) : String :=
  String.ofList ((marker ++ ("__".intercalate path).toList).map Char.toUpper)

/-! ## Values -/

/-- Whether a character is blank between the parts of a value. -/
def isGap (c : Char) : Bool := c == ' ' || c == '\t' || c == '\n' || c == '\r' || c == '\x0c'

/-- The characters without blanks in front. -/
def skipGap (cs : List Char) : List Char := cs.dropWhile isGap

/-- Whether a character separates values. -/
def isSeparator (c : Char) : Bool := c == ',' || c == '\x7b' || c == '\x7d' || c == '[' || c == ']'

/-- Whether a character may stand in a key without quotes. -/
def isKeyChar (c : Char) : Bool := c.isAlphanum || c == '_' || c == '-'

/-- Whether the characters are an exponent of ten, its mark included, or nothing. -/
def isExponent : List Char → Bool
  | [] => true
  | c :: rest =>
    let ds := (Decimal.splitSign rest).2
    (c == 'e' || c == 'E') && !ds.isEmpty && ds.all Char.isDigit

/-- Whether the characters are a number with a point. -/
def isFraction (cs : List Char) : Bool :=
  let cs := (Decimal.splitSign cs).2
  match cs.dropWhile Char.isDigit with
  | '.' :: rest =>
    !((cs.takeWhile Char.isDigit).isEmpty && (rest.takeWhile Char.isDigit).isEmpty) &&
      isExponent (rest.dropWhile Char.isDigit)
  | _ => false

/-- The greatest whole number that is read as one. -/
def maxWhole : Int := 18446744073709551615

/-- The tree of characters without quotes or separators. -/
def bareTree (cs : List Char) : Tree :=
  if isFraction cs then .fraction
  else
    match Decimal.readInt Decimal.int64Min maxWhole cs with
    | .ok i => .whole i
    | .error _ => .text (String.ofList cs)

/-- Read a key up to the equals sign, the sign included. -/
def scanKey (cs : List Char) : Option (String × List Char) := do
  let (key, rest) ← match skipGap cs with
    | '"' :: rest => Toml.scanEscaped false .plain rest
    | cs =>
      match cs.takeWhile isKeyChar with
      | [] => none
      | key => some (key, cs.dropWhile isKeyChar)
  match skipGap rest with
  | '=' :: rest => some (String.ofList key, rest)
  | _ => none

mutual
/-- Read a value, at most `fuel` calls deep, and give the characters after it. -/
def scanValue : Nat → List Char → Option (Tree × List Char)
  | 0, _ => none
  | fuel + 1, cs =>
    match skipGap cs with
    | 't' :: 'r' :: 'u' :: 'e' :: rest => some (.flag true, skipGap rest)
    | 'f' :: 'a' :: 'l' :: 's' :: 'e' :: rest => some (.flag false, skipGap rest)
    | '\x7b' :: rest => (scanPairs fuel rest).map fun r => (.table r.1, skipGap r.2)
    | '[' :: rest => (scanItems fuel rest).map fun r => (.list r.1, skipGap r.2)
    | '"' :: rest =>
      (Toml.scanEscaped false .plain rest).map fun r => (.text (String.ofList r.1), skipGap r.2)
    | '\'' :: c :: '\'' :: rest => some (.letter c, skipGap rest)
    | '\'' :: _ => none
    | cs =>
      some (bareTree (Text.trim (cs.takeWhile fun c => !isSeparator c)),
        cs.dropWhile fun c => !isSeparator c)
/-- Read the items of a list up to the closing bracket; a comma may follow the last one. -/
def scanItems : Nat → List Char → Option (List Tree × List Char)
  | 0, _ => none
  | fuel + 1, cs =>
    match skipGap cs with
    | ']' :: rest => some ([], rest)
    | cs => do
      let (t, rest) ← scanValue fuel cs
      match rest with
      | ',' :: rest => (scanItems fuel rest).map fun r => (t :: r.1, r.2)
      | ']' :: rest => some ([t], rest)
      | _ => none
/-- Read the entries of a table up to the closing brace; of two entries with one key the later counts. -/
def scanPairs : Nat → List Char → Option (List (String × Tree) × List Char)
  | 0, _ => none
  | fuel + 1, cs =>
    match skipGap cs with
    | '\x7d' :: rest => some ([], rest)
    | cs => do
      let (key, rest) ← scanKey cs
      let (t, rest) ← scanValue fuel rest
      match rest with
      | ',' :: rest =>
        (scanPairs fuel rest).map fun r =>
          (if (Assoc.find? key r.1).isSome then r.1 else (key, t) :: r.1, r.2)
      | '\x7d' :: rest => some ([(key, t)], rest)
      | _ => none
end

/-- The tree of a text. -/
def valueOf (text : String) : Tree :=
  let cs := Text.trim text.toList
  match scanValue (2 * cs.length + 2) cs with
  | some (t, []) => t
  | _ => .text (String.ofList cs)

/-! ## Layers -/

/-- The layer of all variables. Those with later names are laid over those with earlier ones. -/
def treeOf (vars : List (String × String)) : Tree :=
  Tree.stack <| (Sorted.sort (fun a b => decide (a.1 ≤ b.1)) vars).filterMap fun v =>
    (pathOf? v.1).map fun path => Tree.placed path (valueOf v.2)

end GatewayAuth.Settings.Variable
