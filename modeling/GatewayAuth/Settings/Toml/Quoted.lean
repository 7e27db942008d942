/-!
# `GatewayAuth.Settings.Toml.Quoted` — quoted texts of TOML documents

Double quotes enclose text with escapes, single quotes text that stands for itself; three quotes enclose text
that may run over several lines. All functions work on the characters after the opening quotes, in a document
whose lines end in a bare newline, and give the text and the characters after the closing quotes.
-/

namespace GatewayAuth.Settings.Toml

/-- Whether a character may stand in a text of one line, or in a comment. -/
def isVisible (c : Char) : Bool := c == '\t' || (' ' ≤ c && c ≠ '\x7f')

/-- Whether a character may stand in a text of several lines. -/
def isLineOrVisible (c : Char) : Bool := c == '\n' || isVisible c

/-- The value of a hexadecimal digit. -/
def hexValue? (c : Char) : Option Nat :=
  if c.isDigit then some (c.toNat - '0'.toNat)
  else if 'a' ≤ c ∧ c ≤ 'f' then some (c.toNat - 'a'.toNat + 10)
  else if 'A' ≤ c ∧ c ≤ 'F' then some (c.toNat - 'A'.toNat + 10)
  else none

/-- The character with a code point, if there is one. -/
def charOf? (n : Nat) : Option Char :=
  if h : n.isValidChar then some (Char.ofNatAux n h) else none

/-- Where the reading of a text with escapes stands. -/
inductive Mode where
  | plain
  /-- After a backslash. -/
  | escape
  /-- Within a code point, with so many digits to come. -/
  | code (left value : Nat)
  /-- Among the blanks after a backslash; the line has ended once `turned`. -/
  | fold (turned : Bool)
  deriving DecidableEq, Repr

/-- The character that a letter after a backslash stands for. -/
def escaped? : Char → Option Char
  | '"' => some '"'
  | '\\' => some '\\'
  | 'b' => some '\x08'
  | 'f' => some '\x0c'
  | 'n' => some '\n'
  | 'r' => some '\r'
  | 't' => some '\t'
  | _ => none

/-- The result of reading a text with one more character in front. -/
def push (c : Char) : Option (List Char × List Char) → Option (List Char × List Char) :=
  Option.map fun r => (c :: r.1, r.2)

/-- Read on within double quotes; `lines` says whether there are three of them. Of more than three quotes in
a row, up to two belong to the text. -/
def scanEscaped (lines : Bool) : Mode → List Char → Option (List Char × List Char)
  | _, [] => none
  | mode, c :: rest =>
    let blank := c == ' ' || c == '\t'
    match if mode = .fold true ∧ !blank ∧ c ≠ '\n' then .plain else mode with
    | .plain =>
      if c = '\\' then scanEscaped lines .escape rest
      else if c = '"' then
        if lines then
          match rest with
          | '"' :: '"' :: '"' :: '"' :: rest => some (['"', '"'], rest)
          | '"' :: '"' :: '"' :: rest => some (['"'], rest)
          | '"' :: '"' :: rest => some ([], rest)
          | _ => push c (scanEscaped lines .plain rest)
        else some ([], rest)
      else if isVisible c ∨ (lines ∧ c = '\n') then push c (scanEscaped lines .plain rest)
      else none
    | .escape =>
      if c = 'u' then scanEscaped lines (.code 4 0) rest
      else if c = 'U' then scanEscaped lines (.code 8 0) rest
      else if lines ∧ blank then scanEscaped lines (.fold false) rest
      else if lines ∧ c = '\n' then scanEscaped lines (.fold true) rest
      else
        match escaped? c with
        | some e => push e (scanEscaped lines .plain rest)
        | none => none
    | .code left value =>
      match hexValue? c with
      | none => none
      | some d =>
        if left ≤ 1 then
          match charOf? (value * 16 + d) with
          | some e => push e (scanEscaped lines .plain rest)
          | none => none
        else scanEscaped lines (.code (left - 1) (value * 16 + d)) rest
    | .fold turned =>
      if blank then scanEscaped lines (.fold turned) rest
      else if c = '\n' then scanEscaped lines (.fold true) rest
      else none

/-- Read on within three single quotes. -/
def scanLiteralLines : List Char → Option (List Char × List Char)
  | '\'' :: '\'' :: '\'' :: '\'' :: '\'' :: rest => some (['\'', '\''], rest)
  | '\'' :: '\'' :: '\'' :: '\'' :: rest => some (['\''], rest)
  | '\'' :: '\'' :: '\'' :: rest => some ([], rest)
  | c :: rest => if isLineOrVisible c then push c (scanLiteralLines rest) else none
  | [] => none

/-- Read on within single quotes. -/
def scanLiteral : List Char → Option (List Char × List Char)
  | '\'' :: rest => some ([], rest)
  | c :: rest => if isVisible c then push c (scanLiteral rest) else none
  | [] => none

/-- The characters without a newline in front. -/
def dropNewline : List Char → List Char
  | '\n' :: rest => rest
  | rest => rest

/-- Read a quoted text of any kind, opening quotes included; `none` also if there is no quote. -/
def scanQuoted : List Char → Option (List Char × List Char)
  | '"' :: '"' :: '"' :: rest => scanEscaped true .plain (dropNewline rest)
  | '\'' :: '\'' :: '\'' :: rest => scanLiteralLines (dropNewline rest)
  | '"' :: rest => scanEscaped false .plain rest
  | '\'' :: rest => scanLiteral rest
  | _ => none

end GatewayAuth.Settings.Toml
