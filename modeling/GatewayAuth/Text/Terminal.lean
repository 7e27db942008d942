import GatewayAuth.Text.Utf8

/-!
# `GatewayAuth.Text.Terminal` — what a terminal shows of a text

Control sequences, strings of control, and control characters other than white space leave no mark; all other
characters are shown. A control sequence is dropped also where it is cut short.

## Contents
- `TerminalMode`: what a terminal is in the middle of.
- `shown`: the characters that are shown.
-/

namespace GatewayAuth.Text

/-- What a terminal is in the middle of. -/
inductive TerminalMode where
  /-- Showing characters. -/
  | showing
  /-- After an escape character. -/
  | escape
  /-- After an escape character and marks. -/
  | marks
  /-- In a control sequence, which a letter ends. -/
  | sequence
  /-- In a command to the operating system, which a bell ends. -/
  | command
  /-- In another string of control, which the octet 156 ends. -/
  | string
  deriving DecidableEq, Repr

namespace TerminalMode

/-- Whether white space that moves the cursor is obeyed. -/
def obeysSpace : TerminalMode → Bool
  | showing | escape | marks | sequence => true
  | command | string => false

/-- How an escape character goes on. -/
def afterEscape (c : Char) : TerminalMode :=
  if c = '[' then .sequence
  else if c = ']' then .command
  else if c = 'P' ∨ c = 'X' ∨ c = '^' ∨ c = '_' then .string
  else if ' ' ≤ c ∧ c ≤ '/' then .marks
  else if '0' ≤ c ∧ c ≤ '~' then .showing
  else .escape

/-- The mode after a character that is not shown. -/
def next (m : TerminalMode) (c : Char) : TerminalMode :=
  if c = '\x1b' then .escape
  else if c = '\x18' ∨ c = '\x1a' then .showing
  else
    match m with
    | showing => .showing
    | escape => afterEscape c
    | marks => if '0' ≤ c ∧ c ≤ '~' then .showing else .marks
    | sequence => if '@' ≤ c ∧ c ≤ '~' then .showing else .sequence
    | command => if c = '\x07' then .showing else .command
    | string => if 156 ∈ octetsOf c then .showing else .string

end TerminalMode

/-- Whether a character is white space that moves the cursor. -/
def isCursorSpace (c : Char) : Bool := c == '\t' || c == '\n' || c == '\x0c' || c == '\x0d'

/-- Whether a terminal that shows characters shows this one. -/
def isShown (c : Char) : Bool := (' ' ≤ c && c ≠ '\x7f') || isCursorSpace c

/-- The characters that are shown, from a mode on. -/
def shownFrom : TerminalMode → List Char → List Char
  | _, [] => []
  | m, c :: rest =>
    if (m = .showing && isShown c) || (m.obeysSpace && isCursorSpace c) then
      c :: shownFrom .showing rest
    else shownFrom (m.next c) rest

/-- What a terminal shows of a text. -/
def shown (s : String) : String := String.ofList (shownFrom .showing s.toList)

end GatewayAuth.Text
