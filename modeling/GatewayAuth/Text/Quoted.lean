import GatewayAuth.Text.Unprintable

/-!
# `GatewayAuth.Text.Quoted` — texts in double quotes, for diagnostics

## Contents
- `quote`: a text between double quotes. Quotes, backslashes and the usual controls are escaped with a
  backslash, other characters without a glyph by their code point in hexadecimal.
-/

namespace GatewayAuth.Text

/-- The lower-case hexadecimal digits of a number. -/
def hexDigits (n : Nat) : List Char := Nat.toDigits 16 n

/-- How a character stands between the quotes. -/
def quotedChar (c : Char) : List Char :=
  match c with
  | '\x00' => ['\\', '0']
  | '\t' => ['\\', 't']
  | '\r' => ['\\', 'r']
  | '\n' => ['\\', 'n']
  | '"' => ['\\', '"']
  | '\\' => ['\\', '\\']
  | _ =>
    if isUnprintable c then '\\' :: 'u' :: '\x7b' :: hexDigits c.toNat ++ ['\x7d'] else [c]

/-- A text between double quotes. -/
def quote (s : String) : String := String.ofList ('"' :: s.toList.flatMap quotedChar ++ ['"'])

end GatewayAuth.Text
