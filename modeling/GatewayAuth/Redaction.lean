import GatewayAuth.Text.Blank
import GatewayAuth.Text.Word

/-!
# `GatewayAuth.Redaction` — keeping credentials out of log lines

## Contents
- `Rule`: a recogniser for a stretch of text at one place, together with what replaces it; `replaceAll` applies
  a rule from left to right to everything that it recognises.
- `queryRule`, `bracketRule`, `bearerRule`: credentials in queries, in the bracketed names of usage reports,
  and in authorization headers.
- `redact`: the three rules one after another. Names stay visible, values do not.
- `mask`: a secret as it may stand in a structured field.
-/

namespace GatewayAuth.Redaction

open GatewayAuth.Text

/-! ## Rules -/

/-- A recognised stretch: the text that takes its place, and its length less one. -/
structure Hit where
  text : List Char
  more : Nat
  deriving DecidableEq, Repr

/-- What a rule recognises at a place, given the character before it and the text from there on. -/
abbrev Rule := Option Char → List Char → Option Hit

/-- Replace every recognised stretch, from left to right and without overlap. The first argument counts the
characters of the present stretch that are still to be passed over, the second is the character before. -/
def replaceFrom (rule : Rule) : Nat → Option Char → List Char → List Char
  | _, _, [] => []
  | skip + 1, _, c :: rest => replaceFrom rule skip (some c) rest
  | 0, before, c :: rest =>
    match rule before (c :: rest) with
    | some hit => hit.text ++ replaceFrom rule hit.more (some c) rest
    | none => c :: replaceFrom rule 0 (some c) rest

/-- Replace every stretch that a rule recognises. -/
def replaceAll (rule : Rule) (cs : List Char) : List Char := replaceFrom rule 0 none cs

/-! ## The three rules -/

/-- The text that stands in place of a value. -/
def placeholder : List Char := "[REDACTED]".toList

/-- The characters of a credential's value: all up to an ampersand or white space. -/
def isValueChar (c : Char) : Bool := c != '&' && !isBlank c

/-- The names of credentials in a query. -/
def queryNames : List String :=
  ["access_token", "user_key", "app_key", "service_token", "provider_key"]

/-- The names of credentials in brackets. -/
def bracketNames : List String := ["[user_key]", "[app_key]", "[access_token]"]

/-- The first of the given names that stands at the front, followed by an equals sign and a value. -/
def namedValue (names : List String) (cs : List Char) : Option Hit :=
  names.findSome? fun name =>
    let lead := name.toList ++ ['=']
    if lead.isPrefixOf cs then
      let value := (cs.drop lead.length).takeWhile isValueChar
      if value.isEmpty then none
      else some ⟨lead ++ placeholder, lead.length + value.length - 1⟩
    else none

/-- A credential in a query: its name starts a word. -/
def queryRule : Rule := fun before cs =>
  if before.any isWord then none else namedValue queryNames cs

/-- A credential in a usage report: its name stands in brackets. -/
def bracketRule : Rule := fun _ cs => namedValue bracketNames cs

/-- The characters of a bearer token. -/
def isTokenChar (c : Char) : Bool := c.isAlphanum || c == '-' || c == '_' || c == '.'

/-- The word in front of a bearer token. -/
def bearer : List Char := "Bearer".toList

/-- A bearer token after its scheme and at least one blank. -/
def bearerRule : Rule := fun _ cs =>
  if bearer.isPrefixOf cs then
    let rest := cs.drop bearer.length
    let blanks := rest.takeWhile isBlank
    let token := (rest.dropWhile isBlank).takeWhile isTokenChar
    if blanks.isEmpty || token.isEmpty then none
    else some ⟨bearer ++ ' ' :: placeholder, bearer.length + blanks.length + token.length - 1⟩
  else none

/-! ## Results -/

/-- Redaction of a text given by its characters. -/
def redactChars (cs : List Char) : List Char :=
  replaceAll bearerRule (replaceAll bracketRule (replaceAll queryRule cs))

/-- A message with the values of credentials replaced. -/
def redact (message : String) : String := String.ofList (redactChars message.toList)

/-- A secret reduced to its first four characters, or to nothing when it has no more than four. -/
def mask (secret : String) : String :=
  let cs := secret.toList
  if cs.length ≤ 4 then "****" else String.ofList (cs.take 4) ++ "****"

end GatewayAuth.Redaction
