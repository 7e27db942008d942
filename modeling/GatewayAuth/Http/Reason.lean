import GatewayAuth.Text.Blank

/-!
# `GatewayAuth.Http.Reason` — why a backend rejects a request, in its own words

The body of a rejection may hold the reason as the text of an element `reason` or `error`. The first such
element counts; nothing else of the body is interpreted.

## Contents
- `reasonAt?`: the text of an element that begins at a place.
- `firstReason?`, `reasonOf`: the first element of a body, and its text without white space around it.
-/

namespace GatewayAuth.Http

/-- The characters after a fixed beginning. -/
def dropWord : List Char → List Char → Option (List Char)
  | [], cs => some cs
  | _ :: _, [] => none
  | w :: ws, c :: cs => if w = c then dropWord ws cs else none

/-- The text up to the next tag, if it closes the element with the given name. -/
def closedBy (name : List Char) (cs : List Char) : Option (List Char) :=
  (dropWord ('<' :: '/' :: name ++ ['>']) (cs.dropWhile (· ≠ '<'))).map fun _ => cs.takeWhile (· ≠ '<')

/-- The name of the element that gives a reason. -/
def reasonName : List Char := ['r', 'e', 'a', 's', 'o', 'n']

/-- The name of the element that describes an error. -/
def errorName : List Char := ['e', 'r', 'r', 'o', 'r']

/-- The text of an element `reason` without attributes at the start of the characters. -/
def plainReason? (cs : List Char) : Option (List Char) :=
  (dropWord ('<' :: reasonName ++ ['>']) cs).bind (closedBy reasonName)

/-- The text of an element `error` at the start of the characters; whatever stands between its name and the
end of the tag is passed over. -/
def errorText? (cs : List Char) : Option (List Char) :=
  (dropWord ('<' :: errorName) cs).bind fun rest =>
    match rest.dropWhile (· ≠ '>') with
    | _ :: rest => closedBy errorName rest
    | [] => none

/-- The text of an element at the start of the characters. -/
def reasonAt? (cs : List Char) : Option (List Char) := (plainReason? cs).or (errorText? cs)

/-- The text of the first element. -/
def firstReason? : List Char → Option (List Char)
  | [] => none
  | c :: rest => (reasonAt? (c :: rest)).or (firstReason? rest)

/-- The reason in a body, unless there is none or it is blank. -/
def reasonOf (body : String) : Option String :=
  match (firstReason? body.toList).map Text.trim with
  | none => none
  | some [] => none
  | some reason => some (String.ofList reason)

end GatewayAuth.Http
