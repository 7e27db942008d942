import GatewayAuth.Url.Basic

/-!
# `GatewayAuth.Http.Message` — requests and responses

## Contents
- `Request`, `Response`: what clients hand to a connection, and what they get back.
- `Request.isSendable`: what a connection refuses to send.
- `Outcome`, `Connection`: a request is answered, or fails with a text.
- `Exchange`, `Server`: a request with its outcome, and what answers by what has been exchanged before.
-/

namespace GatewayAuth.Http

/-- The methods in use. -/
inductive Method where
  | get
  | post
  deriving DecidableEq, Repr

/-- A request. -/
structure Request where
  method : Method
  url : Url
  /-- Header fields, names in lower case. -/
  headers : List (String × String)
  /-- The form in the body of a post. -/
  form : List (String × String)
  deriving DecidableEq, Repr

/-- A response, as far as clients look at it. -/
structure Response where
  status : Nat
  /-- Header fields, names in lower case; a value that is no text is absent. -/
  headers : List (String × Option String)
  /-- The body as a text, unless reading it failed. -/
  body : Option String
  deriving DecidableEq, Repr

/-- Whether a status reports success. -/
def isSuccess (status : Nat) : Bool := 200 ≤ status && status ≤ 299

/-- The text of the first header field with a name. -/
def Response.header? (r : Response) (name : String) : Option String :=
  (r.headers.find? fun h => h.1 == name).bind (·.2)

/-- The body, unless it is missing or empty. -/
def Response.content? (r : Response) : Option String := r.body.filter fun b => !b.isEmpty

/-- Whether a character may stand in the value of a header field. -/
def isFieldChar (c : Char) : Bool := c == '\t' || (' ' ≤ c && c ≠ '\x7f')

/-- Whether a connection sends a request at all: no header field may hold a control character. -/
def Request.isSendable (r : Request) : Bool := r.headers.all fun h => h.2.toList.all isFieldChar

/-- What becomes of a request. -/
inductive Outcome where
  /-- No response came back. -/
  | failed (text : String)
  | answered (response : Response)
  deriving DecidableEq, Repr

/-- What answers requests. -/
abbrev Connection := Request → Outcome

/-- Send a request, if it can be sent. -/
def send (connection : Connection) (request : Request) : Outcome :=
  if request.isSendable then connection request
  else .failed "builder error: failed to parse header value"

/-- A request that was sent, and what became of it. -/
structure Exchange where
  request : Request
  outcome : Outcome
  deriving DecidableEq, Repr

/-- What answers requests, given all that has been exchanged before. -/
abbrev Server := List Exchange → Connection

end GatewayAuth.Http
