import GatewayAuth.Decimal
import GatewayAuth.Sorted
import GatewayAuth.Table

/-!
# `GatewayAuth.Wire` — what travels between a gateway and its backend

## Contents
- `Credential`, `Params`, `Usage`, `Transaction`: who calls, on whose behalf, and how much is used.
- `Request`, `Response`, `Batch`: the two calls on a backend and the answer to an authorization.
- `Request.extensionsHeader`: the optional behaviours asked of the backend, as one header value.
-/

namespace GatewayAuth

/-- A service-level credential. The kind doubles as the name of the query parameter. -/
structure Credential where
  kind : String
  value : String
  deriving DecidableEq, Repr, Inhabited

namespace Credential

/-- The kind of a credential that belongs to one service. -/
def serviceToken : String := "service_token"

/-- The kind of a credential that belongs to a whole account. -/
def providerKey : String := "provider_key"

end Credential

/-- The application that calls the managed service. An empty text means that the field is absent. -/
structure Params where
  appId : String
  appKey : String
  userId : String
  userKey : String
  deriving DecidableEq, Repr

instance : Inhabited Params := ⟨⟨"", "", "", ""⟩⟩

/-- The fields that are present, in documented order. -/
def Params.pairs (p : Params) : List (String × String) :=
  [("app_id", p.appId), ("app_key", p.appKey), ("user_id", p.userId), ("user_key", p.userKey)].filter
    fun e => e.2 ≠ ""

/-- How much of each metric is used. -/
abbrev Usage := Table String Int64

/-- The usage of one application. -/
structure Transaction where
  usage : Usage
  params : Params
  deriving DecidableEq, Repr, Inhabited

namespace Wire

/-- A request to authorize some usage, and perhaps to record it. -/
structure Request where
  credential : Credential
  service : String
  transactions : List Transaction
  extensions : Table String String
  deriving DecidableEq, Repr, Inhabited

/-- The backend's answer to an authorization. -/
structure Response where
  authorized : Bool
  errorCode : Option String
  rejectionReason : Option String
  raw : Option String
  deriving DecidableEq, Repr

instance : Inhabited Response := ⟨⟨false, none, none, none⟩⟩

/-- Usage of one application, summed up between two reports. -/
structure Batch where
  credential : Credential
  service : String
  params : Params
  usage : Usage
  deriving DecidableEq, Repr, Inhabited

/-- The name of the header that carries extensions. -/
def extensionsHeaderName : String := "3scale-options"

/-- The name of the header that carries the code of a rejection. -/
def rejectionReasonHeaderName : String := "3scale-rejection-reason"

/-- The extension that asks for the code of a rejection. -/
def rejectionReasonExtension : String := "rejection_reason_header"

/-- Extensions as `name=value` flags in the order of these texts, joined by ampersands. -/
def extensionsHeader (extensions : Table String String) : Option String :=
  if extensions.isEmpty then none
  else
    let flags := extensions.toList.map fun e => e.1 ++ "=" ++ e.2
    some ("&".intercalate (Sorted.sortTexts flags))

end Wire

/-- How many batches a flush got accepted, and how many it put back. -/
structure FlushSummary where
  reported : Nat
  requeued : Nat
  deriving DecidableEq, Repr

/-- The summary of a flush that has done nothing yet. -/
def FlushSummary.zero : FlushSummary := ⟨0, 0⟩

end GatewayAuth
