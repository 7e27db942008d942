import GatewayAuth.Error
import GatewayAuth.Http.Endpoint
import GatewayAuth.Http.Message
import GatewayAuth.Http.Reason
import GatewayAuth.Telemetry
import GatewayAuth.Wire

/-!
# `GatewayAuth.Http.Backend` — calls on a backend as HTTP requests

Limits are checked by a query, usage is reported by a form. The status of the response decides: success
authorizes, three statuses reject, and any other status is a failure.

## Contents
- `BackendClient`: a client of one destination.
- `queryPairs`, `reportPairs`: a request and a batch as names with values.
- `query?`, `report`: the requests.
- `answerOf`, `acceptanceOf`: what their outcomes mean.
-/

namespace GatewayAuth.Http

/-- A client of one backend. -/
structure BackendClient where
  base : Url
  deriving DecidableEq, Repr

namespace BackendClient

/-- A client of the backend at a destination. -/
def ofDestination (destination : String) : Except AuthorizerError BackendClient :=
  match parseEndpoint destination with
  | .ok base => .ok ⟨base⟩
  | .error fault => .error (.clientBuild "backend" fault.message)

/-- The client as diagnostics show it. -/
def describe (c : BackendClient) : String :=
  "HttpBackendClient \x7b base: " ++ Text.quote c.base.render ++ ", .. \x7d"

end BackendClient

/-! ## Pairs -/

/-- Usage by metric, in the order of the names. -/
def sortedUsage (usage : Usage) : List (String × Int64) :=
  Sorted.sort (fun a b => decide (a.1 ≤ b.1)) usage.toList

/-- The text of an amount of usage. -/
def deltaText (delta : Int64) : String := Decimal.ofInt delta.toInt

/-- A request as the pairs of a query; only its first transaction counts. -/
def queryPairs (request : Wire.Request) (transaction : Transaction) : List (String × String) :=
  (request.credential.kind, request.credential.value) :: ("service_id", request.service) ::
    transaction.params.pairs ++
    (sortedUsage transaction.usage).map fun u => ("usage[" ++ u.1 ++ "]", deltaText u.2)

/-- A batch as the pairs of a form. -/
def reportPairs (batch : Wire.Batch) : List (String × String) :=
  (batch.credential.kind, batch.credential.value) :: ("service_id", batch.service) ::
    (batch.params.pairs.map fun p => ("transactions[0][" ++ p.1 ++ "]", p.2)) ++
    (sortedUsage batch.usage).map fun u =>
      ("transactions[0][usage][" ++ u.1 ++ "]", deltaText u.2)

/-! ## Requests -/

/-- The calls that check limits. -/
inductive QueryKind where
  /-- Without recording usage. -/
  | authorize
  /-- With recording usage. -/
  | authrep
  deriving DecidableEq, Repr

/-- The label of a call in metrics. -/
def QueryKind.endpoint : QueryKind → String
  | authorize => "authorize"
  | authrep => "authrep"

/-- The parts of the path of a call. -/
def QueryKind.path : QueryKind → List (List Char)
  | authorize => ["transactions".toList, "authorize.xml".toList]
  | authrep => ["transactions".toList, "authrep.xml".toList]

/-- The parts of the path of reports. -/
def reportPath : List (List Char) := ["transactions.xml".toList]

/-- The label of reports in metrics. -/
def reportEndpoint : String := "report"

namespace BackendClient

/-- The request that checks limits; one without transactions cannot be expressed. -/
def query? (c : BackendClient) (kind : QueryKind) (request : Wire.Request) :
    Except BackendError Request :=
  match request.transactions with
  | [] => .error (.invalidRequest "request carries no transactions")
  | transaction :: _ =>
    .ok {
      method := .get
      url := (c.base.popIfEmpty.extend kind.path).appendPairs (queryPairs request transaction)
      headers := (Wire.extensionsHeader request.extensions).toList.map fun text =>
        (Wire.extensionsHeaderName, text)
      form := [] }

/-- The request that reports a batch. -/
def report (c : BackendClient) (batch : Wire.Batch) : Request :=
  { method := .post
    url := c.base.popIfEmpty.extend reportPath
    headers := []
    form := reportPairs batch }

end BackendClient

/-! ## Outcomes -/

/-- What is observed of an outcome. -/
def observe (target : Target) (endpoint : String) : Outcome → List Observation
  | .failed _ => []
  | .answered response => [.response target endpoint response.status]

/-- The statuses of rejections. -/
def isRejection (status : Nat) : Bool := status == 403 || status == 404 || status == 409

/-- What the outcome of a check means. -/
def answerOf : Outcome → Except BackendError Wire.Response
  | .failed text => .error (.transport text)
  | .answered response =>
    let content := response.content?
    if isSuccess response.status then .ok ⟨true, none, none, content⟩
    else if isRejection response.status then
      .ok ⟨false, response.header? Wire.rejectionReasonHeaderName, content.bind reasonOf, content⟩
    else .error (.unexpectedStatus response.status content)

/-- What the outcome of a report means. -/
def acceptanceOf : Outcome → Except BackendError Unit
  | .failed text => .error (.transport text)
  | .answered response =>
    if isSuccess response.status then .ok ()
    else .error (.unexpectedStatus response.status response.content?)

end GatewayAuth.Http
