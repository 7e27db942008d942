import GatewayAuth.Error
import GatewayAuth.Http.Endpoint
import GatewayAuth.Http.Message
import GatewayAuth.ProxyConfig.Document

/-!
# `GatewayAuth.Http.System` — fetching configurations over HTTP

The latest configuration of a service is a document below the location of the control plane; the path names
the service and the environment, the query carries the access token.

## Contents
- `SystemClient`: a client of one location with one access token.
- `latest`: the request for a configuration.
- `configOf`: what its outcome means.
-/

namespace GatewayAuth.Http

/-- A client of one control plane. -/
structure SystemClient where
  base : Url
  token : String
  deriving DecidableEq, Repr

/-- The label of fetches in metrics. -/
def latestEndpoint : String := "proxy_config_latest"

namespace SystemClient

/-- A client of the control plane at a location. -/
def ofLocation (location token : String) : Except AuthorizerError SystemClient :=
  match parseEndpoint location with
  | .ok base => .ok ⟨base, token⟩
  | .error fault => .error (.clientBuild "system" fault.message)

/-- The client as diagnostics show it, without its access token. -/
def describe (c : SystemClient) : String :=
  "HttpSystemClient \x7b base: " ++ Text.quote c.base.render ++ ", .. \x7d"

/-- The parts of the path of the latest configuration, below the location. -/
def latestPath (service environment : String) : List (List Char) :=
  ["admin".toList, "api".toList, "services".toList, service.toList, "proxy".toList,
    "configs".toList, environment.toList, "latest.json".toList]

/-- The URL of the latest configuration. -/
def latestUrl (c : SystemClient) (service environment : String) : Url :=
  (c.base.popIfEmpty.extend (latestPath service environment)).appendPairs [("access_token", c.token)]

/-- The request for the latest configuration. -/
def latest (c : SystemClient) (service environment : String) : Request :=
  { method := .get
    url := c.latestUrl service environment
    headers := [("accept", "application/json")]
    form := [] }

end SystemClient

/-- What the outcome of a fetch means. -/
def configOf : Outcome → Except SystemError ProxyConfig
  | .failed text => .error (.transport text)
  | .answered response =>
    if isSuccess response.status then
      match response.body.map ProxyConfig.ofEnvelope with
      | some (.ok config) => .ok config
      | _ => .error (.decode "error decoding response body")
    else .error (.unexpectedStatus response.status (response.body.getD ""))

end GatewayAuth.Http
