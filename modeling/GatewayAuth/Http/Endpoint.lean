import GatewayAuth.Text.Quoted
import GatewayAuth.Url.Parse

/-!
# `GatewayAuth.Http.Endpoint` — addresses of remote parties

An endpoint is a URL of the web with a host. `Endpoint.parse` gives it, or the reason why a text is none.
-/

namespace GatewayAuth.Http

/-- Why a text is no endpoint. -/
inductive EndpointFault where
  | invalid (text : String) (fault : Url.Fault)
  | unsupportedScheme (scheme : String)
  | noHost (text : String)
  deriving DecidableEq, Repr

/-- The wording of a fault. -/
def EndpointFault.message : EndpointFault → String
  | invalid text fault => "invalid URL " ++ Text.quote text ++ ": " ++ fault.message
  | unsupportedScheme scheme => "unsupported scheme " ++ Text.quote scheme
  | noHost text => "URL " ++ Text.quote text ++ " has no host"

/-- Read an endpoint. -/
def parseEndpoint (text : String) : Except EndpointFault Url :=
  match Url.parse text with
  | .error fault => .error (.invalid text fault)
  | .ok (.other scheme) => .error (.unsupportedScheme scheme)
  | .ok (.web url) => if url.host.isEmpty then .error (.noHost text) else .ok url

end GatewayAuth.Http
