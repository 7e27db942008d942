import GatewayAuth.Json.Value
import GatewayAuth.Timestamp

/-!
# `GatewayAuth.ProxyConfig.Basic` — the configuration of a service at the gateway

One promoted version of what the control plane says about a service: where its backend is, which policies
run, and which requests count as how much usage. Every field has a default, so a document may leave out any.
-/

namespace GatewayAuth

/-- Where the usage of a service is authorized and reported. -/
structure BackendAddress where
  endpoint : String
  host : String
  deriving Repr

instance : Inhabited BackendAddress := ⟨⟨"", ""⟩⟩

/-- One link of the chain of policies. Its configuration is free-form. -/
structure PolicyLink where
  name : String
  version : String
  configuration : Json.Value
  deriving Repr

instance : Inhabited PolicyLink := ⟨⟨"", "", .null⟩⟩

/-- A mapping rule: a request with this method and pattern counts `delta` of a metric. -/
structure MappingRule where
  id : Int64
  httpMethod : String
  pattern : String
  metricId : Int64
  metricName : String
  delta : Int64
  parameters : List String
  deriving Repr

instance : Inhabited MappingRule := ⟨⟨0, "", "", 0, "", 0, []⟩⟩

/-- How the gateway treats the requests of a service. -/
structure ProxySettings where
  id : Int64
  serviceId : Int64
  endpoint : String
  sandboxEndpoint : String
  apiBackend : String
  authAppId : String
  authAppKey : String
  authUserKey : String
  credentialsLocation : String
  authenticationMethod : String
  errorAuthFailed : String
  errorStatusAuthFailed : Int64
  errorAuthMissing : String
  errorStatusAuthMissing : Int64
  errorNoMatch : String
  errorStatusNoMatch : Int64
  hostOverride : Option String
  lockVersion : Int64
  hosts : List String
  backend : BackendAddress
  policyChain : List PolicyLink
  proxyRules : List MappingRule
  deriving Repr

instance : Inhabited ProxySettings :=
  ⟨{ id := 0, serviceId := 0, endpoint := "", sandboxEndpoint := "", apiBackend := "",
     authAppId := "", authAppKey := "", authUserKey := "", credentialsLocation := "",
     authenticationMethod := "", errorAuthFailed := "", errorStatusAuthFailed := 0,
     errorAuthMissing := "", errorStatusAuthMissing := 0, errorNoMatch := "",
     errorStatusNoMatch := 0, hostOverride := none, lockVersion := 0, hosts := [],
     backend := default, policyChain := [], proxyRules := [] }⟩

/-- What is configured for a service. -/
structure ServiceContent where
  id : Int64
  accountId : Int64
  name : String
  systemName : String
  state : String
  backendVersion : String
  authenticationType : String
  authenticationValue : String
  createdAt : Option Timestamp
  updatedAt : Option Timestamp
  proxy : ProxySettings
  deriving Repr

instance : Inhabited ServiceContent :=
  ⟨{ id := 0, accountId := 0, name := "", systemName := "", state := "", backendVersion := "",
     authenticationType := "", authenticationValue := "", createdAt := none, updatedAt := none,
     proxy := default }⟩

/-- One promoted version of the configuration of a service. -/
structure ProxyConfig where
  id : Int64
  version : Int64
  environment : String
  content : ServiceContent
  deriving Repr

instance : Inhabited ProxyConfig := ⟨⟨0, 0, "", default⟩⟩

/-- The backend that usage is reported to, if the configuration names one. -/
def ProxyConfig.backendEndpoint? (c : ProxyConfig) : Option String :=
  let endpoint := c.content.proxy.backend.endpoint
  if endpoint = "" then none else some endpoint

end GatewayAuth
