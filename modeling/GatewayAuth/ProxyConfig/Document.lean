import GatewayAuth.Json.Record
import GatewayAuth.ProxyConfig.Basic

/-!
# `GatewayAuth.ProxyConfig.Document` — configurations as JSON documents

## Contents
- `ProxyConfig.read`: from a tree; every field may be missing, unknown members are skipped.
- `ProxyConfig.ofEnvelope`: from the document that the control plane sends, which holds the configuration as
  its member `proxy_config`.
- `ProxyConfig.toValue`: the document of a configuration, with all fields in order.
-/

namespace GatewayAuth

open GatewayAuth.Json

/-! ## Reading -/

/-- Read an instant. -/
def Timestamp.read : Reader Timestamp := fun _ v =>
  match v with
  | .string l =>
    match l.text with
    | .ok s =>
      match Timestamp.parse? s.toList with
      | some t => .ok t
      | none => .error .data
    | .error f => .error (.text f)
  | v => .error (mismatch v)

/-- The fields of a backend's address. -/
def BackendAddress.fields : List (Member BackendAddress) := [
  .of "endpoint" readText fun b endpoint => { b with endpoint },
  .of "host" readText fun b host => { b with host }]

/-- The fields of a link of the chain of policies. -/
def PolicyLink.fields : List (Member PolicyLink) := [
  .of "name" readText fun p name => { p with name },
  .of "version" readText fun p version => { p with version },
  .of "configuration" readValue fun p configuration => { p with configuration }]

/-- The fields of a mapping rule. -/
def MappingRule.fields : List (Member MappingRule) := [
  .of "id" readInt64 fun r id => { r with id },
  .of "http_method" readText fun r httpMethod => { r with httpMethod },
  .of "pattern" readText fun r pattern => { r with pattern },
  .of "metric_id" readInt64 fun r metricId => { r with metricId },
  .of "metric_system_name" readText fun r metricName => { r with metricName },
  .of "delta" readInt64 fun r delta => { r with delta },
  .of "parameters" (readList readText) fun r parameters => { r with parameters }]

/-- The fields of the treatment of requests. -/
def ProxySettings.fields : List (Member ProxySettings) := [
  .of "id" readInt64 fun p id => { p with id },
  .of "service_id" readInt64 fun p serviceId => { p with serviceId },
  .of "endpoint" readText fun p endpoint => { p with endpoint },
  .of "sandbox_endpoint" readText fun p sandboxEndpoint => { p with sandboxEndpoint },
  .of "api_backend" readText fun p apiBackend => { p with apiBackend },
  .of "auth_app_id" readText fun p authAppId => { p with authAppId },
  .of "auth_app_key" readText fun p authAppKey => { p with authAppKey },
  .of "auth_user_key" readText fun p authUserKey => { p with authUserKey },
  .of "credentials_location" readText fun p credentialsLocation => { p with credentialsLocation },
  .of "authentication_method" readText fun p authenticationMethod =>
    { p with authenticationMethod },
  .of "error_auth_failed" readText fun p errorAuthFailed => { p with errorAuthFailed },
  .of "error_status_auth_failed" readInt64 fun p errorStatusAuthFailed =>
    { p with errorStatusAuthFailed },
  .of "error_auth_missing" readText fun p errorAuthMissing => { p with errorAuthMissing },
  .of "error_status_auth_missing" readInt64 fun p errorStatusAuthMissing =>
    { p with errorStatusAuthMissing },
  .of "error_no_match" readText fun p errorNoMatch => { p with errorNoMatch },
  .of "error_status_no_match" readInt64 fun p errorStatusNoMatch => { p with errorStatusNoMatch },
  .of "hostname_rewrite" (readOptional readText) fun p hostOverride =>
    { p with hostOverride },
  .of "lock_version" readInt64 fun p lockVersion => { p with lockVersion },
  .of "hosts" (readList readText) fun p hosts => { p with hosts },
  .of "backend" (readRecord BackendAddress.fields default) fun p backend => { p with backend },
  .of "policy_chain" (readList (readRecord PolicyLink.fields default)) fun p policyChain =>
    { p with policyChain },
  .of "proxy_rules" (readList (readRecord MappingRule.fields default)) fun p proxyRules =>
    { p with proxyRules }]

/-- The fields of what is configured for a service. -/
def ServiceContent.fields : List (Member ServiceContent) := [
  .of "id" readInt64 fun c id => { c with id },
  .of "account_id" readInt64 fun c accountId => { c with accountId },
  .of "name" readText fun c name => { c with name },
  .of "system_name" readText fun c systemName => { c with systemName },
  .of "state" readText fun c state => { c with state },
  .of "backend_version" readText fun c backendVersion => { c with backendVersion },
  .of "backend_authentication_type" readText fun c authenticationType =>
    { c with authenticationType },
  .of "backend_authentication_value" readText fun c authenticationValue =>
    { c with authenticationValue },
  .of "created_at" (readOptional Timestamp.read) fun c createdAt => { c with createdAt },
  .of "updated_at" (readOptional Timestamp.read) fun c updatedAt => { c with updatedAt },
  .of "proxy" (readRecord ProxySettings.fields default) fun c proxy => { c with proxy }]

namespace ProxyConfig

/-- The fields of a configuration. -/
def fields : List (Member ProxyConfig) := [
  .of "id" readInt64 fun c id => { c with id },
  .of "version" readInt64 fun c version => { c with version },
  .of "environment" readText fun c environment => { c with environment },
  .of "content" (readRecord ServiceContent.fields default) fun c content => { c with content }]

/-- Read a configuration. -/
def read : Reader ProxyConfig := readRecord fields default

/-- The only field of the envelope. -/
def envelopeFields : List (Member (Option ProxyConfig)) :=
  [.of "proxy_config" read fun _ config => some config]

/-- Read an envelope. The configuration in it must not be missing. -/
def readEnvelope : Reader ProxyConfig := fun depth v => do
  match ← readRecord envelopeFields none depth v with
  | some config => return config
  | none => throw .data

/-- Read the document that the control plane sends. -/
def ofEnvelope (text : String) : Except ReadError ProxyConfig := readDocument readEnvelope text

end ProxyConfig

/-! ## Writing -/

/-- A 64-bit integer as a value. -/
def int64Value (n : Int64) : Value := .int n.toInt

/-- An instant as a value, or null. -/
def timestampValue (t : Option Timestamp) : Value := .optional (t.map Timestamp.render)

/-- A list of texts as a value. -/
def textsValue (l : List String) : Value := .array (l.map .string)

/-- The document of a backend's address. -/
def BackendAddress.toValue (b : BackendAddress) : Value :=
  .object [("endpoint", .string b.endpoint), ("host", .string b.host)]

/-- The document of a link of the chain of policies. -/
def PolicyLink.toValue (p : PolicyLink) : Value :=
  .object [("name", .string p.name), ("version", .string p.version),
    ("configuration", p.configuration)]

/-- The document of a mapping rule. -/
def MappingRule.toValue (r : MappingRule) : Value :=
  .object [("id", int64Value r.id), ("http_method", .string r.httpMethod),
    ("pattern", .string r.pattern), ("metric_id", int64Value r.metricId),
    ("metric_system_name", .string r.metricName), ("delta", int64Value r.delta),
    ("parameters", textsValue r.parameters)]

/-- The document of the treatment of requests. -/
def ProxySettings.toValue (p : ProxySettings) : Value :=
  .object [("id", int64Value p.id), ("service_id", int64Value p.serviceId),
    ("endpoint", .string p.endpoint), ("sandbox_endpoint", .string p.sandboxEndpoint),
    ("api_backend", .string p.apiBackend), ("auth_app_id", .string p.authAppId),
    ("auth_app_key", .string p.authAppKey), ("auth_user_key", .string p.authUserKey),
    ("credentials_location", .string p.credentialsLocation),
    ("authentication_method", .string p.authenticationMethod),
    ("error_auth_failed", .string p.errorAuthFailed),
    ("error_status_auth_failed", int64Value p.errorStatusAuthFailed),
    ("error_auth_missing", .string p.errorAuthMissing),
    ("error_status_auth_missing", int64Value p.errorStatusAuthMissing),
    ("error_no_match", .string p.errorNoMatch),
    ("error_status_no_match", int64Value p.errorStatusNoMatch),
    ("hostname_rewrite", .optional p.hostOverride), ("lock_version", int64Value p.lockVersion),
    ("hosts", textsValue p.hosts), ("backend", p.backend.toValue),
    ("policy_chain", .array (p.policyChain.map PolicyLink.toValue)),
    ("proxy_rules", .array (p.proxyRules.map MappingRule.toValue))]

/-- The document of what is configured for a service. -/
def ServiceContent.toValue (c : ServiceContent) : Value :=
  .object [("id", int64Value c.id), ("account_id", int64Value c.accountId),
    ("name", .string c.name), ("system_name", .string c.systemName), ("state", .string c.state),
    ("backend_version", .string c.backendVersion),
    ("backend_authentication_type", .string c.authenticationType),
    ("backend_authentication_value", .string c.authenticationValue),
    ("created_at", timestampValue c.createdAt), ("updated_at", timestampValue c.updatedAt),
    ("proxy", c.proxy.toValue)]

/-- The document of a configuration. -/
def ProxyConfig.toValue (c : ProxyConfig) : Value :=
  .object [("id", int64Value c.id), ("version", int64Value c.version),
    ("environment", .string c.environment), ("content", c.content.toValue)]

end GatewayAuth
