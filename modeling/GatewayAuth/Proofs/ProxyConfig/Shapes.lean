import GatewayAuth.ProxyConfig.Document
import GatewayAuth.Proofs.Json.Records

/-!
# `GatewayAuth.Proofs.ProxyConfig.Shapes` — the records of a configuration

Every record of a configuration is read and written slot by slot. The shapes here say so once for each of them, and that
their slots do not disturb each other; what holds of all shapes then holds of every record.

## Contents
- `BackendAddress.shape` to `ProxyConfig.shape`: the records of a configuration; `ProxyConfig.envelope`: the document.
-/

namespace GatewayAuth

open GatewayAuth.Json

/-- A slot that holds a text. -/
def textSlot {σ : Type} (name : String) (get : σ → String) (set : σ → String → σ) : Slot σ :=
  ⟨name, String, readText, .string, get, set⟩

/-- A slot that holds a 64-bit integer. -/
def int64Slot {σ : Type} (name : String) (get : σ → Int64) (set : σ → Int64 → σ) : Slot σ :=
  ⟨name, Int64, readInt64, int64Value, get, set⟩

/-- A slot that holds a list of texts. -/
def textsSlot {σ : Type} (name : String) (get : σ → List String) (set : σ → List String → σ) : Slot σ :=
  ⟨name, List String, readList readText, textsValue, get, set⟩

/-- A slot that holds an instant or nothing. -/
def timestampSlot {σ : Type} (name : String) (get : σ → Option Timestamp) (set : σ → Option Timestamp → σ) : Slot σ :=
  ⟨name, Option Timestamp, readOptional Timestamp.read, timestampValue, get, set⟩

/-- A backend's address. -/
def BackendAddress.shape : Shape BackendAddress where
  slots := [
    textSlot "endpoint" (·.endpoint) fun b endpoint => { b with endpoint },
    textSlot "host" (·.host) fun b host => { b with host }]
  unset := default
  names := by decide
  get_set := by simp [textSlot]
  get_set_other := by simp [textSlot]
  ext := by
    rintro ⟨⟩ ⟨⟩ h
    simpa [textSlot] using h

/-- A link of the chain of policies. -/
def PolicyLink.shape : Shape PolicyLink where
  slots := [
    textSlot "name" (·.name) fun p name => { p with name },
    textSlot "version" (·.version) fun p version => { p with version },
    ⟨"configuration", Value, readValue, id, (·.configuration), fun p configuration => { p with configuration }⟩]
  unset := default
  names := by decide
  get_set := by simp [textSlot]
  get_set_other := by simp [textSlot]
  ext := by
    rintro ⟨⟩ ⟨⟩ h
    simpa [textSlot] using h

/-- A mapping rule. -/
def MappingRule.shape : Shape MappingRule where
  slots := [
    int64Slot "id" (·.id) fun r id => { r with id },
    textSlot "http_method" (·.httpMethod) fun r httpMethod => { r with httpMethod },
    textSlot "pattern" (·.pattern) fun r pattern => { r with pattern },
    int64Slot "metric_id" (·.metricId) fun r metricId => { r with metricId },
    textSlot "metric_system_name" (·.metricName) fun r metricName => { r with metricName },
    int64Slot "delta" (·.delta) fun r delta => { r with delta },
    textsSlot "parameters" (·.parameters) fun r parameters => { r with parameters }]
  unset := default
  names := by decide
  get_set := by simp [textSlot, int64Slot, textsSlot]
  get_set_other := by simp [textSlot, int64Slot, textsSlot]
  ext := by
    rintro ⟨⟩ ⟨⟩ h
    simpa [textSlot, int64Slot, textsSlot] using h

/-- The treatment of requests. -/
def ProxySettings.shape : Shape ProxySettings where
  slots := [
    int64Slot "id" (·.id) fun p id => { p with id },
    int64Slot "service_id" (·.serviceId) fun p serviceId => { p with serviceId },
    textSlot "endpoint" (·.endpoint) fun p endpoint => { p with endpoint },
    textSlot "sandbox_endpoint" (·.sandboxEndpoint) fun p sandboxEndpoint => { p with sandboxEndpoint },
    textSlot "api_backend" (·.apiBackend) fun p apiBackend => { p with apiBackend },
    textSlot "auth_app_id" (·.authAppId) fun p authAppId => { p with authAppId },
    textSlot "auth_app_key" (·.authAppKey) fun p authAppKey => { p with authAppKey },
    textSlot "auth_user_key" (·.authUserKey) fun p authUserKey => { p with authUserKey },
    textSlot "credentials_location" (·.credentialsLocation) fun p credentialsLocation => { p with credentialsLocation },
    textSlot "authentication_method" (·.authenticationMethod) fun p authenticationMethod =>
      { p with authenticationMethod },
    textSlot "error_auth_failed" (·.errorAuthFailed) fun p errorAuthFailed => { p with errorAuthFailed },
    int64Slot "error_status_auth_failed" (·.errorStatusAuthFailed) fun p errorStatusAuthFailed =>
      { p with errorStatusAuthFailed },
    textSlot "error_auth_missing" (·.errorAuthMissing) fun p errorAuthMissing => { p with errorAuthMissing },
    int64Slot "error_status_auth_missing" (·.errorStatusAuthMissing) fun p errorStatusAuthMissing =>
      { p with errorStatusAuthMissing },
    textSlot "error_no_match" (·.errorNoMatch) fun p errorNoMatch => { p with errorNoMatch },
    int64Slot "error_status_no_match" (·.errorStatusNoMatch) fun p errorStatusNoMatch =>
      { p with errorStatusNoMatch },
    ⟨"hostname_rewrite", Option String, readOptional readText, .optional, (·.hostOverride), fun p hostOverride =>
      { p with hostOverride }⟩,
    int64Slot "lock_version" (·.lockVersion) fun p lockVersion => { p with lockVersion },
    textsSlot "hosts" (·.hosts) fun p hosts => { p with hosts },
    ⟨"backend", BackendAddress, BackendAddress.shape.read, BackendAddress.shape.write, (·.backend), fun p backend =>
      { p with backend }⟩,
    ⟨"policy_chain", List PolicyLink, readList PolicyLink.shape.read, fun l => .array (l.map PolicyLink.shape.write),
      (·.policyChain), fun p policyChain => { p with policyChain }⟩,
    ⟨"proxy_rules", List MappingRule, readList MappingRule.shape.read, fun l => .array (l.map MappingRule.shape.write),
      (·.proxyRules), fun p proxyRules => { p with proxyRules }⟩]
  unset := default
  names := by decide
  get_set := by simp [textSlot, int64Slot, textsSlot]
  get_set_other := by simp [textSlot, int64Slot, textsSlot]
  ext := by
    rintro ⟨⟩ ⟨⟩ h
    simpa [textSlot, int64Slot, textsSlot] using h

/-- What is configured for a service. -/
def ServiceContent.shape : Shape ServiceContent where
  slots := [
    int64Slot "id" (·.id) fun c id => { c with id },
    int64Slot "account_id" (·.accountId) fun c accountId => { c with accountId },
    textSlot "name" (·.name) fun c name => { c with name },
    textSlot "system_name" (·.systemName) fun c systemName => { c with systemName },
    textSlot "state" (·.state) fun c state => { c with state },
    textSlot "backend_version" (·.backendVersion) fun c backendVersion => { c with backendVersion },
    textSlot "backend_authentication_type" (·.authenticationType) fun c authenticationType =>
      { c with authenticationType },
    textSlot "backend_authentication_value" (·.authenticationValue) fun c authenticationValue =>
      { c with authenticationValue },
    timestampSlot "created_at" (·.createdAt) fun c createdAt => { c with createdAt },
    timestampSlot "updated_at" (·.updatedAt) fun c updatedAt => { c with updatedAt },
    ⟨"proxy", ProxySettings, ProxySettings.shape.read, ProxySettings.shape.write, (·.proxy), fun c proxy =>
      { c with proxy }⟩]
  unset := default
  names := by decide
  get_set := by simp [textSlot, int64Slot, timestampSlot]
  get_set_other := by simp [textSlot, int64Slot, timestampSlot]
  ext := by
    rintro ⟨⟩ ⟨⟩ h
    simpa [textSlot, int64Slot, timestampSlot] using h

namespace ProxyConfig

/-- A configuration. -/
def shape : Shape ProxyConfig where
  slots := [
    int64Slot "id" (·.id) fun c id => { c with id },
    int64Slot "version" (·.version) fun c version => { c with version },
    textSlot "environment" (·.environment) fun c environment => { c with environment },
    ⟨"content", ServiceContent, ServiceContent.shape.read, ServiceContent.shape.write, (·.content), fun c content =>
      { c with content }⟩]
  unset := default
  names := by decide
  get_set := by simp [textSlot, int64Slot]
  get_set_other := by simp [textSlot, int64Slot]
  ext := by
    rintro ⟨⟩ ⟨⟩ h
    simpa [textSlot, int64Slot] using h

/-- The document of a configuration. Its only slot has no default, so it is empty where there is no configuration. -/
def envelope : Shape (Option ProxyConfig) where
  slots := [⟨"proxy_config", Option ProxyConfig, fun depth v => (shape.read depth v).map some,
    fun c => (c.map shape.write).getD .null, fun c => c, fun _ c => c⟩]
  unset := none
  names := by decide
  get_set := by simp
  get_set_other := by simp
  ext := by simp

theorem read_eq_shape : ProxyConfig.read = shape.read := rfl

theorem toValue_eq_shape : ProxyConfig.toValue = shape.write := rfl

/-- The envelope is read with its only slot. -/
theorem read_envelope : readRecord envelopeFields none = envelope.read := by
  have hmember : (Member.of "proxy_config" ProxyConfig.read fun _ config => some config) =
      (envelope.slots.map Slot.member).head (by decide) := by
    refine congrArg (Member.mk "proxy_config") (funext fun depth => funext fun v => funext fun s => ?_)
    show (ProxyConfig.read depth v).map some = ((shape.read depth v).map some).map fun c => c
    rw [read_eq_shape]
    cases shape.read depth v with
    | ok c => rfl
    | error e => rfl
  rw [Shape.read, envelopeFields, hmember]
  rfl

/-- A configuration is read from an envelope that has one. -/
theorem readEnvelope_eq_ok_iff {depth : Nat} {v : Raw} {c : ProxyConfig} :
    readEnvelope depth v = .ok c ↔ envelope.read depth v = .ok (some c) := by
  rw [← read_envelope]
  constructor
  · intro h
    obtain ⟨config?, hread, hconfig⟩ := exists_of_bind h
    cases config? with
    | none => cases hconfig
    | some config =>
        cases hconfig
        exact hread
  · intro h
    show (readRecord envelopeFields none depth v >>= fun config? => _) = _
    rw [h]
    rfl

end ProxyConfig

end GatewayAuth
