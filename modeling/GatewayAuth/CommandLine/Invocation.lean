import GatewayAuth.CommandLine.Metric
import GatewayAuth.Manager.Request
import GatewayAuth.Settings.Layers

/-!
# `GatewayAuth.CommandLine.Invocation` — what a command line asks for

## Contents
- `FetchOrder`, `AuthOrder`: what the commands ask for.
- `AuthOrder.toRequest`: the request that an order stands for.
- `Invocation`: a command with what is said about settings.
-/

namespace GatewayAuth.CommandLine

/-- The order to fetch the configuration of a service. -/
structure FetchOrder where
  location : String
  service : String
  environment : String
  accessToken : String
  deriving DecidableEq, Repr

/-- The request that an order stands for. -/
def FetchOrder.toRequest (o : FetchOrder) : ConfigRequest := ⟨o.accessToken, o.service, o.environment⟩

/-- The order to authorize a request and to report its usage. -/
structure AuthOrder where
  destination : String
  service : String
  serviceToken : Option String
  providerKey : Option String
  params : Params
  metrics : List (String × Int64)
  deriving DecidableEq, Repr

namespace AuthOrder

/-- The credential of an order: its service token, or else its provider key. -/
def credential (o : AuthOrder) : Credential :=
  match o.serviceToken, o.providerKey with
  | some token, _ => ⟨Credential.serviceToken, token⟩
  | none, some key => ⟨Credential.providerKey, key⟩
  | none, none => ⟨"", ""⟩

/-- The request that an order stands for: one transaction with the usage summed by metric. -/
def toRequest (o : AuthOrder) : AuthRequest :=
  ⟨o.credential, o.service, [⟨total o.metrics, o.params⟩]⟩

end AuthOrder

/-- What is to be done. -/
inductive Command where
  | fetchConfig (order : FetchOrder)
  | authRep (order : AuthOrder)
  deriving DecidableEq, Repr

/-- A command with what is said about settings. -/
structure Invocation where
  options : Settings.Options
  command : Command
  deriving DecidableEq, Repr

end GatewayAuth.CommandLine
