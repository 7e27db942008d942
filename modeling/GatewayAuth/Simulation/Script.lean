import GatewayAuth.Simulation.Schedule

/-!
# `GatewayAuth.Simulation.Script` — a remote side that answers by script

## Contents
- `SystemScript`, `BackendScript`: how long control plane and backend take, and what they answer.
- `ScriptedSide`: the scripts in force, and what has been asked so far.
- `scripted`: the scripted side as the outside of a machine.
-/

namespace GatewayAuth.Simulation

/-- How the control plane behaves. -/
structure SystemScript where
  delay : Nat
  /-- Why every fetch fails, if it does. -/
  error : Option SystemError
  /-- Why its client cannot be built, if so. -/
  buildError : Option AuthorizerError
  deriving Repr

/-- How a backend behaves. -/
structure BackendScript where
  delay : Nat
  answer : Except BackendError Wire.Response
  reportDelay : Nat
  /-- Why every report fails, if it does. -/
  reportError : Option BackendError
  /-- The services whose reports fail in any case. -/
  loseServices : List String
  /-- Why the direct client cannot be built, if so. -/
  directError : Option AuthorizerError
  /-- Why the buffered client cannot be built, if so. -/
  bufferedError : Option AuthorizerError

/-- A control plane that answers at once. -/
def SystemScript.prompt : SystemScript := ⟨0, none, none⟩

/-- A backend that authorizes and accepts everything at once. -/
def BackendScript.prompt : BackendScript :=
  ⟨0, .ok ⟨true, none, none, none⟩, 0, none, [], none, none⟩

/-- What a backend was asked. -/
structure WireEntry where
  call : RemoteCall
  /-- Whether it is a report that failed. -/
  failed : Bool
  deriving DecidableEq

/-- How many clients of each kind were asked for. -/
structure BuildCounts where
  system : Nat
  direct : Nat
  buffered : Nat
  deriving DecidableEq, Repr

/-- The scripts in force, and what has happened. -/
structure ScriptedSide where
  system : SystemScript
  backend : BackendScript
  /-- How many of the next fetches fail, per service. -/
  failNext : Table String Nat
  /-- How many fetches have succeeded, per location and service. -/
  versions : Table (String × String) Nat
  builds : BuildCounts
  /-- The fetches begun, in order: location, token, service, environment. -/
  fetches : List (List String)
  /-- What backends were asked, in order. -/
  wire : List WireEntry

namespace ScriptedSide

/-- A side on which everything works at once. -/
def new : ScriptedSide :=
  ⟨.prompt, .prompt, .empty, .empty, ⟨0, 0, 0⟩, [], []⟩

/-- Build a client. -/
def build (s : ScriptedSide) : Client → Except AuthorizerError Unit × ScriptedSide
  | .system _ _ =>
    (orElseOk s.system.buildError,
      { s with builds := { s.builds with system := s.builds.system + 1 } })
  | .direct _ =>
    (orElseOk s.backend.directError,
      { s with builds := { s.builds with direct := s.builds.direct + 1 } })
  | .buffered _ =>
    (orElseOk s.backend.bufferedError,
      { s with builds := { s.builds with buffered := s.builds.buffered + 1 } })
where
  /-- Success where there is no error. -/
  orElseOk : Option AuthorizerError → Except AuthorizerError Unit
    | some e => .error e
    | none => .ok ()

/-- A call on its way carries the scripts that were in force when it began. -/
abbrev Ticket := SystemScript × BackendScript

/-- Begin a call. Reports are noted when they end, everything else when it begins. -/
def start (s : ScriptedSide) (call : RemoteCall) : Nat × Ticket × ScriptedSide :=
  let ticket := (s.system, s.backend)
  match call with
  | .fetch location token service environment =>
    (s.system.delay, ticket,
      { s with fetches := s.fetches ++ [[location, token, service, environment]] })
  | .report _ _ => (s.backend.reportDelay, ticket, s)
  | _ => (s.backend.delay, ticket, { s with wire := s.wire ++ [⟨call, false⟩] })

/-- The configuration that a fetch brings. -/
def fetchedConfig (location token environment : String) (version : Nat) : ProxyConfig :=
  let content : ServiceContent := { (default : ServiceContent) with name := token, systemName := location }
  ⟨0, Int64.ofNat version, environment, content⟩

/-- End a fetch. -/
def finishFetch (s : ScriptedSide) (script : SystemScript)
    (location token service environment : String) : Input × ScriptedSide :=
  let failing := (s.failNext.find? service).getD 0
  if 0 < failing then
    (.fetched (.error (script.error.getD (.transport ""))),
      { s with failNext := s.failNext.insert service (failing - 1) })
  else
    match script.error with
    | some e => (.fetched (.error e), s)
    | none =>
      let version := (s.versions.find? (location, service)).getD 0 + 1
      (.fetched (.ok (fetchedConfig location token environment version)),
        { s with versions := s.versions.insert (location, service) version })

/-- End a call. -/
def finish (s : ScriptedSide) (call : RemoteCall) (ticket : Ticket) : Input × ScriptedSide :=
  match call with
  | .fetch location token service environment =>
    s.finishFetch ticket.1 location token service environment
  | .report _ batch =>
    let script := ticket.2
    let failed := script.reportError.isSome || script.loseServices.contains batch.service
    let result : Except BackendError Unit :=
      if failed then .error (script.reportError.getD (.transport "")) else .ok ()
    (.reported result, { s with wire := s.wire ++ [⟨call, failed⟩] })
  | _ => (.answered ticket.2.answer, s)

/-- Forget what has been asked. -/
def clearLogs (s : ScriptedSide) : ScriptedSide := { s with fetches := [], wire := [] }

end ScriptedSide

/-- The scripted side as the outside of a machine. -/
def scripted : Outside ScriptedSide ScriptedSide.Ticket :=
  ⟨ScriptedSide.build, ScriptedSide.start, ScriptedSide.finish⟩

end GatewayAuth.Simulation
