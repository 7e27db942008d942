import GatewayAuth.CommandLine.Help
import GatewayAuth.CommandLine.Parse
import GatewayAuth.Simulation.Network

/-!
# `GatewayAuth.CommandLine.Run` — the program

A run loads the settings, opens the port for metrics if there is one, makes one call on a manager, shuts the
manager down, and prints what the call has come to. Exit status 0 stands for success, 1 for a failure, 2 for a
fault of the command line and for a request that is not authorized.

## Contents
- `World`: the machine that the program runs on, and the server that it talks to.
- `Ending`: what is printed, and the exit status.
- `execute`: the call of a command, up to the end of the shutdown.
- `run`: a whole run, from the words of the command line.
-/

namespace GatewayAuth.CommandLine

open Simulation

/-- What surrounds the program. -/
structure World where
  machine : Settings.Machine
  server : Http.Server
  /-- The ports that other programs listen on. -/
  takenPorts : List Nat

/-- How a run ends. -/
structure Ending where
  status : Nat
  output : String
  complaint : String
  deriving DecidableEq, Repr

/-! ## Endings -/

/-- The end of a run that fails. -/
def Ending.failure (text : String) : Ending := ⟨1, "", "Error: " ++ text ++ "\n"⟩

/-- The end of a run with a document. -/
def Ending.document (status : Nat) (v : Json.Value) : Ending := ⟨status, v.renderIndented ++ "\n", ""⟩

/-- The end of a run without a command. -/
def Stop.ending (vars : List (String × String)) : Stop → Ending
  | .help topic => ⟨0, helpText vars topic, ""⟩
  | .version => ⟨0, versionText, ""⟩
  | .fault f => ⟨2, "", f.message ++ "\n"⟩

/-- A failure, followed by its cause. -/
def failureText (e : AuthorizerError) : String :=
  match e.cause? with
  | some cause => e.message ++ ": " ++ cause
  | none => e.message

/-- The answer to an authorization as a document. -/
def responseDocument (r : AuthResponse) : Json.Value :=
  .object [("authorized", .bool r.authorized), ("error_code", .optional r.errorCode),
    ("rejected_reason", .optional r.rejectedReason), ("raw_response", .optional r.raw)]

/-- The end of a run whose call has come to a result. -/
def endingOf : Manager.Result → Ending
  | .fetched (.ok config) => .document 0 config.toValue
  | .fetched (.error e) => .failure (failureText e)
  | .answered (.ok r) => .document (if r.authorized then 0 else 2) (responseDocument r)
  | .answered (.error e) => .failure (failureText e)
  | .stopped => ⟨0, "", ""⟩

/-! ## Runs -/

/-- The call that a command makes. -/
def Command.task : Command → Manager.Task
  | .fetchConfig order => .fetch order.location order.toRequest
  | .authRep order => .authorize order.destination order.toRequest

/-- A manager that talks to a server. -/
abbrev ServedRun := Schedule Manager Manager.Result Manager.Event NetworkSide Unit

/-- Make a call and wait for its result. -/
def call (s : ServedRun) (id : Nat) (task : Manager.Task) : ServedRun :=
  match s.state.begin? id task with
  | some state => ({ s with state } : ServedRun).await managerMachine networked id
  | none => s

/-- The number of the command's call. -/
def commandCall : Nat := 0

/-- The number of the shutdown. -/
def shutdownCall : Nat := 1

/-- Make the call of a command, then shut down. -/
def execute (settings : Settings) (server : Http.Server) (command : Command) : ServedRun :=
  let s : ServedRun := .new (.ofSettings 0 settings) (.new server)
  call (call s commandCall command.task) shutdownCall .shutdown

/-- Whether the port for metrics cannot be had. -/
def portIsTaken (w : World) (s : MetricsSettings) : Bool := s.enabled && w.takenPorts.contains s.port

/-- Run a command with loaded settings. -/
def runWith (w : World) (settings : Settings) (command : Command) : Ending :=
  match settings.logging.formatFault? with
  | some fault => .failure ("Failed to initialize logging: " ++ fault)
  | none =>
    if portIsTaken w settings.metrics then
      .failure "Failed to install Prometheus recorder: the port is in use"
    else
      let results := (execute settings w.server command).results
      match results.find? commandCall, results.find? shutdownCall with
      | some result, some .stopped => endingOf result
      | _, _ => .failure "the calls have not been completed"

/-- Run the program. -/
def run (w : World) (words : List String) : Ending :=
  match parse w.machine.vars words with
  | .error stop => stop.ending w.machine.vars
  | .ok invocation =>
    match Settings.load w.machine invocation.options with
    | .error e => .failure ("Failed to load configuration: " ++ e.message)
    | .ok settings => runWith w settings invocation.command

end GatewayAuth.CommandLine
