import GatewayAuth.CommandLine.Run

/-!
# `GatewayAuth.Main` — the program on a machine

Gathers what a run needs to know of the machine, and prints how the run ends. No transport is built in: every
request fails as if its server could not be reached.
-/

open GatewayAuth
open GatewayAuth.Settings (Files Machine Place)

namespace GatewayAuth.CommandLine

/-- The paths of the settings: sections, and the entries in them. -/
def settingPaths : List (List String) :=
  match Settings.toJson {} with
  | .object sections =>
    sections.flatMap fun group =>
      [group.1] :: match group.2 with
        | .object entries => entries.map fun entry => [group.1, entry.1]
        | _ => []
  | _ => []

/-- The options that a variable can stand in for. -/
def variableNames : List String :=
  ((Level.command .fetchConfig).options ++ (Level.command .authRep).options).filterMap (fun o =>
    o.declaration.standIn?.map (·.name)) ++ settingPaths.map Settings.Variable.nameOf

/-- The variables around the program that have a meaning for it. -/
def readVariables : IO (List (String × String)) :=
  variableNames.eraseDups.filterMapM fun name => do
    return (← IO.getEnv name).map fun value => (name, value)

/-- The path of a place. -/
def pathText (place : Place) : String := "/" ++ "/".intercalate place

/-- The content of the file at a place, if there is one. -/
def readPlace (place : Place) : IO (Option (Place × String)) := do
  try
    return some (place, ← IO.FS.readFile (pathText place))
  catch _ =>
    return none

/-- What a run needs to know of the machine. -/
def readMachine (words : List String) : IO Machine := do
  let vars ← readVariables
  let current := (Files.stepsOf (← IO.currentDir).toString).filter (· ≠ "")
  let paths := match parse vars words with
    | .ok invocation => Settings.paths invocation.options
    | .error _ => []
  let contents ← (paths.flatMap (Files.candidates current)).eraseDups.filterMapM readPlace
  return ⟨⟨contents, current⟩, vars⟩

end GatewayAuth.CommandLine

/-- Run the program with the words of the command line. -/
def main (words : List String) : IO UInt32 := do
  let machine ← CommandLine.readMachine words
  let ending := CommandLine.run ⟨machine, fun _ => Simulation.unreachable, []⟩ words
  IO.print ending.output
  IO.eprint ending.complaint
  return UInt32.ofNat ending.status
