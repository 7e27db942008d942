import GatewayAuth.Settings.Files
import GatewayAuth.Settings.Section
import GatewayAuth.Settings.Toml.Document
import GatewayAuth.Settings.Variable

/-!
# `GatewayAuth.Settings.Layers` — settings from all their sources

The sources, lowest first: the defaults, the file for all environments, the file of the environment, the file
that the command line names, variables, the switch for debugging, the log level of the command line.

## Contents
- `Options`: what the command line says about settings.
- `layers`: the trees of all sources, or the fault of a file that cannot be read.
- `load`: settings from the stack of layers, with their types and ranges checked.
-/

namespace GatewayAuth.Settings

/-- What the command line says about settings. -/
structure Options where
  /-- The path of a further file. -/
  file : Option String
  environment : String
  logLevel : Option String
  debug : Bool
  deriving DecidableEq, Repr

/-- The machine that settings are loaded on. -/
structure Machine where
  files : Files
  vars : List (String × String)
  deriving Repr

/-- Why settings cannot be had. -/
inductive LoadError where
  /-- A file is no TOML document. -/
  | unreadable
  | misfit (m : Misfit)
  /-- Values outside their ranges. -/
  | invalid (problems : List Problem)
  deriving DecidableEq, Repr

/-- The wording of a fault. -/
def LoadError.message : LoadError → String
  | unreadable => "a file is no TOML document"
  | misfit m => "invalid value for key \"" ++ ".".intercalate m.path ++ "\""
  | invalid problems => Problem.report problems

/-- The layer of the defaults. -/
def defaultLayer : Tree := Tree.ofJson (toJson {})

/-- The layer of a file; a missing file gives none. -/
def fileLayer (files : Files) (path : String) : Except LoadError (List Tree) :=
  match files.find? path with
  | none => .ok []
  | some text =>
    match Toml.ofText text with
    | some t => .ok [t]
    | none => .error .unreadable

/-- The layer that sets the log level. -/
def levelLayer (level : String) : Tree := Tree.placed ["logging", "level"] (.text level)

/-- The paths of all files that are looked up, lowest first. -/
def paths (options : Options) : List String :=
  "config/default.toml" :: ("config/" ++ options.environment ++ ".toml") :: options.file.toList

/-- The layers of all sources, lowest first. -/
def layers (machine : Machine) (options : Options) : Except LoadError (List Tree) := do
  let files ← (paths options).mapM (fileLayer machine.files)
  return defaultLayer :: files.flatten ++ [Variable.treeOf machine.vars] ++
    (if options.debug then [levelLayer "debug"] else []) ++
    options.logLevel.toList.map levelLayer

/-- Check the types and the ranges of a tree of settings. -/
def check (t : Tree) : Except LoadError Settings :=
  match ofTree .ignored t with
  | .error m => .error (.misfit m)
  | .ok s => if s.problems = [] then .ok s else .error (.invalid s.problems)

/-- Load settings. -/
def load (machine : Machine) (options : Options) : Except LoadError Settings := do
  check (Tree.stack (← layers machine options))

end GatewayAuth.Settings
