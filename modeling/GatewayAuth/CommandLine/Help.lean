import GatewayAuth.CommandLine.Reading
import GatewayAuth.Sorted

/-!
# `GatewayAuth.CommandLine.Help` — help and version

## Contents
- `Row`: a label with what it stands for; `goesBelow` says whether texts are set beside or below their labels.
- `optionRows`: the options of a level as rows.
- `helpText`, `versionText`: what is printed.
-/

namespace GatewayAuth.CommandLine

/-! ## Rows -/

/-- A label with what it stands for. -/
structure Row where
  label : String
  text : String
  deriving DecidableEq, Repr

/-- `n` spaces. -/
def spaces (n : Nat) : String := String.ofList (List.replicate n ' ')

/-- The length of the longest label. -/
def longestLabel (rows : List Row) : Nat := (rows.map (·.label.length)).foldl max 2

/-- A row with its text beside the label. -/
def Row.beside (width : Nat) (r : Row) : String :=
  "  " ++ r.label ++ spaces (width + 2 - r.label.length) ++ r.text ++ "\n"

/-- A row with its text below the label. -/
def Row.below (r : Row) : String := "  " ++ r.label ++ "\n" ++ spaces 10 ++ r.text ++ "\n"

/-- The width of a page. -/
def pageWidth : Nat := 100

/-- Whether texts go below their labels: some text does not fit beside, and the labels take more than two
fifths of the page. A label counts with eight more columns. -/
def goesBelow (rows : List Row) : Bool :=
  let taken := longestLabel rows + 8
  taken ≤ pageWidth && 2 * pageWidth < 5 * taken &&
    rows.any fun r => pageWidth - taken < r.text.length

/-! ## Options -/

/-- What help adds about where a value comes from. -/
def notes (vars : List (String × String)) (o : CommandOption) : List String :=
  let fromVariable := o.declaration.standIn?.map fun v =>
    "[env: " ++ v.name ++
      (if v.isPublic then "=" ++ (o.inherited? vars).getD "" else "") ++ "]"
  let fromDefault := o.declaration.default?.map fun d => "[default: " ++ d ++ "]"
  fromVariable.toList ++ fromDefault.toList

/-- An option with its value, as usage shows it. -/
def usageOf (o : CommandOption) : String :=
  "--" ++ o.name ++
    match o.declaration.placeholder with
    | some p => " <" ++ p ++ ">"
    | none => ""

/-- An option as a row. -/
def optionRow (vars : List (String × String)) (o : CommandOption) : Row :=
  let about := o.declaration.about
  ⟨"    " ++ usageOf o,
    " ".intercalate ((if about.isEmpty then [] else [about]) ++ notes vars o)⟩

/-- The options of a level as help lists them: by their place among the shared or the own ones, and by name
where both have one at that place. -/
def listedOptions (l : Level) : List CommandOption :=
  let placed := sharedOptions.zipIdx ++ l.ownOptions.zipIdx
  (Sorted.sort (fun a b => decide (a.2 < b.2 ∨ (a.2 = b.2 ∧ a.1.name ≤ b.1.name))) placed).map (·.1)

/-- All options of a level as rows, the inquiries at the end. -/
def optionRows (vars : List (String × String)) (l : Level) : List Row :=
  (listedOptions l).map (optionRow vars) ++ [⟨"-h, --help", "Print help"⟩] ++
    if l = .program then [⟨"-V, --version", "Print version"⟩] else []

/-- The options of a level as a section of a page. -/
def optionSection (vars : List (String × String)) (l : Level) : String :=
  let rows := optionRows vars l
  "Options:\n" ++
    String.join (rows.map (if goesBelow rows then Row.below else Row.beside (longestLabel rows)))

/-! ## Pages -/

/-- What a command is for. -/
def CommandName.about : CommandName → String
  | fetchConfig => "Print a service's latest proxy configuration as JSON"
  | authRep => "Authorize one request and report its usage"

/-- What the command `help` is for. -/
def helpAbout : String := "Print this message or the help of the given subcommand(s)"

/-- All commands as rows. -/
def commandRows : List Row :=
  CommandName.all.map (fun c => ⟨c.word, c.about⟩) ++ [⟨"help", helpAbout⟩]

/-- The page about the program. -/
def programPage (vars : List (String × String)) : String :=
  programAbout ++ "\n\nUsage: " ++ programName ++ " [OPTIONS] <COMMAND>\n\nCommands:\n" ++
    String.join (commandRows.map (Row.beside (longestLabel commandRows))) ++ "\n" ++
    optionSection vars .program

/-- The page about a command. -/
def commandPage (vars : List (String × String)) (c : CommandName) : String :=
  c.about ++ "\n\nUsage: " ++
    " ".intercalate (programName :: c.word :: "[OPTIONS]" ::
      (Level.command c).required.map usageOf) ++
    "\n\n" ++ optionSection vars (.command c)

/-- The page about the command `help`. -/
def helpPage : String :=
  helpAbout ++ "\n\nUsage: " ++ programName ++ " help [COMMAND]...\n\nArguments:\n" ++
    Row.beside 12 ⟨"[COMMAND]...", "Print help for the subcommand(s)"⟩

/-- The page about a topic. -/
def helpText (vars : List (String × String)) : HelpTopic → String
  | .program => programPage vars
  | .command c => commandPage vars c
  | .help => helpPage

/-- The name and the version of the program. -/
def versionText : String := programName ++ " " ++ programVersion ++ "\n"

end GatewayAuth.CommandLine
