import GatewayAuth.CommandLine.Grammar
import GatewayAuth.CommandLine.Metric
import GatewayAuth.Table
import GatewayAuth.Text.Terminal

/-!
# `GatewayAuth.CommandLine.Reading` — reading words at one level

The value of an option may stand in the next word. Such a value counts, and is checked, only when the next
option turns up or the words end; a fault that shows before that wins.

## Contents
- `Stop`: why a command line leads to no command: help, the version, or a `UsageFault`.
- `Word`: a word by its dashes.
- `Reading`: what a level has read so far; `give`, `settle` and `takeWord` extend it.
- `readWords`: all words up to a command.
-/

namespace GatewayAuth.CommandLine

/-! ## Stops -/

/-- What is wrong with a command line. -/
inductive UsageFault where
  | unknownArgument
  | unknownCommand
  /-- A value is given to a switch. -/
  | unexpectedValue
  /-- An option lacks its value, or has an empty one that must not be empty. -/
  | missingValue
  /-- An option is given twice, or together with one that excludes it. -/
  | conflict
  | missingOption
  | missingCommand
  /-- Neither a command nor an option is given. -/
  | nothingGiven
  | badMetric (word : String) (fault : MetricFault)
  deriving DecidableEq, Repr

/-- The wording of a fault. -/
def UsageFault.message : UsageFault → String
  | unknownArgument => "error: unexpected argument found"
  | unknownCommand => "error: unrecognized subcommand"
  | unexpectedValue => "error: unexpected value for an option that takes none"
  | missingValue => "error: a value is required for an option but none was supplied"
  | conflict => "error: an option cannot be used here"
  | missingOption => "error: a required option was not provided"
  | missingCommand => "error: a subcommand is required but none was provided"
  | nothingGiven => "error: neither options nor a subcommand were provided"
  | badMetric word fault =>
    "error: invalid value '" ++ Text.shown word ++ "' for '--" ++ CommandOption.metric.name ++
      " <METRICS>': " ++ Text.shown fault.message

/-- What help is about. -/
inductive HelpTopic where
  | program
  | command (name : CommandName)
  | help
  deriving DecidableEq, Repr

/-- Why a command line leads to no command. -/
inductive Stop where
  | help (topic : HelpTopic)
  | version
  | fault (f : UsageFault)
  deriving DecidableEq, Repr

/-- The help that a level offers about itself. -/
def Level.topic : Level → HelpTopic
  | program => .program
  | command c => .command c

/-! ## Words -/

/-- A word by its dashes. -/
inductive Word where
  /-- Two dashes and a name, perhaps with a value after an equals sign. -/
  | long (name : String) (value : Option String)
  /-- One dash and letters, of which the first counts. -/
  | short (letter : Char)
  /-- Any other word; a single dash is one. -/
  | plain
  deriving DecidableEq, Repr

/-- Sort a word; two dashes alone have been taken out before. -/
def Word.ofString (word : String) : Word :=
  match word.toList with
  | '-' :: '-' :: text =>
    match splitAtEquals text with
    | some (name, value) => .long (String.ofList name) (some (String.ofList value))
    | none => .long (String.ofList text) none
  | '-' :: letter :: _ => .short letter
  | _ => .plain

/-! ## Readings -/

/-- What a level has read. -/
structure Reading where
  /-- Values by option. -/
  texts : Table CommandOption String
  metrics : List (String × Int64)
  /-- An option whose value does not count yet, or has yet to come. -/
  pending : Option (CommandOption × Option String)

namespace Reading

/-- Nothing has been read. -/
def empty : Reading := ⟨.empty, [], none⟩

/-- Whether the next word is the value of an option. -/
def awaitsValue (r : Reading) : Bool :=
  match r.pending with
  | some (_, none) => true
  | _ => false

/-- Let a value count for an option. -/
def give (r : Reading) (o : CommandOption) (value : String) : Except Stop Reading :=
  if o = .metric then
    match parseMetric value with
    | .ok m => .ok { r with metrics := r.metrics ++ [m] }
    | .error f => .error (.fault (.badMetric value f))
  else if r.texts.contains o then .error (.fault .conflict)
  else if o = .config ∧ value = "" then .error (.fault .missingValue)
  else .ok { r with texts := r.texts.insert o value }

/-- Let the pending value count. -/
def settle (r : Reading) : Except Stop Reading :=
  match r.pending with
  | none => .ok r
  | some (_, none) => .error (.fault .missingValue)
  | some (o, some value) => ({ r with pending := none } : Reading).give o value

/-- Show help or the version, once the pending value counts. -/
def ask (r : Reading) (stop : Stop) : Except Stop Reading := do
  let _ ← r.settle
  .error stop

/-- Take an option, with the value that stands in the same word. -/
def takeOption (r : Reading) (o : CommandOption) (value : Option String) : Except Stop Reading :=
  match o.isSwitch, value with
  | true, some _ => .error (.fault .unexpectedValue)
  | true, none => do (← r.settle).give o ""
  | false, some value => do (← r.settle).give o value
  | false, none => do
    let r ← r.settle
    .ok { r with pending := some (o, none) }

end Reading

namespace Level

/-- What help and the version are asked for with, at a level. -/
def inquiry? (l : Level) (name : String) : Option Stop :=
  if name = "help" then some (.help l.topic)
  else if name = "version" ∧ l = .program then some .version
  else none

/-- The same for single letters. -/
def inquiryLetter? (l : Level) (letter : Char) : Option Stop :=
  if letter = 'h' then some (.help l.topic)
  else if letter = 'V' ∧ l = .program then some .version
  else none

/-- The fault of a word that is neither an option, nor a value, nor a command. -/
def strayFault : Level → UsageFault
  | program => .unknownCommand
  | command _ => .unknownArgument

/-- The fault of a word after two dashes, where even the name of a command is no command. -/
def strayFaultAfterDashes (l : Level) (word : String) : UsageFault :=
  if word = "help" ∨ (CommandName.ofWord? word).isSome then .unknownArgument else l.strayFault

end Level

/-- Take a word. -/
def Reading.takeWord (l : Level) (r : Reading) (word : String) : Except Stop Reading :=
  match Word.ofString word with
  | .long name value =>
    match l.inquiry? name, value, l.option? name with
    | some stop, none, _ => r.ask stop
    | some _, some _, _ => .error (.fault .unexpectedValue)
    | none, value, some o => r.takeOption o value
    | none, _, none => .error (.fault .unknownArgument)
  | .short letter =>
    match l.inquiryLetter? letter with
    | some stop => r.ask stop
    | none => .error (.fault .unknownArgument)
  | .plain =>
    match r.pending with
    | some (o, none) => .ok { r with pending := some (o, some word) }
    | _ => .error (.fault l.strayFault)

/-! ## Commands -/

/-- What the words after the command `help` lead to. -/
def helpOf : List String → Stop
  | [] => .help .program
  | ["help"] => .help .help
  | [word] =>
    match CommandName.ofWord? word with
    | some c => .help (.command c)
    | none => .fault .unknownCommand
  | _ => .fault .unknownCommand

/-- Read words up to a command, or to the end. With a command come the words after it. -/
def readWords (l : Level) (r : Reading) :
    List String → Except Stop (Reading × Option (CommandName × List String))
  | [] => .ok (r, none)
  | word :: rest =>
    if l = .program ∧ !r.awaitsValue ∧ word = "help" then .error (helpOf rest)
    else
      match if l = .program && !r.awaitsValue then CommandName.ofWord? word else none with
      | some c => .ok (r, some (c, rest))
      | none =>
        if word = "--" then
          match rest with
          | [] => .ok (r, none)
          | stray :: _ => .error (.fault (l.strayFaultAfterDashes stray))
        else
          match r.takeWord l word with
          | .ok r => readWords l r rest
          | .error stop => .error stop

end GatewayAuth.CommandLine
