import GatewayAuth.CommandLine.Invocation
import GatewayAuth.CommandLine.Reading

/-!
# `GatewayAuth.CommandLine.Parse` — from words to an invocation

The words of a level are read first; then variables stand in for options that were not given; then options
that exclude or require each other are checked. The level of the command is completed before that of the
program. An option about settings may be given at both: the command's word wins over the program's, and any
word wins over a variable.

## Contents
- `Found`: what a completed level has found, with its sources.
- `complete`: a completed level; `upon`: two levels together.
- `parse`: the invocation that a command line stands for, or why it stands for none.
-/

namespace GatewayAuth.CommandLine

/-- Where a value comes from. -/
inductive Source where
  | variable
  | word
  deriving DecidableEq, Repr

/-- What a level has found. -/
structure Found where
  texts : Table CommandOption (Source × String)
  metrics : List (String × Int64)

namespace Found

/-- Whether an option has a value. -/
def has (f : Found) (o : CommandOption) : Bool := f.texts.contains o

/-- The value of an option, if it is given. -/
def text? (f : Found) (o : CommandOption) : Option String := (f.texts.find? o).map (·.2)

/-- The value of an option, or its default. -/
def text (f : Found) (o : CommandOption) : String := (f.text? o).getD o.default

/-- What a reading has found by words alone. -/
def ofReading (r : Reading) : Found :=
  ⟨r.texts.toList.foldl (fun t e => t.insert e.1 (.word, e.2)) .empty, r.metrics⟩

/-- Let the variable of an option stand in for it; an empty path is refused. -/
def inherit (vars : List (String × String)) (f : Found) (o : CommandOption) : Except Stop Found :=
  if f.has o then .ok f
  else
    match o.inherited? vars with
    | none => .ok f
    | some value =>
      if o = .config ∧ value = "" then .error (.fault .missingValue)
      else .ok { f with texts := f.texts.insert o (.variable, value) }

/-- Whether options are given that exclude each other. -/
def hasConflict (f : Found) : Bool := f.has .serviceToken && f.has .providerKey

/-- Whether everything is given that a level requires. An authorization needs one of two credentials. -/
def isSufficient (l : Level) (f : Found) : Bool :=
  l.required.all f.has && (l ≠ .command .authRep || f.has .serviceToken || f.has .providerKey)

/-- Check the options of a level against each other. -/
def validate (l : Level) (f : Found) : Except Stop Found :=
  if f.hasConflict then .error (.fault .conflict)
  else if f.isSufficient l then .ok f
  else .error (.fault .missingOption)

/-- The level of a command over that of the program. -/
def upon (inner outer : Found) : Found :=
  { inner with
    texts := outer.texts.toList.foldl (fun t e =>
      match t.find? e.1, e.2.1 with
      | none, _ => t.insert e.1 e.2
      | some (.variable, _), .word => t.insert e.1 e.2
      | some _, _ => t) inner.texts }

end Found

/-- Complete a level once its words have been read. -/
def complete (vars : List (String × String)) (l : Level) (r : Reading) : Except Stop Found := do
  l.options.foldlM (Found.inherit vars) (.ofReading (← r.settle))

/-! ## Invocations -/

/-- What is said about settings. -/
def optionsOf (f : Found) : Settings.Options :=
  ⟨f.text? .config, f.text .environment, f.text? .logLevel, f.has .debug⟩

/-- The usage that is ordered; one hit if none is named. -/
def metricsOf (f : Found) : List (String × Int64) :=
  if f.metrics.isEmpty then [("hits", 1)] else f.metrics

/-- What a command is to do. -/
def commandOf (f : Found) : CommandName → Command
  | .fetchConfig =>
    .fetchConfig ⟨f.text .location, f.text .serviceId, f.text .environmentName, f.text .accessToken⟩
  | .authRep =>
    .authRep {
      destination := f.text .destination
      service := f.text .service
      serviceToken := f.text? .serviceToken
      providerKey := f.text? .providerKey
      params := ⟨f.text .appId, f.text .appKey, f.text .userId, f.text .userKey⟩
      metrics := metricsOf f }

/-- Read a command line, with the variables around it. -/
def parse (vars : List (String × String)) (words : List String) : Except Stop Invocation := do
  match ← readWords .program .empty words with
  | (r, none) =>
    let f ← complete vars .program r
    .error (.fault (if f.texts.size = 0 then .nothingGiven else .missingCommand))
  | (r, some (name, rest)) =>
    let (own, _) ← readWords (.command name) .empty rest
    let inner ← (← complete vars (.command name) own).validate (.command name)
    let outer ← complete vars .program r
    let f := inner.upon outer
    return ⟨optionsOf f, commandOf f name⟩

end GatewayAuth.CommandLine
