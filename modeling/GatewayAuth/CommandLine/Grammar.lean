/-!
# `GatewayAuth.CommandLine.Grammar` — the commands and their options

Words in front of a command are read at the level of the program, words after it at the level of the command.
Four options about settings are known at every level.

## Contents
- `CommandOption` and its `Declaration`: name, value, variable, default, help.
- `CommandName`, `Level`: which options a level knows, and which it requires.
-/

namespace GatewayAuth.CommandLine

/-! ## Options -/

/-- The options. -/
inductive CommandOption where
  | config
  | environment
  | logLevel
  | debug
  | location
  | serviceId
  | environmentName
  | accessToken
  | destination
  | service
  | serviceToken
  | providerKey
  | appId
  | appKey
  | userId
  | userKey
  | metric
  deriving DecidableEq, Repr

/-- A variable that stands in for an option. -/
structure Variable where
  name : String
  /-- Whether help may show its value. -/
  isPublic : Bool
  deriving DecidableEq, Repr

/-- How an option is given, and what help says about it. -/
structure Declaration where
  name : String
  /-- How help names the value; an option without value is a switch. -/
  placeholder : Option String
  standIn? : Option Variable := none
  default? : Option String := none
  about : String := ""
  deriving DecidableEq, Repr

namespace CommandOption

/-- The declaration of each option. -/
def declaration : CommandOption → Declaration
  | config =>
    { name := "config", placeholder := some "CONFIG"
      standIn? := some ⟨"AUTHORIZER_CONFIG", true⟩
      about := "Path to an additional configuration file" }
  | environment =>
    { name := "environment", placeholder := some "ENVIRONMENT"
      standIn? := some ⟨"ENVIRONMENT", true⟩, default? := some "production"
      about := "Environment name, selects config/\x7benvironment\x7d.toml" }
  | logLevel =>
    { name := "log-level", placeholder := some "LOG_LEVEL"
      about := "Override the configured log level" }
  | debug => { name := "debug", placeholder := none, about := "Shorthand for --log-level debug" }
  | location =>
    { name := "location", placeholder := some "LOCATION"
      about := "Control-plane admin portal URL" }
  | serviceId => { name := "service-id", placeholder := some "SERVICE_ID" }
  | environmentName =>
    { name := "environment-name", placeholder := some "ENVIRONMENT_NAME"
      default? := some "production"
      about := "Configuration environment to fetch (production, staging)" }
  | accessToken =>
    { name := "access-token", placeholder := some "ACCESS_TOKEN"
      standIn? := some ⟨"AUTHORIZER_ACCESS_TOKEN", false⟩ }
  | destination =>
    { name := "destination", placeholder := some "DESTINATION", about := "Backend base URL" }
  | service =>
    { name := "service", placeholder := some "SERVICE"
      about := "Service id the usage belongs to" }
  | serviceToken =>
    { name := "service-token", placeholder := some "SERVICE_TOKEN"
      standIn? := some ⟨"AUTHORIZER_SERVICE_TOKEN", false⟩ }
  | providerKey =>
    { name := "provider-key", placeholder := some "PROVIDER_KEY"
      standIn? := some ⟨"AUTHORIZER_PROVIDER_KEY", false⟩ }
  | appId => { name := "app-id", placeholder := some "APP_ID", default? := some "" }
  | appKey => { name := "app-key", placeholder := some "APP_KEY", default? := some "" }
  | userId => { name := "user-id", placeholder := some "USER_ID", default? := some "" }
  | userKey => { name := "user-key", placeholder := some "USER_KEY", default? := some "" }
  | metric =>
    { name := "metric", placeholder := some "METRICS", default? := some "hits=1"
      about := "Usage as metric=delta, repeatable" }

/-- The name of an option, without dashes. -/
def name (o : CommandOption) : String := o.declaration.name

/-- Whether an option takes no value. -/
def isSwitch (o : CommandOption) : Bool := o.declaration.placeholder.isNone

/-- The value that the environment of the program gives to an option. -/
def inherited? (vars : List (String × String)) (o : CommandOption) : Option String :=
  o.declaration.standIn?.bind fun v => (vars.find? fun e => e.1 == v.name).map (·.2)

/-- The default of an option, empty if it has none. -/
def default (o : CommandOption) : String := o.declaration.default?.getD ""

end CommandOption

/-! ## Levels -/

/-- The commands. -/
inductive CommandName where
  | fetchConfig
  | authRep
  deriving DecidableEq, Repr

/-- The word for a command. -/
def CommandName.word : CommandName → String
  | fetchConfig => "fetch-config"
  | authRep => "auth-rep"

/-- All commands, in the order of help. -/
def CommandName.all : List CommandName := [.fetchConfig, .authRep]

/-- The command that a word names. -/
def CommandName.ofWord? (word : String) : Option CommandName := all.find? fun c => c.word == word

/-- Where on a command line a word stands. -/
inductive Level where
  /-- In front of a command. -/
  | program
  /-- After a command. -/
  | command (name : CommandName)
  deriving DecidableEq, Repr

/-- The options that every level knows. -/
def sharedOptions : List CommandOption := [.config, .environment, .logLevel, .debug]

namespace Level

/-- The options that only a level itself knows. -/
def ownOptions : Level → List CommandOption
  | program => []
  | command .fetchConfig => [.location, .serviceId, .environmentName, .accessToken]
  | command .authRep =>
    [.destination, .service, .serviceToken, .providerKey, .appId, .appKey, .userId, .userKey, .metric]

/-- All options of a level. -/
def options (l : Level) : List CommandOption := l.ownOptions ++ sharedOptions

/-- The options that have to be given whatever else is given. -/
def required : Level → List CommandOption
  | program => []
  | command .fetchConfig => [.location, .serviceId, .accessToken]
  | command .authRep => [.destination, .service]

/-- The option of a level with a name. -/
def option? (l : Level) (name : String) : Option CommandOption := l.options.find? fun o => o.name == name

end Level

/-! ## Identity -/

/-- The name of the program. -/
def programName : String := "apigw-authorizer"

/-- The version of the program. -/
def programVersion : String := "0.1.0"

/-- What the program is. -/
def programAbout : String := "API gateway authorizer client"

end GatewayAuth.CommandLine
