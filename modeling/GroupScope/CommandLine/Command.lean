import GroupScope.Predicate
/-!
# Commands

What a run is asked to do. A query only looks at files; three of the queries work on a request and
share its options. The one command that is no query writes the settings file.
-/

namespace GroupScope.CommandLine

/-- The options of a command that works on a request. -/
structure RequestOptions where
  expression : Option String := none
  included : Option String := none
  excluded : Option String := none
  /-- The search parameters that were there before, as JSON. -/
  parameters : Option String := none
  directory : Option String := none
  /-- The user who is logged in. -/
  viewer : Option UserId := none
  /-- The group whose page the request comes from. -/
  page : Option GroupId := none
  deriving DecidableEq, Repr

/-- A shell that completions are written for. -/
inductive Shell where
  | bash
  | zsh
  | fish
  | powershell
  deriving DecidableEq, Repr

/-- A command that changes nothing. -/
inductive Query where
  /-- Say what the program is. -/
  | welcome
  /-- Fold a request into the search parameters. -/
  | normalize (options : RequestOptions)
  /-- Compile a request to fragments, and leave some of them out. -/
  | compile (options : RequestOptions) (without : List PredicateName)
  | explain (options : RequestOptions)
  | settings
  | settingsPath
  | completions (shell : Shell)
  deriving DecidableEq, Repr

/-- What a run is asked to do. -/
inductive Command where
  | answer (query : Query)
  /-- Write the default settings file, over an existing one only by force. -/
  | writeSettings (force : Bool)
  deriving DecidableEq, Repr

/-- A command and how its output should look. -/
structure Invocation where
  /-- Log decisions. -/
  verbose : Bool := false
  /-- Log errors only, and print no more than was asked for. -/
  quiet : Bool := false
  json : Bool := false
  noColor : Bool := false
  command : Command
  deriving DecidableEq, Repr

/-- How much is logged. -/
inductive LogLevel where
  /-- Decisions and everything above. -/
  | debug
  /-- Warnings and errors. -/
  | warn
  | error
  deriving DecidableEq, Repr

/-- The level as text. -/
def LogLevel.text : LogLevel → String
  | .debug => "debug"
  | .warn => "warn"
  | .error => "error"

/-- How much a run logs. To ask for more wins over asking for less. -/
def Invocation.logLevel (invocation : Invocation) : LogLevel :=
  if invocation.verbose then .debug else if invocation.quiet then .error else .warn

end GroupScope.CommandLine
