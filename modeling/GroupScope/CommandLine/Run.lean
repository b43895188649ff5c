import GroupScope.CommandLine.Completion
import GroupScope.CommandLine.Preparation
import GroupScope.Predicate.Compile
import GroupScope.Report.Explanation
/-!
# Running commands

A run prints a text or fails, reports events, and may change files. Only one command changes files
at all, the one that writes the settings file. A run that fails prints nothing.
-/

namespace GroupScope.CommandLine

/-! ## Commands on a request -/

/-- A text in JSON or as a table, as the invocation asks for. JSON ends its line. -/
def Invocation.choose (invocation : Invocation) (json table : String) : String :=
  if invocation.json then Report.line json else table

/-- Output has colours. -/
def Environment.colors (environment : Environment) (invocation : Invocation) : Bool :=
  !invocation.noColor && !environment.plain

/-- Removes fragments by name, and reports each that was there. -/
def switchOff (set : PredicateSet) : List PredicateName → Logged PredicateSet
  | [] => pure set
  | name :: rest => do
    if set.contains name then Logged.report (.fragmentSwitchedOff name)
    switchOff (set.remove name).2 rest

/-- Folds the request into the parameters. -/
def Prepared.normalize (prepared : Prepared) : Logged Parameters :=
  prepared.existing.normalize prepared.request prepared.context prepared.settings

/-- Folds the request into the parameters and compiles them. -/
def Prepared.compile (prepared : Prepared) (without : List PredicateName) :
    Logged PredicateSet := do
  let parameters ← prepared.normalize
  let set ← parameters.compile prepared.context
  switchOff set without

/-- Keeps what comes out of every step. -/
def Prepared.explain (prepared : Prepared) (expression : Option String) : Logged Explanation := do
  let resolution ← resolve prepared.request.expression prepared.request.native prepared.context
    prepared.settings
  let parameters := prepared.existing.absorb resolution
  let predicates ← parameters.compile prepared.context
  pure
    { expression, resolution
      dropped := DroppedItem.ofTable prepared.table resolution.dropped
      parameters, predicates }

/-! ## Commands on the settings file -/

/-- The settings as a value, its fields in order of their names. -/
def settingsJson (settings : Settings) : Json :=
  .object
    [("columns", Wire.columns settings.columns), ("groups_enabled", .bool settings.groupsEnabled),
      ("version", .nat settings.version)]

/-- The settings, where they are, and whether they come from there, as JSON. -/
def shownJson (settings : Settings) (path : String) (present : Bool) : String :=
  Json.pretty <| .object
    [("config", settingsJson settings), ("exists", .bool present), ("path", .string path)]

/-- The settings, where they are, and whether they come from there, as text. -/
def shownText (colors : Bool) (settings : Settings) (path : String) (present : Bool) : String :=
  Report.line (Report.paint colors .bold (Report.paint colors .green "Configuration")) ++
    Report.line "" ++
    Report.line ("File: " ++ path) ++
    Report.line ("Exists: " ++ Json.boolText present) ++
    Report.line "" ++
    Report.line "Settings:" ++
    Report.line ("  version: " ++ toString settings.version) ++
    Report.line ("  groups_enabled: " ++ Json.boolText settings.groupsEnabled) ++
    Report.line "" ++
    Report.line "[columns]" ++
    Report.line ("  group: " ++ settings.columns.group) ++
    Report.line ("  private: " ++ settings.columns.privacy) ++
    if present then ""
    else
      Report.line "" ++
        Report.line "(No config file exists. Run 'gf config init' to create one.)"

/-- The path of the settings file and whether it exists, as JSON. -/
def pathJson (path : String) (present : Bool) : String :=
  Json.pretty <| .object [("exists", .bool present), ("path", .string path)]

/-- The path of a settings file that was just written, as JSON. -/
def writtenJson (path : String) : String :=
  Json.pretty <| .object [("created", .bool true), ("path", .string path)]

/-! ## Runs -/

/-- What a query prints. -/
def answer (environment : Environment) (files : Files) (invocation : Invocation) :
    Query → Task String
  | .welcome =>
    pure <|
      if invocation.quiet then ""
      else Report.line "gf - group filter harness" ++
        Report.line "Use --help for usage information"
  | .normalize options => do
    let prepared ← prepare environment files options
    let parameters ← prepared.normalize
    pure (invocation.choose (Report.parametersJson parameters)
      (Report.parametersTable colors parameters))
  | .compile options without => do
    let prepared ← prepare environment files options
    let set ← prepared.compile without
    let columns := prepared.settings.columns
    pure (invocation.choose (Report.predicatesJson set columns)
      (Report.predicatesTable colors set columns))
  | .explain options => do
    let prepared ← prepare environment files options
    let explanation ← prepared.explain options.expression
    let columns := prepared.settings.columns
    pure (invocation.choose (Report.explanationJson explanation columns)
      (Report.explanationTable colors explanation columns))
  | .settings => do
    let settings ← loadSettings environment files
    let path ← settingsPath environment
    let present := files.contains path
    pure (invocation.choose (shownJson settings path present)
      (if invocation.quiet then "" else shownText colors settings path present))
  | .settingsPath => do
    let path ← settingsPath environment
    pure (invocation.choose (pathJson path (files.contains path)) (Report.line path))
  | .completions shell => pure (completionScript shell)
where
  colors : Bool := environment.colors invocation

/-- What a run leaves behind. -/
structure Outcome where
  /-- The files afterwards. -/
  files : Files
  /-- What was printed, or why the run failed. -/
  result : Except CommandError String
  /-- What happened, in order. -/
  events : List Event := []

/-- A failed attempt at writing the settings file. -/
def Outcome.failed (files : Files) (error : FileError) : Outcome :=
  { files, result := .error (.files error) }

/-- What is printed once the settings file was written. -/
def writtenText (environment : Environment) (invocation : Invocation) (path : String) : String :=
  let created := Report.paint (environment.colors invocation) .green "Created"
  invocation.choose (writtenJson path)
    (if invocation.quiet then "" else Report.line (created ++ " " ++ path))

/-- Writes the default settings file, and the directories above it. -/
def writeSettings (environment : Environment) (files : Files) (invocation : Invocation)
    (force : Bool) : Outcome :=
  match settingsPath environment with
  | .error error => { files, result := .error error }
  | .ok path =>
    if files.contains path ∧ !force then .failed files (.settingsPresent path)
    else
      let made := files.ensureParent path
      match made.fault with
      | some fault => .failed made.files (.directoryNotMade fault)
      | none =>
        let written := made.files.write path Settings.template.toUTF8
        match written.fault with
        | some fault => .failed written.files (.notWritten fault)
        | none =>
          { files := written.files, result := .ok (writtenText environment invocation path) }

/-- Runs a command. -/
def run (environment : Environment) (files : Files) (invocation : Invocation) : Outcome :=
  match invocation.command with
  | .answer query =>
    let printed := (answer environment files invocation query).run
    { files, result := printed.value, events := printed.events }
  | .writeSettings force => writeSettings environment files invocation force

/-- The exit code of a run. -/
def Outcome.exitCode (outcome : Outcome) : Nat :=
  match outcome.result with
  | .ok _ => 0
  | .error error => error.exitCode

/-- What a run prints; nothing when it failed. -/
def Outcome.output (outcome : Outcome) : String :=
  match outcome.result with
  | .ok text => text
  | .error _ => ""

/-- An event as a line of the log. -/
def logLine (event : Event) : String :=
  let detail := fun ((name, value) : String × Json) => " " ++ name ++ "=" ++ value.compact
  Report.line ("DEBUG " ++ event.message ++ String.join (event.details.map detail))

/-- The lines of the log that the invocation asks for. -/
def logLines (invocation : Invocation) (events : List Event) : String :=
  if invocation.logLevel = .debug then
    String.join ((events.filter fun event => event.level = .debug).map logLine)
  else ""

/-- The error as it is shown. -/
def CommandError.shown (json : Bool) (error : CommandError) : String :=
  if json then
    Report.line <| Json.pretty <| .object
      [("error", .object [("code", .string error.code), ("message", .string error.message)])]
  else Report.line ("Error: " ++ error.message)

/-- What a run says beside its output: its log, and its error if it failed. -/
def Outcome.diagnostics (outcome : Outcome) (invocation : Invocation) : String :=
  logLines invocation outcome.events ++
    match outcome.result with
    | .ok _ => ""
    | .error error => error.shown invocation.json

/-- The paths that a run looks at. -/
def Invocation.paths (invocation : Invocation) (environment : Environment) : List String :=
  let directory :=
    match invocation.command with
    | .answer (.normalize options) | .answer (.compile options _) | .answer (.explain options) =>
      options.directory
    | _ => none
  environment.settingsPath?.toList ++ directory.toList

end GroupScope.CommandLine
