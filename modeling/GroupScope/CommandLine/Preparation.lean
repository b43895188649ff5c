import GroupScope.CommandLine.Command
import GroupScope.CommandLine.Environment
import GroupScope.CommandLine.Error
import GroupScope.Json.Reader
import GroupScope.Parameters.Absorb
/-!
# Preparing a request

The commands that work on a request start alike: the settings are read, then the directory, then the
search parameters that were there before, and the request is put together last. The first of these
steps that fails decides how the command fails.
-/

namespace GroupScope.CommandLine

/-- A computation that reports events and may fail. What was reported before a failure stays. -/
abbrev Task := ExceptT CommandError Logged

/-- The settings in a file; the defaults where there is none. -/
def settingsAt (files : Files) (path : String) : Except FileError Settings :=
  if files.contains path then
    match files.readText path with
    | .error fault => .error (.unreadable path fault)
    | .ok text => (Settings.ofText text).mapError .ofSettings
  else .ok {}

/-- The directory in a file. -/
def directoryAt (files : Files) (path : String) : Except FileError DirectoryTable :=
  match files.readText path with
  | .error fault => .error (.unreadable path fault)
  | .ok text =>
    match DirectoryTable.ofText? text with
    | none => .error .malformed
    | some table => .ok table

/-- The search parameters in a JSON text. -/
def parametersIn (text : String) : Except CommandError Parameters :=
  match Json.read text with
  | none => .error .json
  | some value => (Parameters.ofJson value).mapError .filter

/-- The path of the settings file. -/
def settingsPath (environment : Environment) : Except CommandError String :=
  match environment.settingsPath? with
  | none => .error (.files .noSettingsPath)
  | some path => .ok path

/-- Reads the settings. -/
def loadSettings (environment : Environment) (files : Files) : Task Settings := do
  let path ← settingsPath environment
  let settings ← (settingsAt files path).mapError CommandError.files
  Logged.report (.settingsLoaded path)
  pure settings

/-- The directory of a request; without a file it is empty. -/
def directoryOf (files : Files) (options : RequestOptions) : Except CommandError DirectoryTable :=
  match options.directory with
  | none => .ok {}
  | some path => (directoryAt files path).mapError .files

/-- The search parameters before a request. -/
def existingOf (options : RequestOptions) : Except CommandError Parameters :=
  match options.parameters with
  | none => .ok {}
  | some text => parametersIn text

/-- An attribute that is set to a text. -/
def textField (key : String) (value : Option String) : List (String × Json) :=
  (value.map fun text => (key, Json.string text)).toList

/-- The attributes of a request. -/
def attributes (options : RequestOptions) : Json :=
  .object (textField Request.expressionKey options.expression ++
    textField Request.includedKey options.included ++
    textField Request.excludedKey options.excluded)

/-- The request that the options ask for. -/
def requestOf (options : RequestOptions) : Except CommandError Request :=
  (Request.ofJson (attributes options)).mapError .filter

/-- A request and all that it is worked on with. -/
structure Prepared where
  /-- The settings. -/
  settings : Settings
  /-- The groups and memberships. -/
  table : DirectoryTable
  /-- Who makes the request. -/
  viewer : Viewer
  /-- The group whose page it comes from. -/
  page : Option GroupId
  /-- The search parameters before it. -/
  existing : Parameters
  /-- The request. -/
  request : Request

/-- The context of the request. -/
def Prepared.context (prepared : Prepared) : Context where
  viewer := prepared.viewer
  page := prepared.page
  directory := prepared.table.toDirectory

/-- Gets a request ready. -/
def prepare (environment : Environment) (files : Files) (options : RequestOptions) :
    Task Prepared := do
  let settings ← loadSettings environment files
  let table ← directoryOf files options
  let existing ← existingOf options
  let request ← requestOf options
  pure
    { settings, table, viewer := .ofUser? options.viewer, page := options.page, existing, request }

end GroupScope.CommandLine
