import GroupScope.Error
import GroupScope.Files
import GroupScope.Settings.Document
/-!
# Failed commands

Why a command failed, in three kinds: a file could not be used, a text is no JSON, or search
parameters have the wrong shape. Each kind has its code and its exit code.

What the libraries say that read TOML and JSON is left out: a message ends where their text would
start. Left out is a fourth kind, too, of faults while the output is written.
-/

namespace GroupScope.CommandLine

/-- What was wrong with the files of a run. -/
inductive FileError where
  /-- Nothing tells where the settings file is. -/
  | noSettingsPath
  | unreadable (path : String) (fault : FileFault)
  /-- The text of a file does not have the expected form. -/
  | malformed
  /-- A column name in the settings file is no identifier. -/
  | column (error : ColumnError)
  /-- The settings file exists and must not be overwritten. -/
  | settingsPresent (path : String)
  /-- The directory of the settings file could not be made. -/
  | directoryNotMade (fault : FileFault)
  | notWritten (fault : FileFault)
  deriving DecidableEq, Repr

/-- The error in words. -/
def FileError.message : FileError → String
  | .noSettingsPath => "Could not determine config directory"
  | .unreadable path fault => "failed to read " ++ path ++ ": " ++ fault.message
  | .malformed => "failed to parse config"
  | .column error => error.message
  | .settingsPresent path => path ++ " already exists (use --force to overwrite)"
  | .directoryNotMade fault => "Failed to create config directory: " ++ fault.message
  | .notWritten fault => "Failed to write config: " ++ fault.message

/-- The error about a text of settings. -/
def FileError.ofSettings : SettingsError → FileError
  | .malformed => .malformed
  | .column error => .column error

/-- Why a command failed. -/
inductive CommandError where
  | files (error : FileError)
  /-- The text of the search parameters is no JSON. -/
  | json
  /-- The search parameters have the wrong shape. -/
  | filter (error : FilterError)
  deriving Repr

namespace CommandError

/-- The error in words. -/
def message : CommandError → String
  | .files error => "configuration error: " ++ error.message
  | .json => "serialization error"
  | .filter error => "filter error: " ++ error.message

/-- The code that callers tell errors apart by. -/
def code : CommandError → String
  | .files _ => "CONFIG_ERROR"
  | .json => "JSON_ERROR"
  | .filter _ => "FILTER_ERROR"

/-- The exit code. -/
def exitCode : CommandError → Nat
  | .files _ => 5
  | .json | .filter _ => 1

end CommandError

end GroupScope.CommandLine
