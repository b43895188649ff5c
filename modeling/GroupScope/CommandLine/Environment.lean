import GroupScope.Id
/-!
# The environment of a run

The variables that a run looks at, and the path of the settings file that they decide on:

    1.  the path in `GF_CONFIG`, taken as it is
    2.  `gf/config.toml` below the directory in `XDG_CONFIG_HOME`
    3.  `.config/gf/config.toml` below the home directory

An empty home directory counts as none, and the one of the account is taken instead. Values of
variables that are no text are left out.
-/

namespace GroupScope.CommandLine

/-- What a run finds in its environment. -/
structure Environment where
  /-- The path of the settings file. -/
  settingsFile : Option String := none
  /-- The path of the directory file, for commands that are given none. -/
  directoryFile : Option String := none
  /-- The directory of all settings of the user. -/
  settingsHome : Option String := none
  /-- The home directory. -/
  home : Option String := none
  /-- The home directory that the account was made with. -/
  accountHome : Option String := none
  /-- Colours are unwanted. -/
  plain : Bool := false
  deriving DecidableEq, Repr

namespace Environment

/-- The environment with the given variables. -/
def ofVariables (value? : String → Option String) (accountHome : Option String) : Environment where
  settingsFile := value? "GF_CONFIG"
  directoryFile := value? "GF_DIRECTORY"
  settingsHome := value? "XDG_CONFIG_HOME"
  home := value? "HOME"
  accountHome := accountHome
  plain := (value? "NO_COLOR").isSome

/-- The path of a name in a directory. -/
def join (directory name : String) : String :=
  if directory.toList = [] ∨ directory.toList.getLast? = some '/' then directory ++ name
  else directory ++ "/" ++ name

/-- The home directory that is used. -/
def homeDirectory? (environment : Environment) : Option String :=
  match environment.home.filter fun home => home.toList ≠ [] with
  | some home => some home
  | none => environment.accountHome

/-- The path of the settings file. -/
def settingsPath? (environment : Environment) : Option String :=
  match environment.settingsFile, environment.settingsHome with
  | some path, _ => some path
  | none, some directory => some (join (join directory "gf") "config.toml")
  | none, none =>
    environment.homeDirectory?.map fun home =>
      join (join (join home ".config") "gf") "config.toml"

end Environment

end GroupScope.CommandLine
