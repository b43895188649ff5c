import GroupScope.Directory.Table
import GroupScope.Settings
import GroupScope.Toml.Reader
/-!
# Settings and directories from TOML

The two kinds of files: settings, and the tables of a directory. Everything in them has a default,
and keys that are not known are ignored. The version in a file of settings must be a number, but
whatever it is, the settings that come out have the current version.
-/

namespace GroupScope

open Toml (Node Entries)

/-- Why a text is no settings. -/
inductive SettingsError where
  /-- The text is no document of the expected form. -/
  | malformed
  /-- A column name is no identifier. -/
  | column (error : ColumnError)
  deriving DecidableEq, Repr

/-- A text under a key. -/
def Toml.Node.text? : Node → Option String
  | .string value => some value
  | _ => none

/-- A truth value under a key. -/
def Toml.Node.flag? : Node → Option Bool
  | .boolean value => some value
  | _ => none

/-- A number of at most 32 bits without a sign. -/
def Toml.Node.nat32? : Node → Option Nat
  | .integer value => if 0 ≤ value ∧ value < pow2 32 then some value.toNat else none
  | _ => none

/-- An id; numbers of a document have a sign, so only half of all ids can be written. -/
def Toml.Node.id? : Node → Option GroupId
  | .integer value => if 0 ≤ value then some (UInt64.ofNat value.toNat) else none
  | _ => none

/-- A list of ids. -/
def Toml.Node.ids? : Node → Option (List GroupId)
  | .array items => items.mapM Node.id?
  | _ => none

/-- A table whose nodes all have one type. -/
def Toml.Node.map? (value? : Node → Option α) : Node → Option (List (String × α))
  | .table _ entries =>
    entries.mapM fun (key, node) => (value? node).map fun value => (key, value)
  | _ => none

/-- What is under a key, or a default when nothing is. -/
def Toml.entryOr (entries : Entries) (key : String) (default : α) (value? : Node → Option α) :
    Option α :=
  match entries.lookup key with
  | none => some default
  | some node => value? node

/-- Column names from the values in order; further values are ignored. -/
def Columns.ofTomlItems? : List Node → Option Columns
  | [] => some {}
  | [group] => group.text?.map fun group => { group }
  | group :: privacy :: _ => do
    let group ← group.text?
    let privacy ← privacy.text?
    some { group, privacy }

/-- Column names from a table, or from an array of them in order. A date counts as a table without
known keys. -/
def Columns.ofToml? : Node → Option Columns
  | .table _ entries => do
    let group ← Toml.entryOr entries "group" ({} : Columns).group Node.text?
    let privacy ← Toml.entryOr entries "private" ({} : Columns).privacy Node.text?
    some { group, privacy }
  | .array items => Columns.ofTomlItems? items
  | .dateTime _ => some {}
  | _ => none

/-- Settings from a document. -/
def Settings.ofEntries? (entries : Entries) : Option Settings := do
  let version ← Toml.entryOr entries "version" settingsVersion Node.nat32?
  let groupsEnabled ← Toml.entryOr entries "groups_enabled" true Node.flag?
  let columns ← Toml.entryOr entries "columns" {} Columns.ofToml?
  some { version, groupsEnabled, columns }

/-- Settings from a text. -/
def Settings.ofText (text : String) : Except SettingsError Settings :=
  match (Toml.read text).bind Settings.ofEntries? with
  | none => .error .malformed
  | some settings =>
    match settings.columns.check with
    | .error error => .error (.column error)
    | .ok () => .ok { settings with version := settingsVersion }

/-- A text for users to edit, which leaves everything at its default. -/
def Settings.template : String :=
  "# gf - group filter configuration\n" ++
  "\n" ++
  "# Config schema version (do not modify)\n" ++
  "version = 1\n" ++
  "\n" ++
  "# Set to false to ignore every group expression\n" ++
  "# groups_enabled = true\n" ++
  "\n" ++
  "# Column names used when rendering predicates as SQL\n" ++
  "[columns]\n" ++
  "# group = \"group_id\"          # owning group (NULL or 0 when groupless)\n" ++
  "# private = \"event_private\"   # 0 public, 1 private\n"

/-- The tables of a directory from a text; nothing when it is no document of that form. -/
def DirectoryTable.ofText? (text : String) : Option DirectoryTable := do
  let entries ← Toml.read text
  let groups ← Toml.entryOr entries "groups" [] (Node.map? Node.id?)
  let members ← Toml.entryOr entries "members" [] (Node.map? Node.ids?)
  some { groups := Keyed.ofList groups, members := Keyed.ofList members }

end GroupScope
