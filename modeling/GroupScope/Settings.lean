import GroupScope.Text.Quoted
/-!
# Settings

What an installation fixes once: whether group expressions are honoured at all, and the names of the
two columns that rendered conditions refer to. A column name is written into a condition between
backticks, so only names of ASCII letters, digits and underscores are accepted:

    columns.check = ok  ↔  both names are identifiers
-/

namespace GroupScope

/-- The version of the settings format that this library reads and writes. -/
def settingsVersion : Nat := 1

/-- The names of the two columns of the item table. -/
structure Columns where
  /-- Holds the id of the owning group; absent or zero for an item without a group. -/
  group : String := "group_id"
  /-- Holds the privacy mark: zero for a public item, one for a private item. -/
  privacy : String := "event_private"
  deriving DecidableEq, Repr

/-- The settings of an installation. -/
structure Settings where
  /-- The version of the format. -/
  version : Nat := settingsVersion
  /-- Group expressions are honoured. -/
  groupsEnabled : Bool := true
  /-- The column names. -/
  columns : Columns := {}
  deriving DecidableEq, Repr

/-- One of the two columns. -/
inductive Columns.Role where
  /-- The column of the owning group. -/
  | group
  /-- The column of the privacy mark. -/
  | privacy
  deriving DecidableEq, Repr

/-- The setting that names the column. -/
def Columns.Role.setting : Columns.Role → String
  | .group => "group"
  | .privacy => "private"

/-- The name that a column has. -/
def Columns.name (columns : Columns) : Columns.Role → String
  | .group => columns.group
  | .privacy => columns.privacy

/-- A character that may stand in a column name. -/
def isIdentifierChar (c : Char) : Bool := c.isAlphanum || c == '_'

/-- The text can be a column name. -/
def isIdentifier (text : String) : Bool :=
  !text.toList.isEmpty && text.toList.all isIdentifierChar

/-- A column whose name is no identifier. -/
structure ColumnError where
  /-- The column. -/
  role : Columns.Role
  /-- Its name. -/
  name : String
  deriving DecidableEq, Repr

/-- The error in words. -/
def ColumnError.message (e : ColumnError) : String :=
  "invalid column name for " ++ e.role.setting ++ ": " ++ Text.quoted e.name

/-- Accepts a column whose name is an identifier. -/
def Columns.checkRole (columns : Columns) (role : Columns.Role) : Except ColumnError Unit :=
  if isIdentifier (columns.name role) then .ok () else .error ⟨role, columns.name role⟩

/-- Accepts columns whose names are identifiers. The group column is looked at first. -/
def Columns.check (columns : Columns) : Except ColumnError Unit := do
  columns.checkRole .group
  columns.checkRole .privacy

/-- Columns are accepted exactly when both names are identifiers. -/
theorem Columns.check_eq_ok_iff {columns : Columns} :
    columns.check = .ok () ↔
      isIdentifier columns.group = true ∧ isIdentifier columns.privacy = true := by
  cases hg : isIdentifier columns.group <;> cases hp : isIdentifier columns.privacy <;>
    simp [check, checkRole, name, hg, hp, bind, Except.bind]

end GroupScope
