import GroupScope.Directory
import GroupScope.Keyed
import GroupScope.Text.EditDistance
import GroupScope.Text.Lowercase
/-!
# Directories kept in tables

A directory that is given in full: the slugs of all groups, and the memberships of users under the
decimal text of their ids. It always answers. It can also suggest a slug for a text that names no
group: the slug at the least edit distance, ignoring case, unless that distance is zero or more than
three. Of several closest slugs the first in order is suggested.
-/

namespace GroupScope

/-- A directory given in full. -/
structure DirectoryTable where
  /-- The ids of groups under their slugs. -/
  groups : Keyed GroupId := .empty
  /-- The groups of users under the decimal texts of their ids. -/
  members : Keyed (List GroupId) := .empty
  deriving DecidableEq, Repr

namespace DirectoryTable

/-- The directory with one more group. -/
def withGroup (table : DirectoryTable) (slug : String) (id : GroupId) : DirectoryTable :=
  { table with groups := table.groups.insert slug id }

/-- The directory with the memberships of one more user. -/
def withMember (table : DirectoryTable) (user : UserId) (groups : List GroupId) : DirectoryTable :=
  { table with members := table.members.insert (toString user.toNat) groups }

/-- The group with a slug. -/
def groupOf (table : DirectoryTable) (slug : String) : Option GroupId := table.groups.lookup slug

/-- The groups of a user; an unknown user has none. -/
def groupsOf (table : DirectoryTable) (user : UserId) : List GroupId :=
  (table.members.lookup (toString user.toNat)).getD []

/-- The tables as a directory. -/
def toDirectory (table : DirectoryTable) : Directory where
  groupOf slug := .ok (table.groupOf slug)
  groupsOf user := .ok (table.groupsOf user)

/-! ## Suggestions -/

/-- The greatest edit distance of a suggestion. -/
def maxDistance : Nat := 3

/-- The edit distance of two texts in lower case. -/
def distance (query slug : String) : Nat :=
  Text.editDistance (Text.lowercase query.toList) (Text.lowercase slug.toList)

/-- The first of the closest slugs, with its distance. -/
def closest (query : String) : List String → Option (String × Nat)
  | [] => none
  | slug :: rest =>
    let here := distance query slug
    match closest query rest with
    | none => some (slug, here)
    | some (best, least) => if here ≤ least then some (slug, here) else some (best, least)

/-- The slugs that can be suggested. -/
def slugs (table : DirectoryTable) : List String :=
  table.groups.names.filter fun slug => !slug.isEmpty

/-- The slug that a text may have meant. -/
def suggest (table : DirectoryTable) (query : String) : Option String :=
  match closest query table.slugs with
  | none => none
  | some (best, least) => if 0 < least ∧ least ≤ maxDistance then some best else none

end DirectoryTable

end GroupScope
