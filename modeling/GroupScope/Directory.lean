import GroupScope.Id
/-!
# Directories and viewers

Everything about groups and users comes from a directory: which group has a slug, and which groups a
user belongs to. A directory may be unable to answer. A request is always made by a viewer, perhaps
from the page of a group; the three together are the context of the request.
-/

namespace GroupScope

/-- A directory could not answer. -/
structure LookupFailure where
  /-- Why not. -/
  reason : String
  deriving DecidableEq, Repr

/-- The failure in words. -/
def LookupFailure.message (failure : LookupFailure) : String :=
  "group directory unavailable: " ++ failure.reason

/-- A source of groups and memberships. -/
structure Directory where
  /-- The group with a slug, if there is one. -/
  groupOf : String → Except LookupFailure (Option GroupId)
  /-- The groups that a user belongs to. -/
  groupsOf : UserId → Except LookupFailure (List GroupId)

/-- Who makes a request. -/
inductive Viewer where
  /-- Nobody is logged in. -/
  | anonymous
  /-- A user is logged in. -/
  | user (id : UserId)
  deriving DecidableEq, Repr

/-- The viewer with a user id, or the anonymous one. -/
def Viewer.ofUser? : Option UserId → Viewer
  | none => .anonymous
  | some id => .user id

/-- The id of the user who is logged in. -/
def Viewer.user? : Viewer → Option UserId
  | .anonymous => none
  | .user id => some id

/-- A user is logged in. -/
def Viewer.isUser (viewer : Viewer) : Bool := viewer.user?.isSome

/-- What is known about the maker of a request. -/
structure Context where
  /-- Who makes it. -/
  viewer : Viewer
  /-- The group whose page it comes from, as given. -/
  page : Option GroupId := none
  /-- Where groups and memberships are looked up. -/
  directory : Directory

/-- The current group: the page's group, unless that is zero. -/
def Context.currentGroup (context : Context) : Option GroupId :=
  context.page.filter fun id => 0 < id

end GroupScope
