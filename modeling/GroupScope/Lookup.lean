import GroupScope.Event
/-!
# Lookups that cannot fail

A directory may fail, a request may not. Here every lookup has an answer: a failure is reported as
an event and then counts as a miss, and so does the id zero, which names no group.
-/

namespace GroupScope.Context

/-- The group with a slug. Failures and the id zero are misses. -/
def resolveSlug (context : Context) (slug : String) : Logged (Option GroupId) :=
  match context.directory.groupOf slug with
  | .ok id => pure (id.filter fun id => 0 < id)
  | .error failure => do
    Logged.report (.slugLookupFailed slug failure)
    pure none

/-- The groups of the viewer, without zeros; nothing when nobody is logged in. After a failure the
viewer belongs to no group. -/
def memberships (context : Context) : Logged (Option (List GroupId)) :=
  match context.viewer with
  | .anonymous => pure none
  | .user user =>
    match context.directory.groupsOf user with
    | .ok groups => pure (some (groups.filter fun id => 0 < id))
    | .error failure => do
      Logged.report (.membershipLookupFailed user failure)
      pure (some [])

/-- The viewer in a log line. -/
def viewerLabel : Viewer → String
  | .anonymous => "Anonymous"
  | .user id => "Authenticated(" ++ toString id.toNat ++ ")"

/-- The page in a log line. -/
def pageLabel : Option GroupId → String
  | none => "None"
  | some id => "Some(" ++ toString id.toNat ++ ")"

/-- The context in a log line; the directory is not shown. -/
def label (context : Context) : String :=
  "ViewerContext \x7b viewer: " ++ viewerLabel context.viewer ++ ", current_group: " ++
    pageLabel context.page ++ ", .. \x7d"

end GroupScope.Context
