import GroupScope.Id
/-!
# Predicates

A query is narrowed by named fragments. Each fragment is a predicate on one item's group and privacy
mark. The four names are stable: callers switch fragments off by name.
-/

namespace GroupScope

/-- The stable name of a fragment. -/
inductive PredicateName where
  /-- Which groups are wanted. -/
  | group
  /-- Which groups are unwanted. -/
  | exclude
  /-- The item must belong to some group. -/
  | presence
  /-- Which private items the viewer may see. -/
  | privacy
  deriving DecidableEq, Repr

namespace PredicateName

/-- All names in their stable order. -/
def all : List PredicateName := [.group, .exclude, .presence, .privacy]

/-- The name as text. -/
def text : PredicateName → String
  | .group => "group"
  | .exclude => "group_exclude"
  | .presence => "group_exists"
  | .privacy => "group_privacy"

/-- The name that a text spells. -/
def ofText? (text : String) : Option PredicateName := all.find? fun name => name.text = text

/-- Every name is read back from its text. -/
theorem ofText?_text (name : PredicateName) : ofText? name.text = some name := by
  cases name <;> decide

end PredicateName

/-- A condition on an item's group and privacy mark. -/
inductive Predicate where
  /-- The item belongs to no group. -/
  | noGroup
  /-- The item belongs to some group. -/
  | hasGroup
  /-- The item belongs to one of the groups. -/
  | inGroups (ids : List GroupId)
  /-- The item belongs to none of the groups. -/
  | notInGroups (ids : List GroupId)
  /-- The item is public, or belongs to no group, or belongs to one of the viewer's groups. -/
  | visible (memberOf : List GroupId)
  deriving DecidableEq, Repr

end GroupScope
