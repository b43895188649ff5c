import GroupScope.Expression
import GroupScope.Predicate
/-!
# Resolutions

What a group expression turns out to mean for one viewer: the ids to include and to exclude, or one
of the special directives, together with the lists that the request carried natively.
-/

namespace GroupScope

/-- The special meanings of an expression. -/
inductive Directive where
  /-- Plain lists, or nothing at all. -/
  | plain
  /-- `this`: the group whose page the request comes from. -/
  | currentGroup
  /-- `my`: the groups of the viewer. -/
  | myGroups
  /-- `0`: items without a group. -/
  | noGroup
  /-- Exclusions alone: the item must belong to some other group. -/
  | mustHaveGroup
  deriving DecidableEq, Repr

/-- The id lists that a request carries beside its expression. An unset list is not an empty one. -/
structure NativeLists where
  /-- Ids to include. -/
  included : Option (List GroupId) := none
  /-- Ids to exclude. -/
  excluded : Option (List GroupId) := none
  deriving DecidableEq, Repr

/-- The meaning of a group expression. -/
structure Resolution where
  /-- Ids to include, in the order of the items; repetitions are kept. -/
  included : List GroupId := []
  /-- Ids to exclude, in the order of the items; repetitions are kept. -/
  excluded : List GroupId := []
  /-- The special meaning. -/
  directive : Directive := .plain
  /-- The native lists of the request, untouched. -/
  native : NativeLists := {}
  /-- The items that named no group. -/
  dropped : List String := []
  deriving DecidableEq, Repr

/-- The expression narrows nothing. -/
def Resolution.isNoop (r : Resolution) : Bool :=
  r.directive = .plain && r.included.isEmpty && r.excluded.isEmpty

end GroupScope
