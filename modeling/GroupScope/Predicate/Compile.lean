import GroupScope.Lookup
import GroupScope.Parameters
import GroupScope.Predicate.Set
/-!
# Compiling parameters

Parameters become a set of fragments in a fixed order of steps, where a later step replaces what an
earlier one stored under the same name:

    1.  only items without a group         group      no group
    2.  only items with some group         presence   some group
    3.  ids to include                     group      one of them
    4.  ids to exclude                     exclude    none of them
    5.  marker, user logged in             group      one of the viewer's groups, or no group
    6.  user logged in                     privacy    what the viewer may see

Only ids that fit a signed word are compiled. Zero is kept: it matches items without a group.
-/

namespace GroupScope

/-- Stores a fragment, and reports it and what it replaces. -/
def PredicateSet.add (set : PredicateSet) (name : PredicateName) (predicate : Predicate) :
    Logged PredicateSet := do
  Logged.report (.fragmentAdded name predicate)
  match set.insert name predicate with
  | (some replaced, set) =>
    Logged.report (.fragmentReplaced name replaced)
    pure set
  | (none, set) => pure set

/-- Stores a fragment if there is one. -/
def PredicateSet.addSome (set : PredicateSet) (name : PredicateName) :
    Option Predicate → Logged PredicateSet
  | none => pure set
  | some predicate => set.add name predicate

/-- The ids that a signed column can hold. -/
def storable (ids : List GroupId) : List GroupId := ids.filter GroupId.isStorable

/-- The predicate of a list of ids, if the list is not empty. -/
def ofIds? (predicate : List GroupId → Predicate) (ids : List GroupId) : Option Predicate :=
  if ids.isEmpty then none else some (predicate ids)

/-- The predicate for the viewer's own groups; a viewer without groups sees items without a group.
-/
def ofMemberships (groups : List GroupId) : Predicate :=
  if groups.isEmpty then .noGroup else .inGroups groups

/-- Stores the fragment that the marker stands for; for an anonymous viewer it stands for nothing.
-/
def PredicateSet.addMarker (set : PredicateSet) :
    (memberships : Option (List GroupId)) → Logged PredicateSet
  | some groups => set.add .group (ofMemberships groups)
  | none => do
    Logged.report .markerIgnored
    pure set

/-- The fragments of the parameters for the viewer of a context. -/
def Parameters.compile (p : Parameters) (context : Context) : Logged PredicateSet := do
  let set ← PredicateSet.empty.addSome .group (if p.withoutGroup then some .noGroup else none)
  let set ← set.addSome .presence (if p.withGroup then some .hasGroup else none)
  let set ← set.addSome .group (ofIds? .inGroups (storable p.effectiveIncluded))
  let set ← set.addSome .exclude (ofIds? .notInGroups (storable p.effectiveExcluded))
  -- Memberships are looked up even without the marker: the last step needs them.
  let memberships ← context.memberships
  let set ← if p.isMyGroups then set.addMarker memberships else pure set
  set.addSome .privacy (memberships.map .visible)

end GroupScope
