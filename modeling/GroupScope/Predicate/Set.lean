import GroupScope.Predicate
/-!
# Sets of fragments

A set holds at most one predicate under each name. Storing under a name replaces what was there, and
every listing follows the stable order of names.
-/

namespace GroupScope

/-- At most one predicate for each name. -/
structure PredicateSet where
  /-- The fragment of wanted groups. -/
  group : Option Predicate := none
  /-- The fragment of unwanted groups. -/
  exclude : Option Predicate := none
  /-- The fragment that asks for some group. -/
  presence : Option Predicate := none
  /-- The fragment of private items. -/
  privacy : Option Predicate := none
  deriving DecidableEq, Repr

namespace PredicateSet

/-- The set without fragments. -/
def empty : PredicateSet := {}

/-- The predicate stored under a name. -/
def get? (set : PredicateSet) : PredicateName → Option Predicate
  | .group => set.group
  | .exclude => set.exclude
  | .presence => set.presence
  | .privacy => set.privacy

/-- The set with the given content under a name. -/
def update (set : PredicateSet) (name : PredicateName) (content : Option Predicate) :
    PredicateSet :=
  match name with
  | .group => { set with group := content }
  | .exclude => { set with exclude := content }
  | .presence => { set with presence := content }
  | .privacy => { set with privacy := content }

/-- Stores a predicate under a name, and returns the one it replaces. -/
def insert (set : PredicateSet) (name : PredicateName) (predicate : Predicate) :
    Option Predicate × PredicateSet :=
  (set.get? name, set.update name (some predicate))

/-- Removes the predicate under a name, and returns it. -/
def remove (set : PredicateSet) (name : PredicateName) : Option Predicate × PredicateSet :=
  (set.get? name, set.update name none)

/-- A predicate is stored under the name. -/
def contains (set : PredicateSet) (name : PredicateName) : Bool := (set.get? name).isSome

/-- The fragments in the stable order of names. -/
def toList (set : PredicateSet) : List (PredicateName × Predicate) :=
  PredicateName.all.filterMap fun name => (set.get? name).map fun predicate => (name, predicate)

/-- The names in use, in their stable order. -/
def names (set : PredicateSet) : List PredicateName := set.toList.map Prod.fst

/-- The number of fragments. -/
def size (set : PredicateSet) : Nat := set.toList.length

/-- There are no fragments. -/
def isEmpty (set : PredicateSet) : Bool := set.toList.isEmpty

/-- The set without the fragments of the given names. -/
def without (set : PredicateSet) (names : List PredicateName) : PredicateSet :=
  names.foldl (fun set name => set.update name none) set

/-- Sets with the same content under every name are equal. -/
theorem ext_get? {s t : PredicateSet} (h : ∀ name, s.get? name = t.get? name) : s = t := by
  cases s; cases t
  have hg := h .group; have he := h .exclude; have hx := h .presence; have hp := h .privacy
  simp only [get?] at hg he hx hp
  simp [hg, he, hx, hp]

/-- The name that was written has the new content. -/
@[simp] theorem get?_update_self (set : PredicateSet) (name : PredicateName)
    (content : Option Predicate) : (set.update name content).get? name = content := by
  cases name <;> rfl

/-- All other names keep theirs. -/
theorem get?_update_of_ne (set : PredicateSet) {name other : PredicateName}
    (content : Option Predicate) (h : other ≠ name) :
    (set.update name content).get? other = set.get? other := by
  cases name <;> cases other <;> first | rfl | exact absurd rfl h

end PredicateSet

end GroupScope
