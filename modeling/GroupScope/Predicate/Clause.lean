import GroupScope.Predicate.Set
import GroupScope.Settings
/-!
# Conditions as text

A fragment is written as one boolean condition of a database query, in parentheses of its own, with
the column names between backticks and the ids inline. Conditions of several fragments are joined by
`AND`.
-/

namespace GroupScope

/-- A column name between backticks. -/
def quotedColumn (name : String) : String := "`" ++ name ++ "`"

/-- Ids separated by commas. -/
def idsText (ids : List GroupId) : String :=
  String.intercalate "," (ids.map fun id => toString id.toNat)

/-- A column belongs to a list of ids. -/
def memberText (column : String) (ids : List GroupId) : String :=
  column ++ " IN (" ++ idsText ids ++ ")"

/-- The condition that a fragment stands for. -/
def Predicate.clause (columns : Columns) : Predicate → String
  | .noGroup =>
    let group := quotedColumn columns.group
    "( " ++ group ++ " = 0 OR " ++ group ++ " IS NULL )"
  | .hasGroup =>
    let group := quotedColumn columns.group
    "( " ++ group ++ " IS NOT NULL AND " ++ group ++ " != 0 )"
  | .inGroups ids => "( " ++ memberText (quotedColumn columns.group) ids ++ " )"
  | .notInGroups ids =>
    "( " ++ quotedColumn columns.group ++ " NOT IN (" ++ idsText ids ++ ") )"
  | .visible memberOf =>
    let group := quotedColumn columns.group
    let privacy := quotedColumn columns.privacy
    let always := privacy ++ "=0 OR (" ++ privacy ++ "=1 AND (" ++ group ++ " IS NULL OR " ++
      group ++ " = 0))"
    if memberOf.isEmpty then "(" ++ always ++ ")"
    else "(" ++ always ++ " OR (" ++ privacy ++ "=1 AND " ++ memberText group memberOf ++ "))"

namespace PredicateSet

/-- The conditions under their names, in the stable order. -/
def clauses (set : PredicateSet) (columns : Columns) : List (PredicateName × String) :=
  set.toList.map fun (name, predicate) => (name, predicate.clause columns)

/-- All conditions joined; nothing when there are no fragments. -/
def joinedClause (set : PredicateSet) (columns : Columns) : Option String :=
  if set.isEmpty then none
  else some (String.intercalate " AND " ((set.clauses columns).map Prod.snd))

end PredicateSet

end GroupScope
