import GroupScope.Json.Printer
import GroupScope.Predicate.Clause
import GroupScope.Report.Style
import GroupScope.Wire
/-!
# Reports on fragments

The fragments as a table of names and conditions, or as indented JSON that also holds the predicates
and the joined condition.
-/

namespace GroupScope.Report

/-- The width of the name column. -/
def nameWidth : Nat := 14

/-- The table of the fragments. -/
def predicatesTable (colors : Bool) (set : PredicateSet) (columns : Columns) : String :=
  if set.isEmpty then line "No predicates."
  else
    header colors (padRight nameWidth "Name" ++ " SQL") ++
      String.join ((set.clauses columns).map fun (name, clause) =>
        line (paint colors .cyan (padRight nameWidth name.text) ++ " " ++ clause))

/-- One fragment with its name and condition. -/
def fragmentJson (columns : Columns) (name : PredicateName) (predicate : Predicate) : Json :=
  .object <|
    [("name", .string name.text)] ++ Wire.predicateFields predicate ++
      [("sql", .string (predicate.clause columns))]

/-- The fragments as indented JSON. -/
def predicatesJson (set : PredicateSet) (columns : Columns) : String :=
  Json.pretty <| .object
    [("predicates", .array (set.toList.map fun (name, predicate) =>
        fragmentJson columns name predicate)),
      ("where", .optional .string (set.joinedClause columns))]

end GroupScope.Report
