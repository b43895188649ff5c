import GroupScope.Json.Printer
import GroupScope.Parameters.Codec
import GroupScope.Report.Style
/-!
# Reports on parameters

The parameters as a table with one line for each key, or as indented JSON with the host's names.
-/

namespace GroupScope.Report

/-- The width of the key column. -/
def keyWidth : Nat := 18

/-- A key and its value in columns. -/
def keyRow (key value : String) : String := padRight keyWidth key ++ " " ++ value

/-- The expression in a table: texts are quoted, lists stand in brackets. -/
def groupCell : Option GroupParameter → String
  | none => "-"
  | some .my => "my"
  | some (.expression (.text text)) => Text.quoted text
  | some (.expression (.integer value)) => decimalText value
  | some (.expression (.list items)) =>
    "[" ++ String.intercalate ", " (items.map ListItem.itemText) ++ "]"

/-- The keys of the table and their values, in the order of the lines. -/
def parameterRows (p : Parameters) : List (String × String) :=
  [("group", groupCell p.group),
    ("group_in", optionalIdList p.included),
    ("group_notin", optionalIdList p.excluded),
    ("group__in", optionalIdList p.nativeIncluded),
    ("group__not_in", optionalIdList p.nativeExcluded),
    ("group_is_none", Json.boolText p.withoutGroup),
    ("group_must_exist", Json.boolText p.withGroup)]

/-- The table of the parameters. -/
def parametersTable (colors : Bool) (p : Parameters) : String :=
  header colors (keyRow "Key" "Value") ++
    String.join ((parameterRows p).map fun (key, value) => line (keyRow key value))

/-- The parameters as indented JSON. -/
def parametersJson (p : Parameters) : String := p.toJson.pretty

end GroupScope.Report
