import GroupScope.Report.Parameters
import GroupScope.Report.Predicates
/-!
# Explanations

How one request was resolved, step by step: the meaning of its expression with the dropped items and
a suggestion for each, the parameters that came out, and the fragments they compile to.
-/

namespace GroupScope

/-- An item that named no group, with the slug that it may have meant. -/
structure DroppedItem where
  /-- The item. -/
  text : String
  /-- The slug. -/
  suggestion : Option String
  deriving DecidableEq, Repr

/-- What is told about one request. -/
structure Explanation where
  /-- The expression as it was given. -/
  expression : Option String
  /-- Its meaning. -/
  resolution : Resolution
  /-- The dropped items with their suggestions. -/
  dropped : List DroppedItem
  /-- The parameters. -/
  parameters : Parameters
  /-- The fragments. -/
  predicates : PredicateSet
  deriving DecidableEq, Repr

/-- The slug in a dropped item: what follows all of its hyphens, trimmed. -/
def slugOfDropped (item : String) : String :=
  String.ofList (Text.trim (item.toList.dropWhile (· == '-')))

/-- The dropped items with suggestions from a table. -/
def DroppedItem.ofTable (table : DirectoryTable) (items : List String) : List DroppedItem :=
  items.map fun item => ⟨item, table.suggest (slugOfDropped item)⟩

namespace Report

/-- A directive in an explanation. -/
def directiveText : Directive → String
  | .plain => "none"
  | .currentGroup => "current group"
  | .myGroups => "my groups"
  | .noGroup => "no group"
  | .mustHaveGroup => "must have group"

/-- The line of a dropped item. -/
def droppedLine (colors : Bool) (item : DroppedItem) : String :=
  let hint :=
    match item.suggestion with
    | some slug => " (did you mean '" ++ slug ++ "'?)"
    | none => ""
  line ("    " ++ paint colors .yellow item.text ++ hint)

/-- The lines of the dropped items, under a heading of their own if there are any. -/
def droppedLines (colors : Bool) (items : List DroppedItem) : String :=
  if items.isEmpty then ""
  else line "  Dropped:" ++ String.join (items.map (droppedLine colors))

/-- The explanation in sections. -/
def explanationTable (colors : Bool) (e : Explanation) (columns : Columns) : String :=
  title colors "Resolution" ++
    line ("  Expression: " ++ (e.expression.map Text.quoted).getD "-") ++
    line ("  Directive:  " ++ directiveText e.resolution.directive) ++
    line ("  Include:    " ++ idList e.resolution.included) ++
    line ("  Exclude:    " ++ idList e.resolution.excluded) ++
    droppedLines colors e.dropped ++
    line "" ++
    title colors "Parameters" ++
    parametersTable colors e.parameters ++
    line "" ++
    title colors "Predicates" ++
    predicatesTable colors e.predicates columns

/-- A dropped item as a value. -/
def droppedJson (item : DroppedItem) : Json :=
  .object (("token", .string item.text) ::
    Parameters.optionalField "suggestion" .string item.suggestion)

/-- The explanation as indented JSON. -/
def explanationJson (e : Explanation) (columns : Columns) : String :=
  Json.pretty <| .object
    [("expression", .optional .string e.expression),
      ("directive", Wire.directive e.resolution.directive),
      ("include_ids", .ids e.resolution.included),
      ("exclude_ids", .ids e.resolution.excluded),
      ("dropped", .array (e.dropped.map droppedJson)),
      ("params", e.parameters.toJson),
      ("sql", .object ((e.predicates.clauses columns).map fun (name, clause) =>
        (name.text, .string clause)))]

end Report

end GroupScope
