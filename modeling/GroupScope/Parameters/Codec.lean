import GroupScope.Parameters
import GroupScope.Request
/-!
# Parameters as JSON

Parameters are written as an object with the host's names, without the parts that are unset. They
are read from such an object, whose other fields are ignored, or from a list of the seven values in
their declared order, whose missing tail is unset. In either form, `null` leaves the expression or a
list unset, but a flag must be a truth value.
-/

namespace GroupScope.Parameters

/-- Reads the expression; the exact text `my` is the marker. -/
def groupOfJson? (value : Json) : Except Parameters.Misfit (Option GroupParameter) :=
  match value with
  | .string "my" => .ok (some .my)
  | _ =>
    match Expression.ofJson? value with
    | .ok expression => .ok (expression.map .expression)
    | .error misfit => .error (.expression misfit)

/-- Reads a list of ids. -/
def idsOfJson? (value : Json) : Except Parameters.Misfit (Option (List GroupId)) :=
  (IdList.ofJson? value).mapError .ids

/-- Reads a flag; one that is absent is off. -/
def flagOfJson? : Option Json → Except Parameters.Misfit Bool
  | none => .ok false
  | some (.bool b) => .ok b
  | some found => .error (.flag found)

/-- Reads the fields of an object in the order of their names, so of two faults the one whose name
comes first is reported. -/
def ofFields (fields : List (String × Json)) : Except Parameters.Misfit Parameters := do
  let group ← groupOfJson? (Request.field fields "group")
  let nativeIncluded ← idsOfJson? (Request.field fields "group__in")
  let nativeExcluded ← idsOfJson? (Request.field fields "group__not_in")
  let included ← idsOfJson? (Request.field fields "group_in")
  let withoutGroup ← flagOfJson? (fields.lookup "group_is_none")
  let withGroup ← flagOfJson? (fields.lookup "group_must_exist")
  let excluded ← idsOfJson? (Request.field fields "group_notin")
  pure { group, included, excluded, nativeIncluded, nativeExcluded, withoutGroup, withGroup }

/-- The number of parameters. -/
def arity : Nat := 7

/-- Reads a list of values in declared order. -/
def ofItems (items : List Json) : Except Parameters.Misfit Parameters := do
  let item (i : Nat) : Json := (items[i]?).getD .null
  let group ← groupOfJson? (item 0)
  let included ← idsOfJson? (item 1)
  let excluded ← idsOfJson? (item 2)
  let nativeIncluded ← idsOfJson? (item 3)
  let nativeExcluded ← idsOfJson? (item 4)
  let withoutGroup ← flagOfJson? items[5]?
  let withGroup ← flagOfJson? items[6]?
  if arity < items.length then .error (.length items.length)
  else
    pure { group, included, excluded, nativeIncluded, nativeExcluded, withoutGroup, withGroup }

/-- Reads parameters. -/
def ofJson (value : Json) : Except FilterError Parameters :=
  match value with
  | .object fields => (ofFields fields).mapError .parameters
  | .array items => (ofItems items).mapError .parameters
  | found => .error (.parameters (.shape found))

/-- The parameter for the expression as a value. -/
def groupToJson : GroupParameter → Json
  | .my => .string "my"
  | .expression expression => expression.toJson

/-- A field for a value that is set, and none for one that is unset. -/
def optionalField (name : String) (encode : α → Json) : Option α → List (String × Json)
  | none => []
  | some value => [(name, encode value)]

/-- A field for a flag that is on. -/
def flagField (name : String) (value : Bool) : List (String × Json) :=
  if value then [(name, .bool true)] else []

/-- Writes parameters in declared order. -/
def toJson (p : Parameters) : Json :=
  .object <|
    optionalField "group" groupToJson p.group ++
    optionalField "group_in" .ids p.included ++
    optionalField "group_notin" .ids p.excluded ++
    optionalField "group__in" .ids p.nativeIncluded ++
    optionalField "group__not_in" .ids p.nativeExcluded ++
    flagField "group_is_none" p.withoutGroup ++
    flagField "group_must_exist" p.withGroup

end GroupScope.Parameters
