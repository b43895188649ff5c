import GroupScope.Error
import GroupScope.Expression.Item
import GroupScope.Expression.Resolution
/-!
# Requests

A host hands over the attributes of a search request as one object. Three of them matter here: the
group expression and the two native id lists. Id lists are read leniently: an entry that is no
positive number becomes zero, and whoever uses the list decides what zero means.
-/

namespace GroupScope

/-! ## Id lists -/

/-- The id that a text stands for; zero when it is no usable number. -/
def IdList.idOfChars (text : List Char) : GroupId :=
  let trimmed := Text.trim text
  if Numeral.isNumeral trimmed then (Numeral.groupId? trimmed).getD 0 else 0

/-- The id that a number stands for. A fraction is cut off, and zero stands for everything below one
and for doubles that no signed word holds. -/
def IdList.idOfNumber (n : Json.Number) : GroupId :=
  match n with
  | .integer _ => n.toUInt64?.getD 0
  | .real x => if x.negative then 0 else (GroupId.ofNat? x.truncate).getD 0

/-- The id that an entry of a list stands for. -/
def IdList.entryOfJson : Json → Except IdList.Misfit GroupId
  | .null => .ok 0
  | .number n => .ok (IdList.idOfNumber n)
  | .string text => .ok (IdList.idOfChars text.toList)
  | found => .error (.entry found)

/-- The ids of the entries of a list; the first entry that is none is an error. -/
def IdList.entriesOfJson : List Json → Except IdList.Misfit (List GroupId)
  | [] => .ok []
  | value :: rest =>
    match IdList.entryOfJson value with
    | .error misfit => .error misfit
    | .ok id => (entriesOfJson rest).map (id :: ·)

/-- The pieces of a comma-separated list that are not blank. -/
def IdList.pieces (text : List Char) : List (List Char) :=
  (Text.splitBy (· == ',') text).filter fun piece => !(Text.trim piece).isEmpty

/-- A host's value as a list of ids; `null` is none. A single number is a list of one. -/
def IdList.ofJson? : Json → Except IdList.Misfit (Option (List GroupId))
  | .null => .ok none
  | .array entries => (IdList.entriesOfJson entries).map some
  | .string text => .ok (some ((IdList.pieces text.toList).map IdList.idOfChars))
  | .number n => .ok (some [IdList.idOfNumber n])
  | found => .error (.value found)

/-! ## Attributes -/

/-- The attributes of a search request that concern groups. -/
structure Request where
  /-- The group expression, if it is set. -/
  expression : Option Expression := none
  /-- The native lists that are set. -/
  native : NativeLists := {}
  deriving DecidableEq, Repr

namespace Request

/-- The attribute that holds the expression. -/
def expressionKey : String := "group"

/-- The attribute that holds the native inclusion list. -/
def includedKey : String := "group__in"

/-- The attribute that holds the native exclusion list. -/
def excludedKey : String := "group__not_in"

/-- The request with another expression. -/
def withExpression (request : Request) (expression : Expression) : Request :=
  { request with expression := some expression }

/-- The request with another native inclusion list. -/
def withIncluded (request : Request) (ids : List GroupId) : Request :=
  { request with native := { request.native with included := some ids } }

/-- The request with another native exclusion list. -/
def withExcluded (request : Request) (ids : List GroupId) : Request :=
  { request with native := { request.native with excluded := some ids } }

/-- The value of a field; a field that is absent counts as `null`. -/
def field (fields : List (String × Json)) (name : String) : Json :=
  (fields.lookup name).getD .null

/-- The native lists among the fields of an object. -/
def nativeOfFields (fields : List (String × Json)) : Except IdList.Misfit NativeLists := do
  let included ← IdList.ofJson? (field fields includedKey)
  let excluded ← IdList.ofJson? (field fields excludedKey)
  pure { included, excluded }

/-- A host's object as a request. Other attributes are ignored. The expression is read first. -/
def ofJson : Json → Except FilterError Request
  | .object fields => do
    let expression ← (Expression.ofJson? (field fields expressionKey)).mapError .expression
    let native ← (nativeOfFields fields).mapError .ids
    pure { expression, native }
  | found => .error (.request found)

end Request

end GroupScope
