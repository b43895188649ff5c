import GroupScope.Expression
import GroupScope.Predicate
import GroupScope.Text.Quoted
/-!
# Rejected input

Only input of the wrong shape is rejected. Each error records its cause; the wording is decided
here, in one place.
-/

namespace GroupScope

/-- A value that is no list of ids, or an entry of a list that is no id. -/
inductive IdList.Misfit where
  /-- The value itself does not fit. -/
  | value (found : Json)
  /-- An entry of the list does not fit. -/
  | entry (found : Json)
  deriving Repr

/-- Why a value cannot be read as search parameters. -/
inductive Parameters.Misfit where
  /-- It is neither an object nor a list. -/
  | shape (found : Json)
  /-- It is a list with more items than there are parameters. -/
  | length (count : Nat)
  | expression (misfit : Expression.Misfit)
  | ids (misfit : IdList.Misfit)
  /-- A flag is not a truth value. -/
  | flag (found : Json)
  deriving Repr

/-- Why input was rejected. -/
inductive FilterError where
  | expression (misfit : Expression.Misfit)
  | ids (misfit : IdList.Misfit)
  | request (found : Json)
  /-- Search parameters do not fit. -/
  | parameters (misfit : Parameters.Misfit)
  /-- No fragment has this name. -/
  | unknownName (name : String)
  deriving Repr

/-- The three kinds of errors that callers tell apart. -/
inductive FilterError.Kind where
  | expression
  | request
  | name
  deriving DecidableEq, Repr

/-- The kind of an error. -/
def FilterError.kind : FilterError → FilterError.Kind
  | .expression _ => .expression
  | .ids _ | .request _ | .parameters _ => .request
  | .unknownName _ => .name

/-! ## Wording -/

/-- A value as it is named in an error about expressions and id lists. -/
def Json.description : Json → String
  | .null => "null"
  | .bool b => "boolean " ++ if b then "true" else "false"
  | .number n => "number " ++ n.text
  | .string _ => "string"
  | .array _ => "nested list"
  | .object _ => "object"

/-- A value as it is named where another type was expected. -/
def Json.typeDescription : Json → String
  | .null => "null"
  | .bool b => "boolean `" ++ (if b then "true" else "false") ++ "`"
  | .number (.integer value) => "integer `" ++ toString value ++ "`"
  | .number (.real value) => "floating point `" ++ value.text ++ "`"
  | .string text => "string " ++ Text.quoted text
  | .array _ => "sequence"
  | .object _ => "map"

/-- The wording of an error about an expression. -/
def Expression.Misfit.message (misfit : Expression.Misfit) : String :=
  "invalid group filter input: expected a string or a list of scalars, found " ++
    match misfit with
    | .value found => found.description
    | .item found => "a list containing " ++ found.description

/-- The start of every error about a request. -/
def requestMessage (problem : String) : String := "invalid search request: " ++ problem

/-- The wording of an error about a list of ids. -/
def IdList.Misfit.message : IdList.Misfit → String
  | .value found => requestMessage ("expected an id list, found " ++ found.description)
  | .entry found => requestMessage ("expected an id, found " ++ found.description)

/-- The wording of an error about search parameters. -/
def Parameters.Misfit.message : Parameters.Misfit → String
  | .shape found =>
    "invalid type: " ++ found.typeDescription ++ ", expected struct SearchParameters"
  | .length count =>
    "invalid length " ++ toString count ++ ", expected fewer elements in array"
  | .expression misfit => misfit.message
  | .ids misfit => misfit.message
  | .flag found => "invalid type: " ++ found.typeDescription ++ ", expected a boolean"

/-- The wording of an error. -/
def FilterError.message : FilterError → String
  | .expression misfit => misfit.message
  | .ids misfit => misfit.message
  | .request found => requestMessage ("expected an object, found " ++ found.description)
  | .parameters misfit => requestMessage misfit.message
  | .unknownName name => "unknown predicate name: " ++ name

/-- The fragment name that a text spells. -/
def PredicateName.ofTextOrError (text : String) : Except FilterError PredicateName :=
  match PredicateName.ofText? text with
  | some name => .ok name
  | none => .error (.unknownName text)

end GroupScope
