import GroupScope.Id
import GroupScope.Number.Shortest
/-!
# JSON values

The values that hosts hand over and get back. Whole numbers and floating point numbers are kept
apart, because `1` and `1.0` are different to every reader of this library. An object is a list of
fields; a reader of JSON text yields them sorted by name and without repetition, so that two texts
that mean the same value give the same object.
-/

namespace GroupScope

/-- A JSON number: a whole number of at most 64 bits, or a double. -/
inductive Json.Number where
  /-- A whole number written without point and exponent. -/
  | integer (value : Int)
  /-- Any other number. -/
  | real (value : Binary64)
  deriving DecidableEq, Repr

/-- A JSON value. -/
inductive Json where
  | null
  | bool (value : Bool)
  | number (value : Json.Number)
  | string (value : String)
  | array (items : List Json)
  /-- A list of named values. -/
  | object (fields : List (String × Json))
  deriving Repr

namespace Json

/-- A whole number as a value. -/
def integer (value : Int) : Json := .number (.integer value)

/-- A natural number as a value. -/
def nat (value : Nat) : Json := .integer value

/-- An id as a value. -/
def id (value : GroupId) : Json := .nat value.toNat

/-- A list of ids as a value. -/
def ids (values : List GroupId) : Json := .array (values.map .id)

/-- A value, or `null` for nothing. -/
def optional (encode : α → Json) (value : Option α) : Json := (value.map encode).getD .null

/-- The text of a number. -/
def Number.text : Number → String
  | .integer value => toString value
  | .real value => value.text

/-- The whole number as an unsigned 64-bit word, if it is one. -/
def Number.toUInt64? : Number → Option UInt64
  | .integer value =>
    if 0 ≤ value ∧ value < pow2 64 then some (UInt64.ofNat value.toNat) else none
  | .real _ => none

/-- The whole number as a signed 64-bit word, if it is one. -/
def Number.toInt64? : Number → Option Int64
  | .integer value =>
    if -(pow2 63 : Int) ≤ value ∧ value < pow2 63 then some (Int64.ofInt value) else none
  | .real _ => none

end Json

end GroupScope
