import GroupScope.Json
/-!
# Group expressions

The value of a host's `group` attribute: a text such as `5,-7,book-club`, one whole number, or a
list of texts and whole numbers. Hosts hand it over loosely typed. `null` means that it is not set,
and a number that is no signed 64-bit whole number is taken as its text. Truth values, objects and
nested lists are no expressions.
-/

namespace GroupScope

/-- One item of a list expression. -/
inductive ListItem where
  /-- A slug or number, excluded when it starts with a hyphen. -/
  | text (text : String)
  /-- A number, excluded when it is negative. -/
  | integer (value : Int64)
  deriving DecidableEq, Repr

/-- A group expression before it is resolved. -/
inductive Expression where
  /-- A comma-separated text. -/
  | text (text : String)
  /-- One number. -/
  | integer (value : Int64)
  /-- Items that are already separate. -/
  | list (items : List ListItem)
  deriving DecidableEq, Repr

/-- A value that is no expression, or an item of a list that is none. -/
inductive Expression.Misfit where
  /-- The value itself does not fit. -/
  | value (found : Json)
  /-- An item of the list does not fit. -/
  | item (found : Json)
  deriving Repr

/-- The decimal text of a signed word. -/
def decimalText (value : Int64) : String := toString value.toInt

/-- The item as it is written in a comma-separated text. -/
def ListItem.itemText : ListItem → String
  | .text s => s
  | .integer value => decimalText value

/-- A number as an item. -/
def ListItem.ofNumber (n : Json.Number) : ListItem :=
  match n.toInt64? with
  | some value => .integer value
  | none => .text n.text

/-- A value as an item; `null` is no item. -/
def ListItem.ofJson? : Json → Except Expression.Misfit (Option ListItem)
  | .null => .ok none
  | .string s => .ok (some (.text s))
  | .number n => .ok (some (.ofNumber n))
  | found => .error (.item found)

/-- The items of a list, without the `null`s; the first value that is no item is an error. -/
def ListItem.listOfJson : List Json → Except Expression.Misfit (List ListItem)
  | [] => .ok []
  | value :: rest =>
    match ListItem.ofJson? value with
    | .error misfit => .error misfit
    | .ok none => listOfJson rest
    | .ok (some item) => (listOfJson rest).map (item :: ·)

/-- A number as an expression. -/
def Expression.ofNumber (n : Json.Number) : Expression :=
  match n.toInt64? with
  | some value => .integer value
  | none => .text n.text

/-- A host's value as an expression; `null` is none. -/
def Expression.ofJson? : Json → Except Expression.Misfit (Option Expression)
  | .null => .ok none
  | .string s => .ok (some (.text s))
  | .number n => .ok (some (.ofNumber n))
  | .array items => (ListItem.listOfJson items).map fun items => some (.list items)
  | found => .error (.value found)

/-- An item as a value. -/
def ListItem.toJson : ListItem → Json
  | .text s => .string s
  | .integer value => .integer value.toInt

/-- An expression as a value. -/
def Expression.toJson : Expression → Json
  | .text s => .string s
  | .integer value => .integer value.toInt
  | .list items => .array (items.map ListItem.toJson)

end GroupScope
