import GroupScope.Number.Numeral
import GroupScope.Text.Words
/-!
# Items of an expression

An item is trimmed; blank items and the item `0` stand for nothing. A leading hyphen excludes, and
what follows it is trimmed again. The rest is a number if it is a numeral, and a slug otherwise, so
a directory is never asked for a slug that looks like a number.
-/

namespace GroupScope

/-- What an item names. -/
inductive Reference where
  /-- A number; without an id when it is not a usable one. -/
  | id (id : Option GroupId)
  /-- A slug. -/
  | slug (slug : String)
  deriving DecidableEq, Repr

/-- One item of an expression. -/
structure Item where
  /-- The trimmed text, hyphen included. -/
  text : String
  /-- The item starts with a hyphen. -/
  excluded : Bool
  /-- What it names. -/
  reference : Reference
  deriving DecidableEq, Repr

/-- What a trimmed text without its hyphen names. -/
def Reference.ofChars (value : List Char) : Reference :=
  if Numeral.isNumeral value then .id (Numeral.groupId? value) else .slug (String.ofList value)

/-- The text after the hyphen, trimmed again, if there is a hyphen. -/
def Item.splitHyphen : List Char → Bool × List Char
  | '-' :: rest => (true, Text.trim rest)
  | text => (false, text)

/-- The item that a piece of text stands for, if it stands for any. -/
def Item.ofChars? (piece : List Char) : Option Item :=
  let text := Text.trim piece
  if text = [] ∨ text = ['0'] then none
  else
    let (excluded, value) := Item.splitHyphen text
    some { text := String.ofList text, excluded, reference := .ofChars value }

/-- The items of separate pieces of text. -/
def Item.ofPieces (pieces : List (List Char)) : List Item := pieces.filterMap Item.ofChars?

/-- The items of a comma-separated text. -/
def Item.ofText (text : List Char) : List Item := Item.ofPieces (Text.splitBy (· == ',') text)

end GroupScope
