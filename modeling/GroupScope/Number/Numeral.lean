import GroupScope.Id
import GroupScope.Number.Binary64
/-!
# Numerals in expressions

An item of an expression is a number when it is a *numeral*: an optional sign, ASCII digits with at
most one point, and an optional exponent. A numeral made of digits alone names the id it spells. Any
other numeral is read as a double first and cut off at the point, so that `5.9` and `0.59e1` both
name group 5 and a fraction that rounds up to the next integer names that integer.
-/

namespace GroupScope.Numeral

/-- The text without one leading sign. -/
def dropSign : List Char → List Char
  | '+' :: rest => rest
  | '-' :: rest => rest
  | text => text

/-- A mark that opens the exponent. -/
def isExponentMark (c : Char) : Bool := c == 'e' || c == 'E'

/-- The text before the first exponent mark, and the text after it if there is one. -/
def splitExponent : List Char → List Char × Option (List Char)
  | [] => ([], none)
  | c :: rest =>
    if isExponentMark c then ([], some rest)
    else
      let (mantissa, exponent) := splitExponent rest
      (c :: mantissa, exponent)

/-- Digits and at most one point, with at least one digit. -/
def isMantissa (text : List Char) : Bool :=
  text.all (fun c => c.isDigit || c == '.') && text.any Char.isDigit && text.count '.' ≤ 1

/-- An optional sign and at least one digit. -/
def isExponent (text : List Char) : Bool :=
  let digits := dropSign text
  !digits.isEmpty && digits.all Char.isDigit

/-- The text is a numeral from end to end. -/
def isNumeral (text : List Char) : Bool :=
  let (mantissa, exponent) := splitExponent (dropSign text)
  isMantissa mantissa && exponent.all isExponent

/-- The value of a string of decimal digits. -/
def digitsValue (digits : List Char) : Nat :=
  digits.foldl (fun value c => 10 * value + (c.toNat - '0'.toNat)) 0

/-- An exponent that has reached this bound is not read any further. It puts the number out of the
range of doubles, unless the mantissa has as many digits to make up for it. -/
def exponentBound : Nat := 65536

/-- The value of the digits of an exponent, as far as they are read. -/
def exponentDigits (digits : List Char) : Nat :=
  digits.foldl (fun value c =>
    if value < exponentBound then 10 * value + (c.toNat - '0'.toNat) else value) 0

/-- The exponent's value: its digits under its sign. -/
def exponentValue : List Char → Int
  | '-' :: digits => -(exponentDigits digits : Int)
  | text => exponentDigits (dropSign text)

/-- A numeral's value as a sign, decimal digits and a power of ten. -/
structure Decimal where
  /-- The numeral starts with a minus sign. -/
  negative : Bool
  /-- All digits of the mantissa, read without the point. -/
  digits : Nat
  /-- The power of ten that puts the point back. -/
  exponent : Int
  deriving DecidableEq, Repr

/-- What a numeral says: its sign, its digits and where the point goes. -/
def decimal (text : List Char) : Decimal :=
  let (mantissa, exponent) := splitExponent (dropSign text)
  let fraction := (mantissa.dropWhile (· != '.')).drop 1
  { negative := text.head? == some '-'
    digits := digitsValue (mantissa.filter (· != '.'))
    exponent := (exponent.map exponentValue).getD 0 - fraction.length }

/-- The text without one leading plus sign. -/
def dropPlus : List Char → List Char
  | '+' :: rest => rest
  | text => text

/-- The id that a numeral names: its value cut off at the point, if that is a usable id. -/
def groupId? (text : List Char) : Option GroupId :=
  let plain := dropPlus text
  -- Digits alone are exact up to the bound; all else passes through a double.
  if plain.all Char.isDigit then GroupId.ofNat? (digitsValue plain)
  else
    let value := decimal text
    if value.negative then none
    else (Binary64.ofDecimal value.digits value.exponent).bind fun x => GroupId.ofNat? x.truncate

end GroupScope.Numeral
