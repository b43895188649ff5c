import GroupScope.Json
import GroupScope.Keyed
/-!
# Reading JSON text

A text is cut into tokens, and the tokens drive a stack of open arrays and objects. Both passes are
plain recursions on what is left to read. Containers may be nested `maxDepth` deep. Of two fields
with one name the later one counts.

A number without point and exponent is whole when it fits 64 bits (signed below zero, unsigned
above). Every other number is a double: the leading digits that fit an unsigned 64-bit word, as a
double, multiplied or divided by a power of ten, each step rounded to nearest. That is not always
the double nearest to the number: `9.223372036854775e+18` reads as `2 ^ 63`.
-/

namespace GroupScope.Json

/-- How deep arrays and objects may be nested. -/
def maxDepth : Nat := 127

/-- A piece of JSON text. -/
inductive Token where
  /-- The mark that opens an array. -/
  | openArray
  /-- The mark that closes an array. -/
  | closeArray
  /-- The mark that opens an object. -/
  | openObject
  /-- The mark that closes an object. -/
  | closeObject
  /-- The mark between a name and its value. -/
  | colon
  /-- The mark between items or fields. -/
  | comma
  /-- A string; it may turn out to be the name of a field. -/
  | string (value : String)
  /-- Any other value that is no container. -/
  | scalar (value : Json)
  deriving Repr

/-! ## Numbers -/

/-- The greatest power of ten that is used in one step. -/
def maxPower : Nat := 308

/-- A power of ten as a double. -/
def powerOfTen (exponent : Nat) : Binary64 :=
  (Binary64.ofFraction (pow10 exponent) 1).getD .zero

/-- Multiplies or divides a double by a power of ten in steps of at most `maxPower`. The outer
`Option` tells overflow. Division stops early at zero. -/
def scaleByTen (x : Binary64) (exponent : Int) : Option Binary64 :=
  if 0 ≤ exponent then
    if exponent ≤ maxPower then x.mul (powerOfTen exponent.toNat)
    else if x.isZero then some x
    else none
  else if -exponent ≤ maxPower then x.div (powerOfTen (-exponent).toNat)
  else if x.isZero then some x
  else
    match x.div (powerOfTen maxPower) with
    | none => none
    | some y => scaleByTen y (exponent + maxPower)
termination_by (-exponent).toNat
decreasing_by simp only [maxPower] at *; omega

/-- Decimal digits read so far: the leading ones as a word, and whether some were left out. -/
structure Significand where
  /-- The value of the digits that were kept. -/
  value : Nat
  /-- A digit did not fit, and neither it nor any later one is kept. -/
  full : Bool

/-- Appends a digit if it still fits an unsigned 64-bit word. -/
def Significand.push (s : Significand) (digit : Char) : Significand :=
  let value := 10 * s.value + (digit.toNat - '0'.toNat)
  if s.full || pow2 64 ≤ value then { s with full := true } else ⟨value, false⟩

/-- The digits at the start of a text, and the rest. -/
def spanDigits (text : List Char) : List Char × List Char :=
  (text.takeWhile Char.isDigit, text.dropWhile Char.isDigit)

/-- The value of decimal digits. -/
def decimalValue (digits : List Char) : Nat :=
  digits.foldl (fun value c => 10 * value + (c.toNat - '0'.toNat)) 0

/-- The point and the digits after it, if there is a point; a point needs digits. -/
def readFraction : List Char → Option (Option (List Char) × List Char)
  | '.' :: rest =>
    let (digits, rest) := spanDigits rest
    if digits.isEmpty then none else some (some digits, rest)
  | rest => some (none, rest)

/-- The exponent, if there is one; its mark needs digits. -/
def readExponent (text : List Char) : Option (Option Int × List Char) :=
  match text with
  | mark :: rest =>
    if mark == 'e' || mark == 'E' then
      let (negative, rest) :=
        match rest with
        | '-' :: rest => (true, rest)
        | '+' :: rest => (false, rest)
        | _ => (false, rest)
      let (digits, rest) := spanDigits rest
      if digits.isEmpty then none
      else
        let value : Int := decimalValue digits
        some (some (if negative then -value else value), rest)
    else some (none, text)
  | [] => some (none, [])

/-- The double that digits, fraction digits and an exponent stand for; nothing when it is too great.
A digit before the point that does not fit counts as a power of ten, one behind the point is
ignored. -/
def realValue (whole fraction : List Char) (exponent : Int) : Option Binary64 :=
  let start := whole.foldl Significand.push ⟨0, false⟩
  -- Digits before the point that were left out still move the point.
  let keptWhole := (whole.foldl (fun (state : Significand × Nat) c =>
    let next := state.1.push c
    (next, if next.full then state.2 + 1 else state.2)) (⟨0, false⟩, 0)).2
  -- Digits behind the point only count while they fit.
  let (significand, places) := fraction.foldl (fun (state : Significand × Nat) c =>
    let next := state.1.push c
    (next, if next.full then state.2 else state.2 + 1)) (⟨start.value, false⟩, 0)
  if significand.value = 0 then some .zero
  else do
    let x ← Binary64.ofFraction significand.value 1
    scaleByTen x (exponent + keptWhole - places)

/-- The number at the start of a text, and the rest. A leading zero stands alone. -/
def readNumber (text : List Char) : Option (Number × List Char) := do
  let (negative, text) :=
    match text with
    | '-' :: rest => (true, rest)
    | _ => (false, text)
  let (whole, rest) := spanDigits text
  if whole.isEmpty || (whole.head? == some '0' && 1 < whole.length) then none
  else
    let (fraction, rest) ← readFraction rest
    let (exponent, rest) ← readExponent rest
    let value := decimalValue whole
    let isWhole := fraction.isNone && exponent.isNone &&
      (if negative then 0 < value && value ≤ pow2 63 else value < pow2 64)
    if isWhole then
      some (.integer (if negative then -value else value), rest)
    else
      let x ← realValue whole (fraction.getD []) (exponent.getD 0)
      some (.real (if negative then x.neg else x), rest)

/-! ## Strings -/

/-- The value of a hexadecimal digit. -/
def hexValue? (c : Char) : Option Nat :=
  let n := c.toNat
  if c.isDigit then some (n - '0'.toNat)
  else if 'a' ≤ c ∧ c ≤ 'f' then some (n - 'a'.toNat + 10)
  else if 'A' ≤ c ∧ c ≤ 'F' then some (n - 'A'.toNat + 10)
  else none

/-- The value of four hexadecimal digits. -/
def hexUnit? (a b c d : Char) : Option Nat := do
  let a ← hexValue? a
  let b ← hexValue? b
  let c ← hexValue? c
  let d ← hexValue? d
  some (((a * 16 + b) * 16 + c) * 16 + d)

/-- The character that a one-letter escape names. -/
def shortEscape? : Char → Option Char
  | '"' => some '"'
  | '\\' => some '\\'
  | '/' => some '/'
  | 'b' => some '\x08'
  | 'f' => some '\x0c'
  | 'n' => some '\n'
  | 'r' => some '\r'
  | 't' => some '\t'
  | _ => none

/-- The characters of a string up to its closing quote, and the rest. A character beyond the basic
plane may be escaped as a pair of surrogates; a lone surrogate is refused, like a raw control
character. -/
def readString : List Char → Option (List Char × List Char)
  | [] => none
  | '"' :: rest => some ([], rest)
  | '\\' :: 'u' :: a :: b :: c :: d :: rest =>
    match hexUnit? a b c d with
    | none => none
    | some unit =>
      -- The second half of a pair may not stand alone, and the first half needs it.
      if 0xDC00 ≤ unit ∧ unit < 0xE000 then none
      else if 0xD800 ≤ unit ∧ unit < 0xDC00 then
        match rest with
        | '\\' :: 'u' :: a :: b :: c :: d :: rest =>
          match hexUnit? a b c d with
          | none => none
          | some low =>
            if 0xDC00 ≤ low ∧ low < 0xE000 then
              (readString rest).map fun (chars, rest) =>
                (Char.ofNat (0x10000 + (unit - 0xD800) * 0x400 + (low - 0xDC00)) :: chars, rest)
            else none
        | _ => none
      else (readString rest).map fun (chars, rest) => (Char.ofNat unit :: chars, rest)
  | '\\' :: e :: rest =>
    match shortEscape? e with
    | none => none
    | some c => (readString rest).map fun (chars, rest) => (c :: chars, rest)
  | c :: rest =>
    if c.toNat < 0x20 || c == '\\' then none
    else (readString rest).map fun (chars, rest) => (c :: chars, rest)

/-! ## Tokens -/

/-- The text after a word, if the text starts with it. -/
def dropWord : (word text : List Char) → Option (List Char)
  | [], text => some text
  | c :: word, d :: text => if c = d then dropWord word text else none
  | _ :: _, [] => none

/-- One token at the start of a text that does not start with a blank, and the rest. -/
def readToken (text : List Char) : Option (Token × List Char) :=
  match text with
  | [] => none
  | '[' :: rest => some (.openArray, rest)
  | ']' :: rest => some (.closeArray, rest)
  | '\x7b' :: rest => some (.openObject, rest)
  | '\x7d' :: rest => some (.closeObject, rest)
  | ':' :: rest => some (.colon, rest)
  | ',' :: rest => some (.comma, rest)
  | '"' :: rest => (readString rest).map fun (chars, rest) => (.string (String.ofList chars), rest)
  | 'n' :: _ => (dropWord "null".toList text).map fun rest => (.scalar .null, rest)
  | 't' :: _ => (dropWord "true".toList text).map fun rest => (.scalar (.bool true), rest)
  | 'f' :: _ => (dropWord "false".toList text).map fun rest => (.scalar (.bool false), rest)
  | _ => (readNumber text).map fun (n, rest) => (.scalar (.number n), rest)

/-- The blanks of JSON text. -/
def isBlank (c : Char) : Bool := c == ' ' || c == '\t' || c == '\n' || c == '\r'

/-- The tokens of a text. Every token takes at least one character, so there are at most `count` of
them in a text of that length. -/
def readTokens : (count : Nat) → List Char → Option (List Token)
  | count, text =>
    match text.dropWhile isBlank, count with
    | [], _ => some []
    | _ :: _, 0 => none
    | text, count + 1 => do
      let (token, rest) ← readToken text
      let tokens ← readTokens count rest
      some (token :: tokens)

/-! ## Values -/

/-- An array or object that is still open, with what it holds so far. -/
inductive Frame where
  /-- An array; its items so far, the last one first. -/
  | array (itemsReversed : List Json)
  /-- An object; its fields so far, and the name of the field whose value comes next. -/
  | object (fields : List (String × Json)) (name : String)

/-- What may come next. -/
inductive Expectation where
  /-- A value, and nothing else. -/
  | value
  /-- The first item of an array, or its end. -/
  | firstItem
  /-- The first field of an object, or its end. -/
  | firstField
  /-- A field of an object. -/
  | field
  /-- The colon after a field's name. -/
  | colon
  /-- A comma or the end of the open container. -/
  | next
  /-- Nothing: the value is complete. -/
  | finished

/-- The reader between two tokens. -/
structure Reading where
  /-- The open containers, innermost first. -/
  stack : List Frame
  /-- What may come next. -/
  expects : Expectation
  /-- The value read last. -/
  result : Json

/-- Puts a complete value into the innermost container, or makes it the result. -/
def Reading.accept (r : Reading) (value : Json) : Reading :=
  match r.stack with
  | [] => { r with expects := .finished, result := value }
  | .array items :: outer => { r with stack := .array (value :: items) :: outer, expects := .next }
  | .object fields name :: outer =>
    { r with stack := .object (insertByName name value fields) "" :: outer, expects := .next }

/-- Opens a container, unless that nests too deep. -/
def Reading.enter (r : Reading) (frame : Frame) (expects : Expectation) : Option Reading :=
  if r.stack.length < maxDepth then some { r with stack := frame :: r.stack, expects } else none

/-- Closes the innermost container, whose value is complete. -/
def Reading.leave (r : Reading) : Option Reading :=
  match r.stack with
  | [] => none
  | .array items :: outer => some ({ r with stack := outer }.accept (.array items.reverse))
  | .object fields _ :: outer => some ({ r with stack := outer }.accept (.object fields))

/-- The innermost container is an array. -/
def Reading.inArray (r : Reading) : Bool :=
  match r.stack with
  | .array _ :: _ => true
  | _ => false

/-- The innermost container is an object. -/
def Reading.inObject (r : Reading) : Bool :=
  match r.stack with
  | .object _ _ :: _ => true
  | _ => false

/-- Names the next field of the innermost container. -/
def Reading.named (r : Reading) (name : String) : Option Reading :=
  match r.stack with
  | .object fields _ :: outer =>
    some { r with stack := .object fields name :: outer, expects := .colon }
  | _ => none

/-- Takes one token. -/
def Reading.step (r : Reading) (token : Token) : Option Reading :=
  match r.expects, token with
  | .value, .string s | .firstItem, .string s => some (r.accept (.string s))
  | .value, .scalar v | .firstItem, .scalar v => some (r.accept v)
  | .value, .openArray | .firstItem, .openArray => r.enter (.array []) .firstItem
  | .value, .openObject | .firstItem, .openObject => r.enter (.object [] "") .firstField
  | .firstItem, .closeArray => r.leave
  | .firstField, .closeObject => r.leave
  | .firstField, .string s | .field, .string s => r.named s
  | .colon, .colon => some { r with expects := .value }
  | .next, .comma =>
    if r.inArray then some { r with expects := .value }
    else some { r with expects := .field }
  | .next, .closeArray => if r.inArray then r.leave else none
  | .next, .closeObject => if r.inObject then r.leave else none
  | _, _ => none

/-- The value that the text denotes, if it is JSON from end to end. -/
def read (text : String) : Option Json := do
  let chars := text.toList
  let tokens ← readTokens chars.length chars
  let final ← tokens.foldlM Reading.step ⟨[], .value, .null⟩
  match final.expects with
  | .finished => some final.result
  | _ => none

end GroupScope.Json
