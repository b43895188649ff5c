import GroupScope.Number.Numeral
import GroupScope.Toml
/-!
# Blanks, texts and numbers of TOML

Readers for the small pieces of a document. Each takes the text that is left and returns what it
read with the rest, or nothing.
-/

namespace GroupScope.Toml

/-! ## Blanks -/

/-- A blank within a line. -/
def isBlank (c : Char) : Bool := c == ' ' || c == '\t'

/-- A character that may stand in a comment or text: no control character but the tab. -/
def isPlain (c : Char) : Bool := c == '\t' || (0x20 ≤ c.toNat && c.toNat != 0x7F)

/-- The text without its leading blanks. -/
def skipBlanks (text : List Char) : List Char := text.dropWhile isBlank

/-- The text after a line break. -/
def dropLineBreak? : List Char → Option (List Char)
  | '\n' :: rest => some rest
  | '\r' :: '\n' :: rest => some rest
  | _ => none

/-- The text after the comment that starts here, if one does. -/
def skipComment : List Char → List Char
  | '#' :: rest => rest.dropWhile isPlain
  | text => text

/-- The text of the next line, when only blanks and a comment are left on this one. -/
def dropLineEnd? (text : List Char) : Option (List Char) :=
  match skipComment (skipBlanks text) with
  | [] => some []
  | rest => dropLineBreak? rest

/-- Skips blanks, line breaks and comments, which end with their lines. -/
def skipLines (inComment : Bool) : List Char → Option (List Char)
  | [] => if inComment then none else some []
  | '\r' :: '\n' :: rest => skipLines false rest
  | '\n' :: rest => skipLines false rest
  | c :: rest =>
    if inComment then if isPlain c then skipLines true rest else none
    else if isBlank c then skipLines false rest
    else if c == '#' then skipLines true rest
    else some (c :: rest)

/-! ## Texts -/

/-- The value of hexadecimal digits. -/
def hexValue? (digits : List Char) : Option Nat :=
  digits.foldlM (fun value c =>
    let n := c.toNat
    if c.isDigit then some (16 * value + (n - '0'.toNat))
    else if 'a' ≤ c ∧ c ≤ 'f' then some (16 * value + (n - 'a'.toNat + 10))
    else if 'A' ≤ c ∧ c ≤ 'F' then some (16 * value + (n - 'A'.toNat + 10))
    else none) 0

/-- The character with a code point in hexadecimal. -/
def charOfHex? (digits : List Char) : Option Char := do
  let n ← hexValue? digits
  if n.isValidChar then some (Char.ofNat n) else none

/-- The character that a one-letter escape names. -/
def shortEscape? : Char → Option Char
  | 'b' => some '\x08'
  | 't' => some '\t'
  | 'n' => some '\n'
  | 'f' => some '\x0c'
  | 'r' => some '\r'
  | '"' => some '"'
  | '\\' => some '\\'
  | _ => none

/-- Puts a character in front of what a reader read. -/
def cons? (c : Option Char) (rest : Option (List Char × List Char)) :
    Option (List Char × List Char) := do
  let c ← c
  let (chars, rest) ← rest
  some (c :: chars, rest)

/-- A text up to its double quote. -/
def readBasic : List Char → Option (List Char × List Char)
  | [] => none
  | '"' :: rest => some ([], rest)
  | '\\' :: 'u' :: a :: b :: c :: d :: rest => cons? (charOfHex? [a, b, c, d]) (readBasic rest)
  | '\\' :: 'U' :: a :: b :: c :: d :: e :: f :: g :: h :: rest =>
    cons? (charOfHex? [a, b, c, d, e, f, g, h]) (readBasic rest)
  | '\\' :: c :: rest => cons? (shortEscape? c) (readBasic rest)
  | c :: rest => if c != '\\' && isPlain c then cons? (some c) (readBasic rest) else none

/-- A text up to its apostrophe; nothing is escaped. -/
def readLiteral : List Char → Option (List Char × List Char)
  | [] => none
  | '\'' :: rest => some ([], rest)
  | c :: rest => if isPlain c then cons? (some c) (readLiteral rest) else none

/-- The text up to three double quotes; one or two more may stand before them. A backslash at the
end of a line removes the line break and all blanks and line breaks after it; `trimming` says that
we are among those. -/
def readBasicLines (trimming : Bool) : List Char → Option (List Char × List Char)
  | [] => none
  | '"' :: '"' :: '"' :: '"' :: '"' :: rest => some (['"', '"'], rest)
  | '"' :: '"' :: '"' :: '"' :: rest => some (['"'], rest)
  | '"' :: '"' :: '"' :: rest => some ([], rest)
  | '\r' :: '\n' :: rest =>
    if trimming then readBasicLines true rest else cons? (some '\n') (readBasicLines false rest)
  | '\n' :: rest =>
    if trimming then readBasicLines true rest else cons? (some '\n') (readBasicLines false rest)
  | '\\' :: 'u' :: a :: b :: c :: d :: rest =>
    cons? (charOfHex? [a, b, c, d]) (readBasicLines false rest)
  | '\\' :: 'U' :: a :: b :: c :: d :: e :: f :: g :: h :: rest =>
    cons? (charOfHex? [a, b, c, d, e, f, g, h]) (readBasicLines false rest)
  | '\\' :: c :: rest =>
    -- A backslash before the end of the line; blanks may stand between.
    if (dropLineBreak? (skipBlanks (c :: rest))).isSome then readBasicLines true rest
    else cons? (shortEscape? c) (readBasicLines false rest)
  | c :: rest =>
    if trimming && isBlank c then readBasicLines true rest
    else if c != '\\' && isPlain c then cons? (some c) (readBasicLines false rest)
    else none

/-- The text up to three apostrophes; one or two more may stand before them. -/
def readLiteralLines : List Char → Option (List Char × List Char)
  | [] => none
  | '\'' :: '\'' :: '\'' :: '\'' :: '\'' :: rest => some (['\'', '\''], rest)
  | '\'' :: '\'' :: '\'' :: '\'' :: rest => some (['\''], rest)
  | '\'' :: '\'' :: '\'' :: rest => some ([], rest)
  | '\r' :: '\n' :: rest => cons? (some '\n') (readLiteralLines rest)
  | '\n' :: rest => cons? (some '\n') (readLiteralLines rest)
  | c :: rest => if isPlain c then cons? (some c) (readLiteralLines rest) else none

/-- The text without one line break at its start. -/
def skipFirstBreak (text : List Char) : List Char := (dropLineBreak? text).getD text

/-- A text of any of the four forms. -/
def readText : List Char → Option (List Char × List Char)
  | '"' :: '"' :: '"' :: rest => readBasicLines false (skipFirstBreak rest)
  | '"' :: rest => readBasic rest
  | '\'' :: '\'' :: '\'' :: rest => readLiteralLines (skipFirstBreak rest)
  | '\'' :: rest => readLiteral rest
  | _ => none

/-! ## Keys -/

/-- A character of a key without quotes. -/
def isBareKeyChar (c : Char) : Bool := c.isAlphanum || c == '-' || c == '_'

/-- One key. -/
def readKey : List Char → Option (String × List Char)
  | '"' :: rest => (readBasic rest).map fun (chars, rest) => (String.ofList chars, rest)
  | '\'' :: rest => (readLiteral rest).map fun (chars, rest) => (String.ofList chars, rest)
  | text =>
    let chars := text.takeWhile isBareKeyChar
    if chars.isEmpty then none else some (String.ofList chars, text.dropWhile isBareKeyChar)

/-- The most keys that a dotted key may have. -/
def maxKeys : Nat := 79

/-- Keys separated by points, with blanks around each, at most `count` of them. -/
def readKeys : (count : Nat) → List Char → Option (List String × List Char)
  | 0, _ => none
  | count + 1, text => do
    let (key, rest) ← readKey (skipBlanks text)
    match skipBlanks rest with
    | '.' :: rest => do
      let (keys, rest) ← readKeys count rest
      some (key :: keys, rest)
    | rest => some ([key], rest)

/-- A dotted key, as the keys before the last one and the last one. -/
def readPath (text : List Char) : Option ((List String × String) × List Char) := do
  let (keys, rest) ← readKeys maxKeys text
  let last ← keys.getLast?
  some ((keys.dropLast, last), rest)

/-! ## Numbers -/

/-- Digits of a radix, where an underscore may stand between two of them. -/
def readDigits (isDigit : Char → Bool) : List Char → List Char × List Char
  | '_' :: d :: rest =>
    if isDigit d then
      let (digits, rest) := readDigits isDigit rest
      (d :: digits, rest)
    else ([], '_' :: d :: rest)
  | c :: rest =>
    if isDigit c then
      let (digits, rest) := readDigits isDigit rest
      (c :: digits, rest)
    else ([], c :: rest)
  | [] => ([], [])

/-- Digits that start with a digit. -/
def readDigits? (isDigit : Char → Bool) : List Char → Option (List Char × List Char)
  | c :: rest =>
    if isDigit c then
      let (digits, rest) := readDigits isDigit rest
      some (c :: digits, rest)
    else none
  | [] => none

/-- A sign, if there is one. -/
def readSign : List Char → List Char × List Char
  | '+' :: rest => (['+'], rest)
  | '-' :: rest => (['-'], rest)
  | text => ([], text)

/-- The digits of a decimal number; a leading zero stands alone. -/
def readWhole : List Char → Option (List Char × List Char)
  | '0' :: rest => some (['0'], rest)
  | text => readDigits? Char.isDigit text

/-- The value of digits in a radix. -/
def radixValue (radix : Nat) (digits : List Char) : Nat :=
  digits.foldl (fun value c => radix * value + ((hexValue? [c]).getD 0)) 0

/-- A whole number that fits a signed 64-bit word. -/
def wordOf? (value : Int) : Option Node :=
  if -(pow2 63 : Int) ≤ value ∧ value < pow2 63 then some (.integer value) else none

/-- A whole number in another radix, after its mark. -/
def readRadix (radix : Nat) (isDigit : Char → Bool) (text : List Char) :
    Option (Node × List Char) := do
  let (digits, rest) ← readDigits? isDigit text
  let node ← wordOf? (radixValue radix digits)
  some (node, rest)

/-- A digit of a radix up to sixteen. -/
def isRadixDigit (radix : Nat) (c : Char) : Bool := (hexValue? [c]).any (· < radix)

/-- A whole number. -/
def readInteger : List Char → Option (Node × List Char)
  | '0' :: 'x' :: rest => readRadix 16 (isRadixDigit 16) rest
  | '0' :: 'o' :: rest => readRadix 8 (isRadixDigit 8) rest
  | '0' :: 'b' :: rest => readRadix 2 (isRadixDigit 2) rest
  | text => do
    let (sign, rest) := readSign text
    let (digits, rest) ← readWhole rest
    let value : Int := radixValue 10 digits
    let node ← wordOf? (if sign = ['-'] then -value else value)
    some (node, rest)

/-- The exponent of a number, as it is written but for underscores. -/
def readExponent : List Char → Option (List Char × List Char)
  | mark :: rest =>
    if mark == 'e' || mark == 'E' then do
      let (sign, rest) := readSign rest
      let (digits, rest) ← readDigits? Char.isDigit rest
      some ('e' :: sign ++ digits, rest)
    else none
  | [] => none

/-- The fraction of a number, as it is written but for underscores. -/
def readFraction : List Char → Option (List Char × List Char)
  | '.' :: rest => (readDigits? Char.isDigit rest).map fun (digits, rest) => ('.' :: digits, rest)
  | _ => none

/-- A fraction, an exponent, or both. -/
def readFractionOrExponent (text : List Char) : Option (List Char × List Char) :=
  match readFraction text with
  | some (fraction, rest) =>
    match readExponent rest with
    | some (exponent, rest) => some (fraction ++ exponent, rest)
    | none => some (fraction, rest)
  | none => readExponent text

/-- The words for numbers that are not finite. -/
def readSpecial : List Char → Option (List Char × List Char)
  | 'i' :: 'n' :: 'f' :: rest => some (['i', 'n', 'f'], rest)
  | 'n' :: 'a' :: 'n' :: rest => some (['n', 'a', 'n'], rest)
  | _ => none

/-- The numeral is positive and beyond the greatest finite double. -/
def overflows (numeral : List Char) : Bool :=
  let value := Numeral.decimal numeral
  !value.negative && (Binary64.ofDecimal value.digits value.exponent).isNone

/-- A number with a fraction or exponent, or one that is not finite. -/
def readFloat (text : List Char) : Option (Node × List Char) := do
  let (sign, rest) := readSign text
  match readSpecial rest with
  | some (word, rest) => some (.float (String.ofList (sign ++ word)), rest)
  | none =>
    let (whole, rest) ← readWhole rest
    let (tail, rest) ← readFractionOrExponent rest
    let numeral := sign ++ whole ++ tail
    if overflows numeral then none else some (.float (String.ofList numeral), rest)

/-! ## Dates and times -/

/-- Exactly `count` digits, whose value lies between two bounds. -/
def readField (count low high : Nat) (text : List Char) : Option (Nat × List Char) :=
  let digits := text.take count
  let value := radixValue 10 digits
  if digits.length = count && digits.all Char.isDigit && low ≤ value && value ≤ high then
    some (value, text.drop count)
  else none

/-- The text after a character. -/
def dropChar? (c : Char) : List Char → Option (List Char)
  | d :: rest => if c = d then some rest else none
  | [] => none

/-- The number of days of a month. -/
def daysOf (year month : Nat) : Nat :=
  let leap := year % 4 = 0 ∧ (year % 100 ≠ 0 ∨ year % 400 = 0)
  if month = 2 then if leap then 29 else 28
  else if month = 4 ∨ month = 6 ∨ month = 9 ∨ month = 11 then 30
  else 31

/-- The text after a date. -/
def dropDate? (text : List Char) : Option (List Char) := do
  let (year, rest) ← readField 4 0 9999 text
  let rest ← dropChar? '-' rest
  let (month, rest) ← readField 2 1 12 rest
  let rest ← dropChar? '-' rest
  let (_, rest) ← readField 2 1 (daysOf year month) rest
  some rest

/-- The text after a time of day. -/
def dropTime? (text : List Char) : Option (List Char) := do
  let (_, rest) ← readField 2 0 23 text
  let rest ← dropChar? ':' rest
  let (_, rest) ← readField 2 0 59 rest
  let rest ← dropChar? ':' rest
  let (_, rest) ← readField 2 0 60 rest
  match rest with
  | '.' :: fraction =>
    if (fraction.takeWhile Char.isDigit).isEmpty then some rest
    else some (fraction.dropWhile Char.isDigit)
  | _ => some rest

/-- The text after an offset from universal time; nothing when one starts here and is wrong. -/
def dropOffset? : List Char → Option (List Char)
  | c :: rest =>
    if c == 'Z' || c == 'z' then some rest
    else if c == '+' || c == '-' then do
      let (_, rest) ← readField 2 0 23 rest
      let rest ← dropChar? ':' rest
      let (_, rest) ← readField 2 0 59 rest
      some rest
    else some (c :: rest)
  | [] => some []

/-- The text after the time that follows a date, if one does. -/
def dropTimeOfDate? : List Char → Option (List Char)
  | c :: rest =>
    if c == 'T' || c == 't' || c == ' ' then
      match dropTime? rest with
      | some rest => dropOffset? rest
      | none => some (c :: rest)
    else some (c :: rest)
  | [] => some []

/-- A date, a time or both. -/
def readDateTime (text : List Char) : Option (Node × List Char) := do
  let rest ←
    match dropDate? text with
    | some rest => dropTimeOfDate? rest
    | none => dropTime? text
  some (.dateTime (String.ofList (text.take (text.length - rest.length))), rest)

/-- A date, a time or a number. -/
def readNumeric (text : List Char) : Option (Node × List Char) :=
  match readDateTime text with
  | some found => some found
  | none =>
    match readFloat text with
    | some found => some found
    | none => readInteger text

end GroupScope.Toml
