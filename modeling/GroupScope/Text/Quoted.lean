import GroupScope.Text.Unprintable
/-!
# Quoted text

Text in diagnostics stands between double quotes. Quotes, backslashes and the commonest control
characters are escaped by a letter, everything else that cannot be shown by its code point, so a
quoted text is one line of printable characters whatever it quotes.
-/

namespace GroupScope.Text

/-- A character by its code point in hexadecimal, without leading zeros. -/
def codePointEscape (c : Char) : List Char :=
  ['\\', 'u', '\x7b'] ++ Nat.toDigits 16 c.toNat ++ ['\x7d']

/-- A character as it stands in quoted text. -/
def quotedChar (c : Char) : List Char :=
  match c with
  | '"' => ['\\', '"']
  | '\\' => ['\\', '\\']
  | '\n' => ['\\', 'n']
  | '\r' => ['\\', 'r']
  | '\t' => ['\\', 't']
  | '\x00' => ['\\', '0']
  | _ => if isUnprintable c then codePointEscape c else [c]

/-- A text between double quotes, with escapes. -/
def quoted (text : String) : String :=
  String.ofList ('"' :: (text.toList.flatMap quotedChar ++ ['"']))

end GroupScope.Text
