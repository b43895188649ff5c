import GroupScope.Text.Class
/-!
# Trimming, splitting and cleaning text

Text is taken apart as a list of characters. `splitBy` cuts at every separator and keeps the empty
pieces, `words` cuts at blanks and drops them, and `clean` is the canonical form of an expression:
control characters are removed first (line breaks and other blank ones count as blanks), then runs
of blanks become one space and the ends are trimmed.
-/

namespace GroupScope.Text

/-- The text without its leading blanks. -/
def trimStart (s : List Char) : List Char := s.dropWhile isBlank

/-- The text without its trailing blanks. -/
def trimEnd : List Char → List Char
  | [] => []
  | c :: rest =>
    match trimEnd rest with
    | [] => if isBlank c then [] else [c]
    | d :: kept => c :: d :: kept

/-- The text without the blanks at either end. -/
def trim (s : List Char) : List Char := trimEnd (trimStart s)

/-- Cuts a text at every separator. Empty pieces are kept, so `n` separators give `n + 1` pieces. -/
def splitBy (isSeparator : Char → Bool) : List Char → List (List Char)
  | [] => [[]]
  | c :: rest =>
    if isSeparator c then [] :: splitBy isSeparator rest
    else
      match splitBy isSeparator rest with
      | [] => [[c]]
      | piece :: pieces => (c :: piece) :: pieces

/-- The maximal runs of characters that are not blank. -/
def words (s : List Char) : List (List Char) :=
  (splitBy isBlank s).filter fun piece => !piece.isEmpty

/-- Joins pieces with a separator between neighbours. -/
def join (separator : List Char) (pieces : List (List Char)) : List Char :=
  separator.intercalate pieces

/-- The canonical form of an expression: no control characters, words one space apart. -/
def clean (s : List Char) : List Char :=
  join [' '] (words (s.filter fun c => isBlank c || !isControl c))

end GroupScope.Text
