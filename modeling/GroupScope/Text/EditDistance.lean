/-!
# Edit distance

The least number of single-character insertions, deletions and replacements that turn one text into
another. It is computed row by row: a row holds the distances from one prefix of the first text to
every prefix of the second.
-/

namespace GroupScope.Text

/-- The rest of a row, from the entry to its left, the entry above left and the entries above. -/
def distanceCells (c : Char) : (left aboveLeft : Nat) → (above : List Nat) → List Char → List Nat
  | left, aboveLeft, up :: above, d :: rest =>
    let replaced := aboveLeft + (if c = d then 0 else 1)
    let cell := min (min (left + 1) (up + 1)) replaced
    cell :: distanceCells c cell up above rest
  | _, _, _, _ => []

/-- The row for a prefix that is one character longer. -/
def distanceRow (second : List Char) (row : List Nat) (c : Char) : List Nat :=
  match row with
  | [] => []
  | first :: above => (first + 1) :: distanceCells c (first + 1) first above second

/-- The edit distance of two texts. -/
def editDistance (first second : List Char) : Nat :=
  ((first.foldl (distanceRow second) (List.range (second.length + 1))).getLast?).getD 0

end GroupScope.Text
