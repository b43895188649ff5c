/-!
# Character classes

Two classes of Unicode characters decide how expressions are cleaned and split: *blank* characters
(the property White_Space) and *control* characters (general category Cc). They overlap only in the
line breaks, the tab and U+0085: the separators U+001C to U+001F are control characters that are not
blank, and the no-break space is blank without being a control character.
-/

namespace GroupScope.Text

/-- A set of characters as a list of closed ranges of code points. -/
abbrev Ranges := List (Nat × Nat)

/-- The character's code point lies in one of the ranges. -/
def Ranges.contains (ranges : Ranges) (c : Char) : Bool :=
  ranges.any fun (low, high) => low ≤ c.toNat && c.toNat ≤ high

/-- The code points with the property White_Space. -/
def blankRanges : Ranges :=
  [(0x9, 0xD), (0x20, 0x20), (0x85, 0x85), (0xA0, 0xA0), (0x1680, 0x1680), (0x2000, 0x200A),
    (0x2028, 0x2029), (0x202F, 0x202F), (0x205F, 0x205F), (0x3000, 0x3000)]

/-- The character has the property White_Space. -/
def isBlank (c : Char) : Bool := blankRanges.contains c

/-- The code points of general category Cc: both control blocks and DEL between them. -/
def controlRanges : Ranges := [(0x0, 0x1F), (0x7F, 0x9F)]

/-- The character is a control character. -/
def isControl (c : Char) : Bool := controlRanges.contains c

/-- Membership in a set of ranges, as a statement about the code point. -/
theorem Ranges.contains_eq_true_iff {ranges : Ranges} {c : Char} :
    ranges.contains c = true ↔ ∃ r ∈ ranges, r.1 ≤ c.toNat ∧ c.toNat ≤ r.2 := by
  simp [Ranges.contains, List.any_eq_true, Prod.exists]

end GroupScope.Text
