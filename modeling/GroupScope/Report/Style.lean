import GroupScope.Id
/-!
# Terminal style

Reports are plain text in columns. Where colours are on, headings and labels are wrapped in the
escape sequences of a terminal; padding is applied before the wrapping, so columns line up either
way.
-/

namespace GroupScope.Report

/-- How a piece of text stands out. -/
inductive Style where
  /-- Fainter than the rest. -/
  | dimmed
  /-- Heavier than the rest. -/
  | bold
  /-- Cyan letters. -/
  | cyan
  /-- Yellow letters. -/
  | yellow
  /-- Green letters. -/
  | green
  deriving DecidableEq, Repr

/-- The code that switches a style on. -/
def Style.onCode : Style → String
  | .dimmed => "2"
  | .bold => "1"
  | .cyan => "36"
  | .yellow => "33"
  | .green => "32"

/-- The code that switches a style off: a colour is reset alone, a weight resets everything. -/
def Style.offCode : Style → String
  | .dimmed | .bold => "0"
  | .cyan | .yellow | .green => "39"

/-- An escape sequence. -/
def escapeSequence (code : String) : String := "\x1b[" ++ code ++ "m"

/-- The text in a style, where colours are on. -/
def paint (colors : Bool) (style : Style) (text : String) : String :=
  if colors then escapeSequence style.onCode ++ text ++ escapeSequence style.offCode else text

/-- The text with blanks behind it up to a width in characters; longer text stays as it is. -/
def padRight (width : Nat) (text : String) : String :=
  text ++ String.ofList (List.replicate (width - text.length) ' ')

/-- A line of text. -/
def line (text : String) : String := text ++ "\n"

/-- A row of column names. -/
def header (colors : Bool) (text : String) : String := line (paint colors .dimmed text)

/-- The title of a section. -/
def title (colors : Bool) (text : String) : String := line (paint colors .bold text)

/-- Ids separated by commas; a dash for none. -/
def idList (ids : List GroupId) : String :=
  if ids.isEmpty then "-" else String.intercalate ", " (ids.map fun id => toString id.toNat)

/-- Ids separated by commas; a dash for none and for an unset list. -/
def optionalIdList (ids : Option (List GroupId)) : String := (ids.map idList).getD "-"

end GroupScope.Report
