import GroupScope.Text.CaseTables
/-!
# Lower case

The lower-case form of a text by the full mapping of the Unicode standard. Two characters need more
than a table: U+0130 becomes two characters, and a capital sigma at the end of a word becomes the
final sigma. A sigma ends a word when a cased letter stands before it and none after it, where
characters without influence on case are skipped on both sides.
-/

namespace GroupScope.Text

/-- The code point belongs to the run. -/
def CaseRun.covers (run : CaseRun) (n : Nat) : Bool :=
  run.low ≤ n && n ≤ run.high && (n - run.low) % run.step == 0

/-- The lower-case form of one character, seen without its neighbours. -/
def lowercaseChar (c : Char) : List Char :=
  if c.toNat == 0x130 then ['i', '\u0307']
  else
    match lowercaseRuns.find? fun run => run.covers c.toNat with
    | some run => [Char.ofNat ((c.toNat : Int) + run.shift).toNat]
    | none => [c]

/-- After the characters without influence on case comes a cased letter. -/
def meetsCased (text : List Char) : Bool :=
  ((text.dropWhile caseIgnorableRanges.contains).head?.map casedRanges.contains).getD false

/-- The lower-case form of a text, given the characters before it in reverse. -/
def lowercaseAfter : (before text : List Char) → List Char
  | _, [] => []
  | before, c :: rest =>
    -- U+03A3 is the capital sigma.
    let form :=
      if c.toNat == 0x3A3 then
        if meetsCased before && !meetsCased rest then ['\u03C2'] else ['\u03C3']
      else lowercaseChar c
    form ++ lowercaseAfter (c :: before) rest

/-- The lower-case form of a text. -/
def lowercase (text : List Char) : List Char := lowercaseAfter [] text

end GroupScope.Text
