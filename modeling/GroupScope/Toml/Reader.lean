import GroupScope.Toml.Scalar
/-!
# Reading TOML documents

A document is read line by line: blank lines, comments, headers and keys with values. The readers of
values and lines count down a bound that exceeds the number of steps the text admits, because every
value and every line takes at least one character.
-/

namespace GroupScope.Toml

/-- How deep arrays and inline tables may be nested. -/
def maxDepth : Nat := 79

mutual

/-- A value. -/
def readValue : (steps depth : Nat) → List Char → Option (Node × List Char)
  | 0, _, _ => none
  | steps + 1, depth, text =>
    match text with
    | [] => none
    | c :: rest =>
      if c == '"' || c == '\'' then
        (readText text).map fun (chars, rest) => (.string (String.ofList chars), rest)
      -- Containers use up one level of depth.
      else if c == '[' then
        match depth with
        | 0 => none
        | depth + 1 => do
          let (items, rest) ← readItems steps depth rest
          some (.array items, rest)
      else if c == '\x7b' then
        match depth with
        | 0 => none
        | depth + 1 =>
          match skipBlanks rest with
          | '\x7d' :: rest => some (.table .inline [], rest)
          | rest => do
            let (entries, rest) ← readEntries steps depth [] rest
            some (.table .inline entries, rest)
      else
        match text with
        | 't' :: 'r' :: 'u' :: 'e' :: rest => some (.boolean true, rest)
        | 'f' :: 'a' :: 'l' :: 's' :: 'e' :: rest => some (.boolean false, rest)
        | _ => readNumeric text

/-- The items of an array and its closing bracket. A comma may follow the last item. -/
def readItems : (steps depth : Nat) → List Char → Option (List Node × List Char)
  | 0, _, _ => none
  | steps + 1, depth, text => do
    let text ← skipLines false text
    match text with
    | ']' :: rest => some ([], rest)
    | _ =>
      let (item, rest) ← readValue steps depth text
      let rest ← skipLines false rest
      match rest with
      | ',' :: rest => do
        let (items, rest) ← readItems steps depth rest
        some (item :: items, rest)
      | ']' :: rest => some ([item], rest)
      | _ => none

/-- The entries of an inline table that is not empty, and its closing brace. -/
def readEntries : (steps depth : Nat) → Entries → List Char → Option (Entries × List Char)
  | 0, _, _, _ => none
  | steps + 1, depth, entries, text => do
    let ((path, key), rest) ← readPath text
    let rest ← dropChar? '=' rest
    let (value, rest) ← readValue steps depth (skipBlanks rest)
    let entries ← addValue path key value .inline entries
    match skipBlanks rest with
    | ',' :: rest => readEntries steps depth entries rest
    | '\x7d' :: rest => some (entries, rest)
    | _ => none

end

/-- The reader between two lines. -/
structure Document where
  /-- What was read so far. -/
  root : Entries := []
  /-- The keys of the header that the next lines belong to. -/
  header : List String := []

/-- The table of a header, and the rest. -/
def Document.readHeader (document : Document) (openIt : String → Change) (text : List Char) :
    Option (Document × List Char) := do
  let ((path, key), rest) ← readPath text
  let root ← descend false (openIt key) path .header document.root
  some ({ root, header := path ++ [key] }, rest)

/-- Takes the header that starts after its first bracket, and the end of its line. -/
def Document.takeHeader (document : Document) (text : List Char) : Option (Document × List Char) :=
  match text with
  | '[' :: text => do
    let (document, rest) ← document.readHeader openElement text
    let rest ← dropChar? ']' rest
    let rest ← dropChar? ']' rest
    let rest ← dropLineEnd? rest
    some (document, rest)
  | _ => do
    let (document, rest) ← document.readHeader openTable text
    let rest ← dropChar? ']' rest
    let rest ← dropLineEnd? rest
    some (document, rest)

/-- Takes a key with its value, and the end of the line. -/
def Document.takeValue (document : Document) (text : List Char) :
    Option (Document × List Char) := do
  let ((path, key), rest) ← readPath text
  let rest ← dropChar? '=' rest
  let (value, rest) ← readValue (2 * rest.length + 2) maxDepth (skipBlanks rest)
  let rest ← dropLineEnd? rest
  let root ← descend false (addValue path key value) document.header .header document.root
  some ({ document with root }, rest)

/-- Takes one line that is not blank. -/
def Document.takeLine (document : Document) (text : List Char) : Option (Document × List Char) :=
  match text with
  | '[' :: rest => document.takeHeader rest
  | '#' :: _ => (dropLineEnd? text).map fun rest => (document, rest)
  | _ =>
    match dropLineBreak? text with
    | some rest => some (document, rest)
    | none => document.takeValue text

/-- Takes all lines. -/
def Document.takeLines : (count : Nat) → Document → List Char → Option Document
  | count, document, text =>
    match skipBlanks text, count with
    | [], _ => some document
    | _ :: _, 0 => none
    | text, count + 1 => do
      let (document, rest) ← document.takeLine text
      document.takeLines count rest

/-- The text without a byte order mark. -/
def dropMark : List Char → List Char
  | '\ufeff' :: rest => rest
  | text => text

/-- The document that a text denotes, if it is one. -/
def read (text : String) : Option Entries :=
  let chars := dropMark text.toList
  (Document.takeLines chars.length {} chars).map Document.root

end GroupScope.Toml
