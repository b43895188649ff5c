/-!
# TOML documents

A document is a table of named nodes. How a table came about decides what may still be added to it:

    header    written as a header; only more lines below that header
    implied   on the way to a header; may get a header of its own once
    dotted    on the way of a dotted key; only more dotted keys
    inline    written between braces; nothing

`descend` walks a path of keys, makes the tables that are missing and changes the last one. It fails
where the path runs into something that is closed to it.
-/

namespace GroupScope.Toml

/-- How a table came about. -/
inductive TableKind where
  /-- By a header of its own. -/
  | header
  /-- On the way to the header of another table. -/
  | implied
  /-- On the way of a dotted key. -/
  | dotted
  /-- As a value between braces. -/
  | inline
  deriving DecidableEq, Repr

/-- A value, a table, or an array of tables. -/
inductive Node where
  | string (value : String)
  /-- A whole number; it fits a signed 64-bit word. -/
  | integer (value : Int)
  /-- Any other number, as it is written. -/
  | float (text : String)
  | boolean (value : Bool)
  /-- A date, a time or both, as it is written. -/
  | dateTime (text : String)
  /-- An array that is written as a value. -/
  | array (items : List Node)
  | table (kind : TableKind) (entries : List (String × Node))
  /-- The tables of one array, each under a header of its own, the last one first. -/
  | tables (tablesReversed : List (List (String × Node)))
  deriving Repr

/-- The content of a table. -/
abbrev Entries := List (String × Node)

namespace Entries

/-- The content with another node under a key that is in use. -/
def replace (entries : Entries) (key : String) (node : Node) : Entries :=
  entries.map fun (other, held) => if other = key then (other, node) else (other, held)

/-- The content with one more node; nothing when the key is in use. -/
def add? (entries : Entries) (key : String) (node : Node) : Option Entries :=
  match entries.lookup key with
  | none => some (entries ++ [(key, node)])
  | some _ => none

end Entries

/-- What is done to the table at the end of a path. -/
abbrev Change := TableKind → Entries → Option Entries

/-- Walks a path from a table and changes the table at its end. Dotted keys may not enter a table
that has a header; nobody enters an inline table. The last table of an array stands for the array,
and there dotted keys may pass. -/
def descend (byDots : Bool) (change : Change) :
    List String → TableKind → Entries → Option Entries
  | [], kind, entries => change kind entries
  | key :: path, _, entries =>
    match entries.lookup key with
    -- Nothing is there yet: the tables on the way are made.
    | none => do
      let kind : TableKind := if byDots then .dotted else .implied
      let inner ← descend byDots change path kind []
      some (entries ++ [(key, .table kind inner)])
    | some (.table kind inner) =>
      if kind = .inline ∨ (byDots ∧ kind = .header) then none
      else do
        let inner ← descend byDots change path kind inner
        some (entries.replace key (.table kind inner))
    | some (.tables (last :: earlier)) => do
      let last ← descend byDots change path .header last
      some (entries.replace key (.tables (last :: earlier)))
    | some _ => none

/-- Adds a value under a dotted key. Only tables that dotted keys made may get more dotted keys. -/
def addValue (path : List String) (key : String) (value : Node) : Change :=
  descend true (fun kind entries =>
    if path.isEmpty = (kind = .dotted : Bool) then none else entries.add? key value) path

/-- Opens a table by its header. -/
def openTable (key : String) : Change := fun _ entries =>
  match entries.lookup key with
  | none => some (entries ++ [(key, .table .header [])])
  | some (.table .implied inner) => some (entries.replace key (.table .header inner))
  | some _ => none

/-- Opens one more table of an array by its header. -/
def openElement (key : String) : Change := fun _ entries =>
  match entries.lookup key with
  | none => some (entries ++ [(key, .tables [[]])])
  | some (.tables earlier) => some (entries.replace key (.tables ([] :: earlier)))
  | some _ => none

end GroupScope.Toml
