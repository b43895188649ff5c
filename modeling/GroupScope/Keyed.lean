/-!
# Named values in order

A list of named values that is sorted by name and names nothing twice. Names are compared by their
code points, which is the order of their UTF-8 bytes. What was inserted under a name is found there,
and nothing else changes:

    (t.insert n v).lookup m = if m = n then some v else t.lookup m
-/

namespace GroupScope

/-- The names strictly increase, so none occurs twice. -/
def SortedByName (entries : List (String × α)) : Prop := entries.Pairwise fun a b => a.1 < b.1

/-- Puts a value under a name into its place; a value of the same name is replaced. -/
def insertByName (name : String) (value : α) : List (String × α) → List (String × α)
  | [] => [(name, value)]
  | (other, held) :: rest =>
    if name < other then (name, value) :: (other, held) :: rest
    else if name = other then (name, value) :: rest
    else (other, held) :: insertByName name value rest

/-- Inserting brings in no other name. -/
theorem fst_of_mem_insertByName {name : String} {value : α} {entries : List (String × α)}
    {entry : String × α} (h : entry ∈ insertByName name value entries) :
    entry.1 = name ∨ entry ∈ entries := by
  induction entries with
  | nil => simp only [insertByName, List.mem_singleton] at h; exact .inl (h ▸ rfl)
  | cons first rest ih =>
    obtain ⟨other, held⟩ := first
    unfold insertByName at h
    split at h
    · rcases List.mem_cons.1 h with h | h
      · exact .inl (h ▸ rfl)
      · exact .inr h
    · split at h
      · rcases List.mem_cons.1 h with h | h
        · exact .inl (h ▸ rfl)
        · exact .inr (List.mem_cons_of_mem _ h)
      · rcases List.mem_cons.1 h with h | h
        · exact .inr (h ▸ List.mem_cons_self)
        · exact (ih h).imp id (List.mem_cons_of_mem _)

/-- Inserting keeps the order. -/
theorem sortedByName_insertByName (name : String) (value : α) {entries : List (String × α)}
    (h : SortedByName entries) : SortedByName (insertByName name value entries) := by
  induction entries with
  | nil => exact List.pairwise_singleton ..
  | cons first rest ih =>
    obtain ⟨other, held⟩ := first
    have ⟨above, tail⟩ := List.pairwise_cons.1 h
    unfold insertByName
    split
    · next before =>
      refine List.pairwise_cons.2 ⟨fun entry mem => ?_, h⟩
      rcases List.mem_cons.1 mem with rfl | mem
      · exact before
      · exact String.lt_trans before (above entry mem)
    · next notBefore =>
      split
      · next same => exact List.pairwise_cons.2 ⟨fun entry mem => same ▸ above entry mem, tail⟩
      · next differs =>
        refine List.pairwise_cons.2 ⟨fun entry mem => ?_, ih tail⟩
        rcases fst_of_mem_insertByName mem with named | mem
        · have behind : ¬ name ≤ other := fun le =>
            differs (String.le_antisymm le (String.not_lt.1 notBefore))
          show other < entry.1
          rw [named]
          exact Decidable.byContradiction fun h => behind (String.not_lt.1 h)
        · exact above entry mem

/-- The first entry decides about its own name. -/
theorem lookup_entry (name other : String) (value : α) (rest : List (String × α)) :
    ((name, value) :: rest).lookup other =
      if other = name then some value else rest.lookup other := by
  by_cases h : other = name
  · subst h; simp
  · have : (other == name) = false := by simpa using h
    simp [List.lookup_cons, this, h]

/-- The inserted value is found under its name, and other names keep theirs. -/
theorem lookup_insertByName (name other : String) (value : α) (entries : List (String × α)) :
    (insertByName name value entries).lookup other =
      if other = name then some value else entries.lookup other := by
  induction entries with
  | nil => rw [insertByName, lookup_entry]
  | cons first rest ih =>
    obtain ⟨here, held⟩ := first
    unfold insertByName
    split
    · rw [lookup_entry]
    · split
      · next same =>
        subst same
        rw [lookup_entry, lookup_entry]
        by_cases h : other = name <;> simp [h]
      · next differs =>
        rw [lookup_entry, lookup_entry, ih]
        by_cases h : other = here
        · have : other ≠ name := fun same => differs (same ▸ h)
          simp [h, h ▸ this]
        · simp [h]

/-- Named values, sorted by name. -/
structure Keyed (α : Type) where
  /-- The names with their values. -/
  entries : List (String × α)
  /-- They are sorted. -/
  sorted : SortedByName entries
  deriving DecidableEq, Repr

namespace Keyed

/-- No values. -/
def empty : Keyed α := ⟨[], .nil⟩

/-- The value under a name. -/
def lookup (values : Keyed α) (name : String) : Option α := values.entries.lookup name

/-- The values with one more, which replaces a value of the same name. -/
def insert (values : Keyed α) (name : String) (value : α) : Keyed α :=
  ⟨insertByName name value values.entries, sortedByName_insertByName name value values.sorted⟩

/-- The named values of a list, where the last value of a name counts. -/
def ofList (entries : List (String × α)) : Keyed α :=
  entries.foldl (fun values (name, value) => values.insert name value) empty

/-- The names in order. -/
def names (values : Keyed α) : List String := values.entries.map Prod.fst

/-- The inserted value is found under its name, and other names keep theirs. -/
theorem lookup_insert (values : Keyed α) (name other : String) (value : α) :
    (values.insert name value).lookup other =
      if other = name then some value else values.lookup other :=
  lookup_insertByName name other value values.entries

/-- The names strictly increase. -/
theorem pairwise_names (values : Keyed α) : values.names.Pairwise (· < ·) :=
  List.pairwise_map.2 values.sorted

end Keyed

end GroupScope
