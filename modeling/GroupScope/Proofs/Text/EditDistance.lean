import Mathlib.Order.Bounds.Defs
import Mathlib.Order.Bounds.Basic
import GroupScope.Text.EditDistance
/-!
# The least number of edits

The distance of two texts is computed row by row, and no edit is made on the way. Here it is tied to
edits: one text becomes the other in as many steps as the distance says, each of which inserts,
deletes or replaces a single character, and not in fewer.

    IsLeast {n | EditedIn n s t} (editDistance s t)

Edits are followed from the front of the texts by `frontDistance`, while rows grow towards the end.
The two meet because texts may be reversed: edits of the one are edits of the other.
-/

namespace GroupScope.Text

/-! ## §1. Edits. -/

/-- One character is inserted, deleted or replaced. -/
inductive Edit : List Char → List Char → Prop
  | insert (c : Char) (s : List Char) : Edit s (c :: s)
  | delete (c : Char) (s : List Char) : Edit (c :: s) s
  | replace (c d : Char) (s : List Char) : Edit (c :: s) (d :: s)
  /-- The edit happens further back. -/
  | behind (c : Char) {s t : List Char} (h : Edit s t) : Edit (c :: s) (c :: t)

/-- The first text becomes the second in so many edits. -/
inductive EditedIn : Nat → List Char → List Char → Prop
  | nothing (s : List Char) : EditedIn 0 s s
  | more {n : Nat} {s t u : List Char} (h : EditedIn n s t) (hedit : Edit t u) :
      EditedIn (n + 1) s u

variable {s t u : List Char} {n : Nat}

namespace Edit

theorem append_left (h : Edit s t) : ∀ before : List Char, Edit (before ++ s) (before ++ t)
  | [] => h
  | c :: before => .behind c (h.append_left before)

theorem append_right (h : Edit s t) (after : List Char) : Edit (s ++ after) (t ++ after) := by
  induction h with
  | insert c s => exact .insert c (s ++ after)
  | delete c s => exact .delete c (s ++ after)
  | replace c d s => exact .replace c d (s ++ after)
  | behind c _ ih => exact .behind c ih

/-- What is an edit from the front is one from the end. -/
theorem reverse (h : Edit s t) : Edit s.reverse t.reverse := by
  induction h with
  | insert c s =>
    have hedit := (insert c []).append_left s.reverse
    rwa [List.append_nil, ← List.reverse_cons] at hedit
  | delete c s =>
    have hedit := (delete c []).append_left s.reverse
    rwa [List.append_nil, ← List.reverse_cons] at hedit
  | replace c d s =>
    rw [List.reverse_cons, List.reverse_cons]
    exact (replace c d []).append_left s.reverse
  | behind c _ ih =>
    rw [List.reverse_cons, List.reverse_cons]
    exact ih.append_right [c]

end Edit

namespace EditedIn

/-- An edit may also come first. -/
theorem head (hedit : Edit s t) (h : EditedIn n t u) : EditedIn (n + 1) s u := by
  induction h with
  | nothing t => exact .more (.nothing s) hedit
  | more _ hlast ih => exact .more (ih hedit) hlast

theorem behind (c : Char) (h : EditedIn n s t) : EditedIn n (c :: s) (c :: t) := by
  induction h with
  | nothing s => exact .nothing (c :: s)
  | more _ hlast ih => exact .more ih (.behind c hlast)

theorem reverse (h : EditedIn n s t) : EditedIn n s.reverse t.reverse := by
  induction h with
  | nothing s => exact .nothing s.reverse
  | more _ hlast ih => exact .more ih hlast.reverse

theorem min {m : Nat} (hn : EditedIn n s t) (hm : EditedIn m s t) : EditedIn (Min.min n m) s t := by
  rcases Nat.le_total n m with h | h
  · rwa [Nat.min_eq_left h]
  · rwa [Nat.min_eq_right h]

theorem of_nil : ∀ t : List Char, EditedIn t.length [] t
  | [] => .nothing []
  | c :: t => .more (of_nil t) (.insert c t)

theorem to_nil : ∀ s : List Char, EditedIn s.length s []
  | [] => .nothing []
  | c :: s => (to_nil s).head (.delete c s)

end EditedIn

/-! ## §2. The distance from the front. -/

/-- The distance by the first characters: the second text gains one, the first loses one, or the two
first characters are matched. -/
def frontDistance : List Char → List Char → Nat
  | [], t => t.length
  | c :: s, [] => (c :: s).length
  | c :: s, d :: t =>
    min (min (frontDistance (c :: s) t + 1) (frontDistance s (d :: t) + 1))
      (frontDistance s t + if c = d then 0 else 1)
termination_by s t => s.length + t.length

theorem frontDistance_nil_left (t : List Char) : frontDistance [] t = t.length := by
  rw [frontDistance]

theorem frontDistance_nil_right (s : List Char) : frontDistance s [] = s.length := by
  cases s <;> rw [frontDistance]

theorem frontDistance_cons (c d : Char) (s t : List Char) :
    frontDistance (c :: s) (d :: t) =
      min (min (frontDistance (c :: s) t + 1) (frontDistance s (d :: t) + 1))
        (frontDistance s t + if c = d then 0 else 1) := by
  rw [frontDistance]

/-- As many edits suffice. -/
theorem editedIn_frontDistance (s t : List Char) : EditedIn (frontDistance s t) s t := by
  induction s, t using frontDistance.induct with
  | case1 t =>
    rw [frontDistance_nil_left]
    exact .of_nil t
  | case2 c s =>
    rw [frontDistance_nil_right]
    exact .to_nil (c :: s)
  | case3 c s d t hgain hlose hmatch =>
    have hmatched : EditedIn (frontDistance s t + if c = d then 0 else 1) (c :: s) (d :: t) := by
      by_cases hsame : c = d
      · rw [if_pos hsame, ← hsame]
        exact hmatch.behind c
      · rw [if_neg hsame]
        exact .more (hmatch.behind c) (.replace c d t)
    rw [frontDistance_cons]
    exact ((EditedIn.more hgain (.insert d t)).min (hlose.head (.delete c s))).min hmatched

theorem frontDistance_self (s : List Char) : frontDistance s s = 0 := by
  induction s with
  | nil => exact frontDistance_nil_left []
  | cons c s ih =>
    rw [frontDistance_cons, if_pos rfl]
    omega

theorem frontDistance_cons_le (c : Char) (s t : List Char) :
    frontDistance (c :: s) t ≤ frontDistance s t + 1 := by
  cases t with
  | nil => simp only [frontDistance_nil_right, List.length_cons, le_refl]
  | cons d t =>
    rw [frontDistance_cons]
    omega

/-- **One edit changes the distance by one at most.** -/
theorem frontDistance_le_of_edit (h : Edit t u) (s : List Char) :
    frontDistance s u ≤ frontDistance s t + 1 := by
  -- Of the first text, the first character may be lost before the edited one is reached.
  induction h generalizing s with
  | insert c t =>
    cases s with
    | nil => simp only [frontDistance_nil_left, List.length_cons, le_refl]
    | cons a s =>
      rw [frontDistance_cons]
      omega
  | delete c t =>
    induction s with
    | nil =>
      simp only [frontDistance_nil_left, List.length_cons]
      omega
    | cons a s ih =>
      have hlose := frontDistance_cons_le a s t
      rw [frontDistance_cons]
      omega
  | replace c d t =>
    induction s with
    | nil => simp only [frontDistance_nil_left, List.length_cons, Nat.le_succ]
    | cons a s ih =>
      rw [frontDistance_cons, frontDistance_cons]
      split <;> omega
  | @behind c t u _ ih =>
    induction s with
    | nil =>
      have hlength := ih []
      simp only [frontDistance_nil_left] at hlength
      simp only [frontDistance_nil_left, List.length_cons]
      omega
    | cons a s ihs =>
      have hgain := ih (a :: s)
      have hmatch := ih s
      rw [frontDistance_cons, frontDistance_cons]
      omega

/-- Fewer edits do not suffice. -/
theorem frontDistance_le_of_editedIn (h : EditedIn n s t) : frontDistance s t ≤ n := by
  induction h with
  | nothing s => exact (frontDistance_self s).le
  | more _ hedit ih => exact (frontDistance_le_of_edit hedit _).trans (Nat.succ_le_succ ih)

theorem isLeast_frontDistance (s t : List Char) :
    IsLeast {n | EditedIn n s t} (frontDistance s t) :=
  ⟨editedIn_frontDistance s t, fun _ => frontDistance_le_of_editedIn⟩

theorem frontDistance_reverse (s t : List Char) :
    frontDistance s.reverse t.reverse = frontDistance s t := by
  apply le_antisymm
  · exact frontDistance_le_of_editedIn (editedIn_frontDistance s t).reverse
  · have hedits := (editedIn_frontDistance s.reverse t.reverse).reverse
    rw [List.reverse_reverse, List.reverse_reverse] at hedits
    exact frontDistance_le_of_editedIn hedits

/-! ## §3. Rows. -/

/-- The entries of a row behind those that are done: the distances of one text to another that grows
by the given characters. Both texts are reversed, so they grow in front. -/
def rowEntries (s : List Char) : (t : List Char) → List Char → List Nat
  | _, [] => []
  | t, d :: rest => frontDistance s (d :: t) :: rowEntries s (d :: t) rest

/-- The next row is computed from the row above it. -/
theorem distanceCells_eq (c : Char) (s : List Char) (rest t : List Char) :
    distanceCells c (frontDistance (c :: s) t) (frontDistance s t) (rowEntries s t rest) rest =
      rowEntries (c :: s) t rest := by
  induction rest generalizing t with
  | nil => rfl
  | cons d rest ih =>
    have hcell := frontDistance_cons c d s t
    unfold rowEntries distanceCells
    simp only [← hcell, ih]

theorem foldl_distanceRow (second first s : List Char) :
    first.foldl (distanceRow second) (s.length :: rowEntries s [] second) =
      (first.reverse ++ s).length :: rowEntries (first.reverse ++ s) [] second := by
  induction first generalizing s with
  | nil => rfl
  | cons c first ih =>
    have hrow : distanceRow second (s.length :: rowEntries s [] second) c =
        (c :: s).length :: rowEntries (c :: s) [] second := by
      have hcells := distanceCells_eq c s second []
      rw [frontDistance_nil_right, frontDistance_nil_right] at hcells
      unfold distanceRow
      rw [← hcells, List.length_cons]
    rw [List.foldl_cons, hrow, ih, List.reverse_cons, List.append_assoc, List.singleton_append]

/-- The first row counts. -/
theorem rowEntries_nil (rest t : List Char) :
    rowEntries [] t rest = List.range' (t.length + 1) rest.length := by
  induction rest generalizing t with
  | nil => rfl
  | cons d rest ih =>
    rw [rowEntries, ih, frontDistance_nil_left, List.length_cons, List.length_cons,
      List.range'_succ]

theorem getLast?_rowEntries (s rest t : List Char) :
    (frontDistance s t :: rowEntries s t rest).getLast? =
      some (frontDistance s (rest.reverse ++ t)) := by
  induction rest generalizing t with
  | nil => rfl
  | cons d rest ih =>
    rw [rowEntries, List.getLast?_cons_cons, ih, List.reverse_cons, List.append_assoc,
      List.singleton_append]

theorem editDistance_eq (first second : List Char) :
    editDistance first second = frontDistance first second := by
  have hrange : List.range (second.length + 1) = 0 :: rowEntries [] [] second := by
    rw [rowEntries_nil, List.range_eq_range', List.range'_succ]
    rfl
  have hrows := foldl_distanceRow second first []
  have hlast := getLast?_rowEntries first.reverse second []
  rw [frontDistance_nil_right] at hlast
  unfold editDistance
  rw [hrange]
  rw [List.append_nil] at hrows hlast
  rw [show (0 : Nat) = ([] : List Char).length from rfl, hrows, hlast, frontDistance_reverse]
  rfl

/-- **The distance is the least number of edits.** -/
theorem isLeast_editDistance (s t : List Char) :
    IsLeast {n | EditedIn n s t} (editDistance s t) := by
  rw [editDistance_eq]
  exact isLeast_frontDistance s t

/-- Only equal texts have no distance. -/
theorem editDistance_eq_zero_iff : editDistance s t = 0 ↔ s = t := by
  constructor
  · intro h
    have hedits : EditedIn (editDistance s t) s t := (isLeast_editDistance s t).1
    rw [h] at hedits
    cases hedits
    rfl
  · rintro rfl
    rw [editDistance_eq]
    exact frontDistance_self s

end GroupScope.Text
