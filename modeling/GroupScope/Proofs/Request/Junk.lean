import GroupScope.Proofs.Request.Encodings
/-!
# Junk in a native list

An entry of a native list is junk if it is no positive number: `null`, zero, a negative number, or
a text that spells no positive number. Junk is read as the id zero, and zero is an id that is
compiled. So junk is not ignored: where the list counts, each entry of junk adds a zero to the
compiled ids, and leaving out any of it changes the set.

    same fragments without some junk  ↔  no entry was left out  ∨  the list does not count

The main statement is `fragments_without_junk_iff`, for lists of values and for texts with commas.
-/

namespace GroupScope

open NativeLists (Role)

/-! ## §1. Junk. -/

/-- The number is greater than zero. -/
def Json.Number.IsPositive : Json.Number → Prop
  | .integer value => 0 < value
  | .real x => x.negative = false ∧ x.mantissa ≠ 0

namespace IdList

/-- The value may be an entry, but it is no positive number. -/
def Junk : Json → Prop
  | .null => True
  | .number n => ¬n.IsPositive
  | .string text => ¬Numeral.IsPositive (Text.trim text.toList)
  | .bool _ | .array _ | .object _ => False

theorem idOfNumber_eq_zero {n : Json.Number} (h : ¬n.IsPositive) : idOfNumber n = 0 := by
  cases n with
  | integer value =>
    have hle : value ≤ 0 := Int.not_lt.mp h
    show ((Json.Number.integer value).toUInt64?).getD 0 = 0
    by_cases hzero : value = 0
    · subst hzero
      rfl
    · have hrange : ¬(0 ≤ value ∧ value < pow2 64) := by
        rintro ⟨hnonneg, -⟩
        omega
      rw [Json.Number.toUInt64?, if_neg hrange]
      rfl
  | real x =>
    show (if x.negative = true then 0 else (GroupId.ofNat? x.truncate).getD 0) = 0
    by_cases hnegative : x.negative = true
    · rw [if_pos hnegative]
    · have hmantissa : x.mantissa = 0 :=
        Decidable.byContradiction fun hne => h ⟨by simpa using hnegative, hne⟩
      rw [if_neg hnegative, Binary64.truncate_eq_zero hmantissa]
      rfl

theorem idOfChars_eq_zero {text : List Char} (h : ¬Numeral.IsPositive (Text.trim text)) :
    idOfChars text = 0 := by
  show (if Numeral.isNumeral (Text.trim text) = true then
    (Numeral.groupId? (Text.trim text)).getD 0 else 0) = 0
  split
  next hnumeral =>
    cases hid : Numeral.groupId? (Text.trim text) with
    | none => rfl
    | some id => exact absurd (Numeral.isPositive_of_groupId? hnumeral hid) h
  next => rfl

/-- **Junk is read as zero.** -/
theorem entryOfJson_of_junk {entry : Json} (h : Junk entry) : entryOfJson entry = .ok 0 := by
  cases entry with
  | null => rfl
  | number n => exact congrArg Except.ok (idOfNumber_eq_zero h)
  | string text => exact congrArg Except.ok (idOfChars_eq_zero h)
  | bool | array | object => exact h.elim

/-! ## §2. Leaving out junk. -/

/-- The entries of a list or of a text with commas. -/
def entries : Json → List Json
  | .array entries => entries
  | .string text => texts text
  | _ => []

/-- The value with the kept entries only. -/
def retain (kept : Json → Bool) : Json → Json
  | .array entries => .array (entries.filter kept)
  | .string text =>
    .string <| String.ofList <| Text.join [','] <|
      (pieces text.toList).filter fun piece => kept (.string (String.ofList piece))
  | value => value

theorem entries_retain (kept : Json → Bool) (value : Json) :
    entries (retain kept value) = (entries value).filter kept := by
  cases value with
  | array entries => rfl
  | string text =>
    show texts (String.ofList _) = (texts text).filter kept
    have hpart : ∀ part ∈ (pieces text.toList).filter fun piece =>
        kept (.string (String.ofList piece)), ',' ∉ part ∧ Text.trim part ≠ [] := by
      intro part hpart
      obtain ⟨hpiece, hne⟩ := List.mem_filter.mp (List.mem_filter.mp hpart).1
      refine ⟨?_, by simpa using hne⟩
      intro hcomma
      exact absurd (Text.not_isSeparator_of_mem_splitBy hpiece hcomma) (by decide)
    unfold texts
    rw [String.toList_ofList, pieces_join hpart, List.filter_map]
    rfl
  | null | bool | number | object => rfl

/-- A list or a text is read as the list of its entries. -/
theorem ofJson?_eq_entries {value : Json}
    (h : (∃ entries, value = .array entries) ∨ ∃ text, value = .string text) :
    ofJson? value = ofJson? (.array (entries value)) := by
  rcases h with ⟨entries, rfl⟩ | ⟨text, rfl⟩
  · rfl
  · exact ofJson?_string text

/-- The readings of a list and of what is left of it: both stop at the same entry, or else as many
storable ids were left out as the number says. -/
def LeavesOut (count : Nat) (all rest : Except Misfit (List GroupId)) : Prop :=
  (∃ misfit, all = .error misfit ∧ rest = .error misfit)
    ∨ ∃ ids ids', all = .ok ids ∧ rest = .ok ids'
        ∧ (storable ids).length = (storable ids').length + count

section

variable {count : Nat} {values : List Json}

/-- An entry that is kept is read the same in both. -/
theorem LeavesOut.cons_kept {values' : List Json}
    (h : LeavesOut count (entriesOfJson values) (entriesOfJson values')) (value : Json) :
    LeavesOut count (entriesOfJson (value :: values)) (entriesOfJson (value :: values')) := by
  rw [entriesOfJson, entriesOfJson]
  cases entryOfJson value with
  | error misfit => exact .inl ⟨misfit, rfl, rfl⟩
  | ok id =>
    rcases h with ⟨misfit, hvalues, hvalues'⟩ | ⟨ids, ids', hvalues, hvalues', hlength⟩
    · rw [hvalues, hvalues']
      exact .inl ⟨misfit, rfl, rfl⟩
    · rw [hvalues, hvalues']
      refine .inr ⟨id :: ids, id :: ids', rfl, rfl, ?_⟩
      unfold storable at hlength ⊢
      by_cases hid : id.isStorable = true
      · rw [List.filter_cons_of_pos hid, List.filter_cons_of_pos hid, List.length_cons,
          List.length_cons]
        omega
      · rw [List.filter_cons_of_neg hid, List.filter_cons_of_neg hid]
        exact hlength

/-- Junk that is left out was a zero, and zero is storable. -/
theorem LeavesOut.cons_junk {rest : Except Misfit (List GroupId)}
    (h : LeavesOut count (entriesOfJson values) rest) {value : Json} (hjunk : Junk value) :
    LeavesOut (count + 1) (entriesOfJson (value :: values)) rest := by
  rw [entriesOfJson, entryOfJson_of_junk hjunk]
  rcases h with ⟨misfit, hvalues, hrest⟩ | ⟨ids, ids', hvalues, hrest, hlength⟩
  · rw [hvalues]
    exact .inl ⟨misfit, rfl, hrest⟩
  · rw [hvalues]
    refine .inr ⟨0 :: ids, ids', rfl, hrest, ?_⟩
    show (storable ids).length + 1 = _
    omega

/-- **A list without some of its junk** lacks one storable id for each entry that is left out. -/
theorem leavesOut_filter {kept : Json → Bool}
    (h : ∀ value ∈ values, kept value = false → Junk value) :
    LeavesOut (values.countP fun value => !kept value) (entriesOfJson values)
      (entriesOfJson (values.filter kept)) := by
  induction values with
  | nil => exact .inr ⟨[], [], rfl, rfl, rfl⟩
  | cons value values ih =>
    have ih := ih fun other hother => h other (List.mem_cons_of_mem value hother)
    by_cases hkept : kept value = true
    · rw [List.filter_cons_of_pos hkept, List.countP_cons_of_neg (by simp [hkept])]
      exact ih.cons_kept value
    · have hjunk : Junk value := h value List.mem_cons_self (by simpa using hkept)
      rw [List.filter_cons_of_neg hkept, List.countP_cons_of_pos (by simp [hkept])]
      exact ih.cons_junk hjunk

end

end IdList

/-! ## §3. The fragments. -/

open IdList

/-- **Junk in a native list is not ignored.** A native list, given as a list of values or as a text
with commas, yields the same fragments without some of its junk only if nothing was left out or the
list does not count. -/
theorem fragments_without_junk_iff (role : Role) {value : Json} {kept : Json → Bool}
    (hform : (∃ values, value = .array values) ∨ ∃ text, value = .string text)
    (hjunk : ∀ entry ∈ entries value, kept entry = false → Junk entry) (existing : Json)
    (fields : List (String × Json)) (context viewing : Context) (settings : Settings) :
    let fragments := fun value =>
      fragmentsOfJson existing (role.attributes fields value) context viewing settings
    fragments value = fragments (retain kept value) ↔
      (∀ entry ∈ entries value, kept entry = true) ∨
        ¬role.Counts existing (role.attributes fields value) context viewing settings := by
  intro fragments
  have hform' : (∃ values, retain kept value = .array values) ∨
      ∃ text, retain kept value = .string text := by
    rcases hform with ⟨values, rfl⟩ | ⟨text, rfl⟩
    · exact .inl ⟨_, rfl⟩
    · exact .inr ⟨_, rfl⟩
  have hvalue : ofJson? value = (entriesOfJson (entries value)).map some :=
    ofJson?_eq_entries hform
  have hretain : ofJson? (retain kept value) =
      (entriesOfJson ((entries value).filter kept)).map some := by
    rw [ofJson?_eq_entries hform', entries_retain]
    rfl
  rcases leavesOut_filter hjunk with ⟨misfit, h, h'⟩ | ⟨ids, ids', h, h', hlength⟩
  · -- An entry that cannot be read is no junk, so it is an error in both.
    rw [h] at hvalue
    rw [h'] at hretain
    have hsame : ofJson? value = ofJson? (retain kept value) := by rw [hvalue, hretain]
    exact iff_of_true (fragmentsOfJson_congr hsame ..)
      (.inr (role.not_counts_of_misfit hvalue existing fields context viewing settings))
  · rw [h] at hvalue
    rw [h'] at hretain
    have hsame : storable ids = storable ids' ↔ ∀ entry ∈ entries value, kept entry = true := by
      constructor
      · intro hids
        rw [hids, Nat.left_eq_add, List.countP_eq_zero] at hlength
        intro entry hentry
        simpa using hlength entry hentry
      · intro hkept
        rw [List.filter_eq_self.mpr hkept, h] at h'
        injection h' with h'
        rw [h']
    rw [← hsame]
    exact fragmentsOfJson_eq_iff hvalue hretain ..

/-- Two junk pieces of a text are left out, and the fragments change. -/
theorem fragments_without_junk_of_text :
    let context : Context :=
      { viewer := .anonymous
        directory := { groupOf := fun _ => .ok none, groupsOf := fun _ => .ok [] } }
    let fragments := fun value =>
      fragmentsOfJson (.object []) (Role.excluded.attributes [] value) context context {}
    let value := Json.string "x, 5,-3"
    let kept := fun
      | .string text => text.toList.contains '5'
      | _ => false
    (∀ entry ∈ entries value, kept entry = false → Junk entry)
      ∧ fragments value ≠ fragments (retain kept value) := by
  intro context fragments value kept
  have hentries : entries value = [.string "x", .string " 5", .string "-3"] := by rfl
  have hjunk : ∀ entry ∈ entries value, kept entry = false → Junk entry := by
    rw [hentries]
    intro entry hentry hkept
    rcases List.mem_cons.mp hentry with rfl | hentry
    · rintro ⟨hnumeral, -⟩
      exact absurd hnumeral (by decide)
    rcases List.mem_cons.mp hentry with rfl | hentry
    · exact absurd hkept (by decide)
    · have hlast : entry = .string "-3" := List.mem_singleton.mp hentry
      subst hlast
      rintro ⟨-, hpositive, -⟩
      exact absurd hpositive (by decide)
  refine ⟨hjunk, ?_⟩
  intro hsame
  have hform : (∃ values, value = .array values) ∨ ∃ text, value = .string text := .inr ⟨_, rfl⟩
  rcases (fragments_without_junk_iff .excluded hform hjunk (.object []) [] context context {}).mp
    hsame with hkept | hcounts
  · rw [hentries] at hkept
    exact absurd (hkept (.string "x") List.mem_cons_self) (by decide)
  · exact hcounts ⟨{}, { native := { excluded := some [0, 5, 0] } }, rfl, rfl, rfl, rfl, nofun⟩

/-- Beside one id, the text `x` wants items without a group as well. -/
theorem junk_widens_inclusion :
    let context : Context :=
      { viewer := .anonymous
        directory := { groupOf := fun _ => .ok none, groupsOf := fun _ => .ok [] } }
    let fragments := fun value =>
      fragmentsOfJson (.object []) (Role.included.attributes [] value) context context {}
    let value := Json.array [.string "x", .integer 5]
    let kept := fun
      | .string _ => false
      | _ => true
    fragments value = .ok { group := some (.inGroups [0, 5]) }
      ∧ fragments (retain kept value) = .ok { group := some (.inGroups [5]) }
      ∧ fragments value ≠ fragments (retain kept value) := by
  intro context fragments value kept
  have hvalue : fragments value = .ok { group := some (.inGroups [0, 5]) } := by rfl
  have hretain : fragments (retain kept value) = .ok { group := some (.inGroups [5]) } := by rfl
  refine ⟨hvalue, hretain, ?_⟩
  rw [hvalue, hretain]
  intro h
  injection h with h
  exact absurd h (by decide)

end GroupScope
