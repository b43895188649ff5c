import GroupScope.Proofs.Predicate.Compiled
/-!
# Items without a group

An item belongs to no group if its group column is missing or zero. Of two items that differ in
nothing else, a clause selects the one whose group is missing just when it selects the one whose
group is zero, unless some fragment compares the column with a list:

    selects missing  ↔  selects zero  ∧  no fragment has a list

A missing group is neither in a list nor outside of it, while zero may be either.
-/

namespace GroupScope

open Sql

/-- The rows differ in their groups only, which is missing from one and zero in the other. -/
structure Twins (columns : Columns) (missing zero : Row) : Prop where
  missing_group : missing columns.group = none
  zero_group : zero columns.group = some 0
  privacy : missing columns.privacy = zero columns.privacy

namespace Predicate

/-- The predicate compares the group with a list. -/
def HasList : Predicate → Prop
  | .inGroups _ | .notInGroups _ => True
  | .noGroup | .hasGroup | .visible _ => False

variable {columns : Columns} {missing zero : Row}

/-- Whoever the viewer is, an item without a group is visible by its privacy mark alone. -/
theorem holds_visible_of_groupless {row : Row} (h : (groupless columns.group).Holds row)
    (memberOf : List GroupId) :
    ((visible memberOf).condition columns).Holds row ↔
      row columns.privacy = some 0 ∨ row columns.privacy = some 1 := by
  unfold condition
  rw [Condition.holds_or]
  refine or_congr (Condition.holds_equals row columns.privacy 0) ?_
  have hmine : (Condition.and (.equals columns.privacy 1) (groupless columns.group)).Holds row ↔
      row columns.privacy = some 1 := by
    rw [Condition.holds_and, and_iff_left h]
    exact Condition.holds_equals row columns.privacy 1
  cases memberOf with
  | nil => exact hmine
  | cons id ids =>
    -- The viewer's groups ask for the same mark, so they add nothing.
    show (Condition.or _ _).Holds row ↔ _
    rw [Condition.holds_or, hmine, Condition.holds_and, or_iff_left_iff_imp]
    rintro ⟨hprivate, -⟩
    exact (Condition.holds_equals row columns.privacy 1).mp hprivate

/-- **One fragment.** -/
theorem holds_missing_iff {p : Predicate} (hw : p.WellFormed) (h : Twins columns missing zero) :
    (p.condition columns).Holds missing ↔ (p.condition columns).Holds zero ∧ ¬p.HasList := by
  obtain ⟨hm, hz, hp⟩ := h
  have hmissing : (groupless columns.group).Holds missing := by simp [groupless, hm]
  have hzero : (groupless columns.group).Holds zero := by simp [groupless, hz]
  cases p with
  | noGroup => simp [condition, HasList, hm, hz]
  | hasGroup => simp [condition, HasList, hm, hz]
  | inGroups ids => simp [condition, HasList, hm]
  | notInGroups ids =>
    refine iff_of_false ?_ (by simp [HasList])
    intro hall
    rw [condition, Condition.holds_notAmong] at hall
    obtain ⟨id, hid⟩ := List.exists_mem_of_ne_nil ids hw
    obtain ⟨_, hfound, -⟩ := hall id.toNat (List.mem_map_of_mem hid)
    rw [hm] at hfound
    cases hfound
  | visible memberOf =>
    rw [holds_visible_of_groupless hmissing, holds_visible_of_groupless hzero, hp]
    exact (and_iff_left id).symm

end Predicate

/-- **A missing group and the group zero.** For any parameters, an item whose group is missing is
selected just when the same item with the group zero is selected and no fragment has a list. -/
theorem selects_missing_group_iff (p : Parameters) (context : Context) {columns : Columns}
    {missing zero : Row} (hc : columns.check = .ok ()) (h : Twins columns missing zero) :
    let set := (p.compile context).value
    Selects (set.joinedClause columns) missing ↔
      Selects (set.joinedClause columns) zero ∧
        ∀ name q, set.get? name = some q → ¬q.HasList := by
  intro set
  have hw : set.WellFormed := p.wellFormed_compile context
  rw [PredicateSet.selects_joinedClause_iff_holdsOf hc hw,
    PredicateSet.selects_joinedClause_iff_holdsOf hc hw]
  constructor
  · intro hall
    have hboth : ∀ name q, set.get? name = some q →
        (q.condition columns).Holds zero ∧ ¬q.HasList := by
      intro name q hq
      exact (Predicate.holds_missing_iff (hw name q hq) h).mp (hall name q hq)
    exact ⟨fun name q hq => (hboth name q hq).1, fun name q hq => (hboth name q hq).2⟩
  · rintro ⟨hall, hlists⟩ name q hq
    exact (Predicate.holds_missing_iff (hw name q hq) h).mpr ⟨hall name q hq, hlists name q hq⟩

/-- A member who asks for items without a group gets a private one whose group is missing, since the
one whose group is zero is selected and there are no lists. -/
theorem selects_missing_group_of_member :
    let directory : Directory := { groupOf := fun _ => .ok none, groupsOf := fun _ => .ok [7] }
    let context : Context := { viewer := .user 5, directory }
    let row : Option Int → Row := fun group column => if column = "group_id" then group else some 1
    let set := (Parameters.compile { withoutGroup := true } context).value
    Selects (set.joinedClause {}) (row none) := by
  intro directory context row set
  have hc : Columns.check {} = .ok () := rfl
  have hset : set = { group := some .noGroup, privacy := some (.visible [7]) } := by rfl
  have hw : set.WellFormed := Parameters.wellFormed_compile _ context
  have hzero : Selects (set.joinedClause {}) (row (some 0)) := by
    have hr : Entry.In ⟨some 0, 1⟩ {} (row (some 0)) := ⟨rfl, rfl⟩
    rw [PredicateSet.selects_joinedClause_iff hc hw hr, PredicateSet.admits_iff, hset]
    simp [Predicate.Admits, Entry.Groupless]
  have hlists : ∀ name q, set.get? name = some q → ¬q.HasList := by
    intro name q hq
    rw [hset] at hq
    cases name <;> cases hq <;> exact id
  have htwins : Twins {} (row none) (row (some 0)) := ⟨rfl, rfl, rfl⟩
  exact (selects_missing_group_iff _ context hc htwins).mpr ⟨hzero, hlists⟩

/-- Of two public items that belong to no group, one with a missing group and one with the group
zero, a list that includes zero selects the second only, and so does one that excludes another
group. -/
theorem missing_group_unlike_zero :
    let directory : Directory := { groupOf := fun _ => .ok none, groupsOf := fun _ => .ok [] }
    let context : Context := { viewer := .anonymous, directory }
    let row : Option Int → Row := fun group column => if column = "group_id" then group else some 0
    let clause := fun p : Parameters => (p.compile context).value.joinedClause {}
    let including : Parameters := { nativeIncluded := some [0] }
    let excluding : Parameters := { nativeExcluded := some [7] }
    Selects (clause including) (row (some 0)) ∧ ¬Selects (clause including) (row none)
      ∧ Selects (clause excluding) (row (some 0)) ∧ ¬Selects (clause excluding) (row none) := by
  intro directory context row clause including excluding
  have hselects : ∀ (p : Parameters) (group : Option Int),
      Selects (clause p) (row group) ↔ (p.compile context).value.Admits ⟨group, 0⟩ := by
    intro p group
    exact PredicateSet.selects_joinedClause_iff rfl (p.wellFormed_compile context) ⟨rfl, rfl⟩
  have hincluding : (including.compile context).value = { group := some (.inGroups [0]) } := by rfl
  have hexcluding : (excluding.compile context).value = { exclude := some (.notInGroups [7]) } := by
    rfl
  simp only [hselects, hincluding, hexcluding, PredicateSet.admits_iff, admittedBy_some,
    admittedBy_none]
  simp [Predicate.Admits, Entry.InOneOf]

end GroupScope
