import GroupScope.Proofs.Predicate.Text
/-!
# What a set of fragments selects

An entry of the item table has a group, which may be missing, and a privacy mark. A fragment admits
an entry or does not, in plain words and without a third truth value. The main statement is that the
rendered clause selects just the rows whose entry every fragment admits:

    Selects (set.joinedClause columns) row  ↔  set.Admits entry
-/

namespace GroupScope

open Sql

/-! ## §1. Entries. -/

/-- What an item has in the two columns. -/
structure Entry where
  /-- The group; it may be missing. -/
  group : Option Int
  /-- The privacy mark. -/
  privacy : Int
  deriving DecidableEq, Repr

namespace Entry

/-- The row has the entry in the two columns. -/
def In (entry : Entry) (columns : Columns) (row : Row) : Prop :=
  row columns.group = entry.group ∧ row columns.privacy = some entry.privacy

/-- The entry belongs to no group. -/
def Groupless (entry : Entry) : Prop := entry.group = none ∨ entry.group = some 0

/-- The entry belongs to one of the groups. -/
def InOneOf (entry : Entry) (ids : List GroupId) : Prop :=
  ∃ id ∈ ids, entry.group = some (id.toNat : Int)

end Entry

/-- The fragment admits the entry. A missing group is not outside of any list. -/
def Predicate.Admits (entry : Entry) : Predicate → Prop
  | .noGroup => entry.Groupless
  | .hasGroup => ¬entry.Groupless
  | .inGroups ids => entry.InOneOf ids
  | .notInGroups ids => entry.group ≠ none ∧ ¬entry.InOneOf ids
  | .visible memberOf =>
    entry.privacy = 0 ∨ entry.privacy = 1 ∧ (entry.Groupless ∨ entry.InOneOf memberOf)

/-- Every fragment of the set admits the entry. -/
def PredicateSet.Admits (set : PredicateSet) (entry : Entry) : Prop :=
  ∀ name p, set.get? name = some p → p.Admits entry

/-- The conditions of all fragments hold of the row. -/
def PredicateSet.HoldsOf (set : PredicateSet) (columns : Columns) (row : Row) : Prop :=
  ∀ name p, set.get? name = some p → (p.condition columns).Holds row

/-- The lists of the set are not empty. -/
def PredicateSet.WellFormed (set : PredicateSet) : Prop :=
  ∀ name p, set.get? name = some p → p.WellFormed

/-! ## §2. One fragment. -/

section

variable {columns : Columns} {row : Row} {entry : Entry}

/-- The column holds one of the values just when the entry belongs to one of the groups. -/
theorem exists_idValues_iff (hg : row columns.group = entry.group) (ids : List GroupId) :
    (∃ value ∈ idValues ids, row columns.group = some (value : Int)) ↔ entry.InOneOf ids := by
  unfold idValues Entry.InOneOf
  rw [hg]
  constructor
  · rintro ⟨value, hvalue, hfound⟩
    obtain ⟨id, hid, rfl⟩ := List.mem_map.mp hvalue
    exact ⟨id, hid, hfound⟩
  · rintro ⟨id, hid, hfound⟩
    exact ⟨id.toNat, List.mem_map_of_mem hid, hfound⟩

theorem forall_idValues_iff (hg : row columns.group = entry.group) {ids : List GroupId}
    (hne : ids ≠ []) :
    (∀ value ∈ idValues ids, ∃ found, row columns.group = some found ∧ found ≠ value) ↔
      entry.group ≠ none ∧ ¬entry.InOneOf ids := by
  unfold idValues Entry.InOneOf
  rw [hg]
  cases hgroup : entry.group with
  | none =>
    -- A missing group fails at the first value, so there has to be one.
    obtain ⟨first, hfirst⟩ := List.exists_mem_of_ne_nil ids hne
    refine iff_of_false ?_ (by simp)
    intro h
    obtain ⟨_, hfound, -⟩ := h first.toNat (List.mem_map_of_mem hfirst)
    cases hfound
  | some found => simp

/-- **The condition of a fragment is true of the rows whose entry it admits.** -/
theorem Predicate.holds_condition_iff {p : Predicate} (hw : p.WellFormed)
    (hr : entry.In columns row) : (p.condition columns).Holds row ↔ p.Admits entry := by
  obtain ⟨hg, hp⟩ := hr
  cases p with
  | noGroup =>
    simp only [condition, Condition.holds_or, Condition.holds_equals, Condition.holds_isNull, hg]
    exact or_comm
  | hasGroup =>
    simp only [condition, Condition.holds_and, Condition.holds_isNotNull, Condition.holds_differs,
      hg, Admits, Entry.Groupless]
    cases entry.group <;> simp
  | inGroups ids =>
    simp only [condition, Condition.holds_among]
    exact exists_idValues_iff hg ids
  | notInGroups ids =>
    simp only [condition, Condition.holds_notAmong]
    exact forall_idValues_iff hg hw
  | visible memberOf =>
    have hpublic : (Condition.equals columns.privacy 0).Holds row ↔ entry.privacy = 0 := by
      simp [hp]
    have hprivate : (Condition.equals columns.privacy 1).Holds row ↔ entry.privacy = 1 := by
      simp [hp]
    have hgroupless : (groupless columns.group).Holds row ↔ entry.Groupless := by
      simp [groupless, Entry.Groupless, hg]
    unfold condition Admits
    cases memberOf with
    | nil =>
      have hnone : ¬entry.InOneOf [] := by simp [Entry.InOneOf]
      simp only [List.isEmpty_nil, if_true, Condition.holds_or, Condition.holds_and, hpublic,
        hprivate, hgroupless, hnone, or_false]
    | cons id ids =>
      have hmember : (Condition.among columns.group (idValues (id :: ids))).Holds row ↔
          entry.InOneOf (id :: ids) := by
        rw [Condition.holds_among]
        exact exists_idValues_iff hg (id :: ids)
      simp only [List.isEmpty_cons, Bool.false_eq_true, if_false, Condition.holds_or,
        Condition.holds_and, hpublic, hprivate, hgroupless, hmember, and_or_left]

end

/-! ## §3. All fragments. -/

/-- The content admits the entry; a missing one admits all. -/
def AdmittedBy (content : Option Predicate) (entry : Entry) : Prop :=
  ∀ p, content = some p → p.Admits entry

@[simp] theorem admittedBy_none {entry : Entry} : AdmittedBy none entry ↔ True := by
  simp [AdmittedBy]

@[simp] theorem admittedBy_some {p : Predicate} {entry : Entry} :
    AdmittedBy (some p) entry ↔ p.Admits entry := by
  simp [AdmittedBy]

theorem PredicateName.mem_all (name : PredicateName) : name ∈ all := by
  cases name <;> decide

namespace PredicateSet

/-- A set admits what its four contents admit. -/
theorem admits_iff {set : PredicateSet} {entry : Entry} :
    set.Admits entry ↔ AdmittedBy set.group entry ∧ AdmittedBy set.exclude entry ∧
      AdmittedBy set.presence entry ∧ AdmittedBy set.privacy entry := by
  constructor
  · intro h
    exact ⟨h .group, h .exclude, h .presence, h .privacy⟩
  · rintro ⟨hg, he, hx, hp⟩ name
    cases name with
    | group => exact hg
    | exclude => exact he
    | presence => exact hx
    | privacy => exact hp

/-- What is listed is what is stored. -/
theorem mem_toList {set : PredicateSet} {name : PredicateName} {p : Predicate} :
    (name, p) ∈ set.toList ↔ set.get? name = some p := by
  unfold toList
  rw [List.mem_filterMap]
  constructor
  · rintro ⟨other, -, h⟩
    obtain ⟨q, hq, heq⟩ := Option.map_eq_some_iff.mp h
    cases heq
    exact hq
  · intro h
    exact ⟨name, name.mem_all, by rw [h, Option.map_some]⟩

/-- The fragments of a set are those stored under some name. -/
theorem mem_toList_iff {set : PredicateSet} {p : Predicate} :
    p ∈ set.toList.map Prod.snd ↔ ∃ name, set.get? name = some p := by
  simp only [List.mem_map, Prod.exists, exists_eq_right, mem_toList]

/-- The joined conditions are one text, unless there are no fragments. -/
theorem joinedClause_eq (set : PredicateSet) (columns : Columns) :
    set.joinedClause columns =
      match set.toList.map Prod.snd with
      | [] => none
      | p :: ps => some (conjunctionText columns (p :: ps)) := by
  unfold joinedClause isEmpty clauses conjunctionText
  cases set.toList with
  | nil => rfl
  | cons fragment fragments =>
    simp only [List.isEmpty_cons, Bool.false_eq_true, if_false, List.map_map, List.map_cons]
    rfl

@[simp] theorem get?_empty (name : PredicateName) : empty.get? name = none := by
  cases name <;> rfl

section

variable {set : PredicateSet} {columns : Columns}

theorem joinedClause_eq_none_iff : set.joinedClause columns = none ↔ set = empty := by
  constructor
  · intro h
    apply ext_get?
    intro name
    have hname : set.get? name = none := by
      rw [Option.eq_none_iff_forall_ne_some]
      intro p hp
      have hmem := mem_toList_iff.mpr ⟨name, hp⟩
      rw [joinedClause_eq] at h
      split at h
      next hlist => simp [hlist] at hmem
      next => cases h
    rw [hname, get?_empty]
  · rintro rfl
    rfl

/-- **A clause joins the conditions of its fragments**, in their stable order. -/
theorem ofText?_joinedClause (hc : columns.check = .ok ()) (hw : set.WellFormed) {text : String}
    (h : set.joinedClause columns = some text) :
    ∃ p ps, set.toList.map Prod.snd = p :: ps
      ∧ Condition.ofText? text = some (conjunction columns p ps) := by
  rw [joinedClause_eq] at h
  split at h
  next => cases h
  next p ps hlist =>
    injection h with h
    subst h
    refine ⟨p, ps, hlist, ofText?_conjunctionText hc ?_⟩
    intro q hq
    rw [← hlist] at hq
    obtain ⟨name, hname⟩ := mem_toList_iff.mp hq
    exact hw name q hname

/-- What a clause says holds where the conditions of all fragments do. -/
theorem joinedClause_spec (hc : columns.check = .ok ()) (hw : set.WellFormed) {text : String}
    (h : set.joinedClause columns = some text) :
    ∃ c, Condition.ofText? text = some c ∧ ∀ row, c.Holds row ↔ set.HoldsOf columns row := by
  obtain ⟨p, ps, hlist, hread⟩ := ofText?_joinedClause hc hw h
  refine ⟨_, hread, ?_⟩
  intro row
  rw [holds_conjunction, ← hlist]
  -- The fragments of the list and the contents under the names are the same predicates.
  constructor
  · intro h name q hq
    exact h q (mem_toList_iff.mpr ⟨name, hq⟩)
  · intro h q hin
    obtain ⟨name, hq⟩ := mem_toList_iff.mp hin
    exact h name q hq

/-- The conditions of all fragments hold of the rows whose entry every fragment admits. -/
theorem holdsOf_iff_admits {row : Row} {entry : Entry} (hw : set.WellFormed)
    (hr : entry.In columns row) : set.HoldsOf columns row ↔ set.Admits entry := by
  unfold HoldsOf Admits
  refine forall_congr' fun name => forall_congr' fun p => forall_congr' fun hp => ?_
  exact Predicate.holds_condition_iff (hw name p hp) hr

/-- A set with some fragment renders to a condition that can be read. -/
theorem joinedClause_of_get? {name : PredicateName} {p : Predicate} (hc : columns.check = .ok ())
    (hw : set.WellFormed) (h : set.get? name = some p) :
    ∃ text c, set.joinedClause columns = some text ∧ Condition.ofText? text = some c ∧
      ∀ {row : Row} {entry : Entry}, entry.In columns row → (c.Holds row ↔ set.Admits entry) := by
  cases htext : set.joinedClause columns with
  | none =>
    rw [joinedClause_eq_none_iff.mp htext, get?_empty] at h
    cases h
  | some text =>
    obtain ⟨c, hread, hholds⟩ := joinedClause_spec hc hw htext
    refine ⟨text, c, rfl, hread, ?_⟩
    intro row entry hr
    exact (hholds row).trans (holdsOf_iff_admits hw hr)

/-- A clause selects the rows of which the conditions of all fragments hold. Without fragments there
is no clause, and every row is selected. -/
theorem selects_joinedClause_iff_holdsOf {row : Row} (hc : columns.check = .ok ())
    (hw : set.WellFormed) : Selects (set.joinedClause columns) row ↔ set.HoldsOf columns row := by
  cases h : set.joinedClause columns with
  | none =>
    refine iff_of_true trivial ?_
    intro name p hp
    rw [joinedClause_eq_none_iff.mp h, get?_empty] at hp
    cases hp
  | some text =>
    obtain ⟨c, hread, hholds⟩ := joinedClause_spec hc hw h
    rw [← hholds row]
    simp [Selects, hread]

/-- **A clause selects the rows whose entry every fragment admits.** -/
theorem selects_joinedClause_iff {row : Row} {entry : Entry} (hc : columns.check = .ok ())
    (hw : set.WellFormed) (hr : entry.In columns row) :
    Selects (set.joinedClause columns) row ↔ set.Admits entry :=
  (selects_joinedClause_iff_holdsOf hc hw).trans (holdsOf_iff_admits hw hr)

end

end PredicateSet

end GroupScope
