import GroupScope.Proofs.Predicate.Compiled
import GroupScope.Proofs.Sql.Outline
/-!
# Reading a set back from its clause

A clause says which fragments it was rendered from:

    PredicateSet.ofClause? (set.joinedClause columns) = some set

The grammar reads a clause as the joined conditions of its fragments. Each predicate is then told
from the form of its condition, and the name it is stored under from the predicate. What the columns
are called does not matter, so a clause is read back also when both have one name.
-/

namespace GroupScope

open Sql

/-! ## §1. Predicates. -/

/-- The ids of numbers. -/
def valueIds (values : List Nat) : List GroupId := values.map UInt64.ofNat

theorem valueIds_idValues (ids : List GroupId) : valueIds (idValues ids) = ids := by
  unfold valueIds idValues
  rw [List.map_map]
  have hid : UInt64.ofNat ∘ UInt64.toNat = id := by
    funext i
    exact UInt64.ofNat_toNat
  rw [hid, List.map_id]

namespace Predicate

/-- The predicate whose condition has the form. -/
def ofCondition? : Condition → Option Predicate
  | .or (.equals _ _) (.isNull _) => some .noGroup
  | .and (.isNotNull _) (.differs _ _) => some .hasGroup
  | .among _ values => some (.inGroups (valueIds values))
  | .notAmong _ values => some (.notInGroups (valueIds values))
  | .or (.equals _ _) (.and _ _) => some (.visible [])
  | .or (.equals _ _) (.or _ (.and _ (.among _ values))) => some (.visible (valueIds values))
  | _ => none

theorem ofCondition?_condition (p : Predicate) (columns : Columns) :
    ofCondition? (p.condition columns) = some p := by
  cases p with
  | noGroup | hasGroup => rfl
  | inGroups ids =>
    show some (inGroups (valueIds (idValues ids))) = _
    rw [valueIds_idValues]
  | notInGroups ids =>
    show some (notInGroups (valueIds (idValues ids))) = _
    rw [valueIds_idValues]
  | visible memberOf =>
    cases memberOf with
    | nil => rfl
    | cons id ids =>
      show some (visible (valueIds (idValues (id :: ids)))) = _
      rw [valueIds_idValues]

/-- What begins with the condition of a predicate and goes on is not the condition of another. -/
theorem ofCondition?_and_condition (p : Predicate) (columns : Columns) (rest : Condition) :
    ofCondition? ((p.condition columns).and rest) = none := by
  cases p <;> rfl

/-- The name under which parameters store the predicate. -/
def home : Predicate → PredicateName
  | .noGroup | .inGroups _ => .group
  | .notInGroups _ => .exclude
  | .hasGroup => .presence
  | .visible _ => .privacy

end Predicate

/-- The predicates whose conditions are joined. -/
def predicates? (c : Condition) : Option (List Predicate) :=
  match Predicate.ofCondition? c with
  | some p => some [p]
  | none =>
    match c with
    | .and first rest => do
      let p ← Predicate.ofCondition? first
      let ps ← predicates? rest
      some (p :: ps)
    | _ => none

/-- **Joined conditions are told apart again.** -/
theorem predicates?_conjunction (columns : Columns) (p : Predicate) (ps : List Predicate) :
    predicates? (conjunction columns p ps) = some (p :: ps) := by
  induction ps generalizing p with
  | nil =>
    unfold conjunction predicates?
    rw [p.ofCondition?_condition]
  | cons q ps ih =>
    unfold conjunction predicates?
    rw [p.ofCondition?_and_condition]
    simp only
    rw [p.ofCondition?_condition, ih q]
    rfl

/-! ## §2. Sets. -/

namespace PredicateSet

/-- Every predicate of the set is stored under the name that parameters store it under. -/
def AtHome (set : PredicateSet) : Prop := ∀ name p, set.get? name = some p → p.home = name

/-- The set of predicates, each under its name. -/
def ofPredicates (ps : List Predicate) : PredicateSet :=
  { group := ps.find? (·.home = .group)
    exclude := ps.find? (·.home = .exclude)
    presence := ps.find? (·.home = .presence)
    privacy := ps.find? (·.home = .privacy) }

theorem get?_ofPredicates (ps : List Predicate) (name : PredicateName) :
    (ofPredicates ps).get? name = ps.find? (·.home = name) := by
  cases name <;> rfl

theorem ofPredicates_toList {set : PredicateSet} (h : set.AtHome) :
    ofPredicates (set.toList.map Prod.snd) = set := by
  apply ext_get?
  intro name
  rw [get?_ofPredicates]
  cases hfind : (set.toList.map Prod.snd).find? (·.home = name) with
  | some p =>
    have hhome := List.find?_some hfind
    obtain ⟨name', hp⟩ := mem_toList_iff.mp (List.mem_of_find?_eq_some hfind)
    -- The predicate found is at home under one name only.
    have hname : name' = name := by
      rw [← h name' p hp]
      exact of_decide_eq_true hhome
    rw [← hname, hp]
  | none =>
    symm
    rw [Option.eq_none_iff_forall_ne_some]
    intro p hp
    have hmem := mem_toList_iff.mpr ⟨name, hp⟩
    exact List.find?_eq_none.mp hfind p hmem (decide_eq_true (h name p hp))

/-- The set that a clause was rendered from; a missing clause comes from no fragments. -/
def ofClause? : Option String → Option PredicateSet
  | none => some empty
  | some text => do
    let c ← Condition.ofText? text
    let ps ← predicates? c
    some (ofPredicates ps)

variable {set : PredicateSet} {columns : Columns}

/-- **A set is read back from its clause.** -/
theorem ofClause?_joinedClause (hc : columns.check = .ok ()) (hw : set.WellFormed)
    (hh : set.AtHome) : ofClause? (set.joinedClause columns) = some set := by
  cases h : set.joinedClause columns with
  | none =>
    rw [joinedClause_eq_none_iff.mp h]
    rfl
  | some text =>
    obtain ⟨p, ps, hlist, hread⟩ := ofText?_joinedClause hc hw h
    unfold ofClause?
    simp only
    rw [hread, Option.bind_eq_bind, Option.bind_some, predicates?_conjunction]
    show some (ofPredicates (p :: ps)) = some set
    rw [← hlist, ofPredicates_toList hh]

end PredicateSet

/-- Parameters store every predicate at home. -/
theorem Parameters.atHome_compile (p : Parameters) (context : Context) :
    (p.compile context).value.AtHome := by
  intro name q h
  cases stored_of_get?_compile h <;> rfl

/-! ## §3. What a clause looks like. -/

namespace Predicate

variable {columns : Columns} {p : Predicate}

theorem exists_clause_eq (p : Predicate) (columns : Columns) :
    ∃ inner, p.clause columns = "(" ++ inner ++ ")" := by
  let group := quotedColumn columns.group
  let privacy := quotedColumn columns.privacy
  cases p with
  | noGroup =>
    refine ⟨" " ++ group ++ " = 0 OR " ++ group ++ " IS NULL ", ?_⟩
    rw [← String.toList_inj]
    simp [clause, group]
  | hasGroup =>
    refine ⟨" " ++ group ++ " IS NOT NULL AND " ++ group ++ " != 0 ", ?_⟩
    rw [← String.toList_inj]
    simp [clause, group]
  | inGroups ids =>
    refine ⟨" " ++ memberText group ids ++ " ", ?_⟩
    rw [← String.toList_inj]
    simp [clause, group]
  | notInGroups ids =>
    refine ⟨" " ++ group ++ " NOT IN (" ++ idsText ids ++ ") ", ?_⟩
    rw [← String.toList_inj]
    simp [clause, group]
  | visible memberOf =>
    cases memberOf with
    | nil => exact ⟨_, rfl⟩
    | cons id ids =>
      refine ⟨privacy ++ "=0 OR (" ++ privacy ++ "=1 AND (" ++ group ++ " IS NULL OR " ++ group ++
        " = 0)) OR (" ++ privacy ++ "=1 AND " ++ memberText group (id :: ids) ++ ")", ?_⟩
      rw [← String.toList_inj]
      simp [clause, group, privacy]

theorem ofText?_clause (hc : columns.check = .ok ()) (hw : p.WellFormed) :
    Condition.ofText? (p.clause columns) = some (p.condition columns) := by
  have htext : conjunctionText columns [p] = p.clause columns := by simp [conjunctionText]
  rw [← htext]
  exact ofText?_conjunctionText hc (by simpa using hw)

/-- **A fragment is one group in brackets.** -/
theorem isGroup_clause (hc : columns.check = .ok ()) (hw : p.WellFormed) :
    IsGroup (p.clause columns) := by
  obtain ⟨hg, hp⟩ := Columns.check_eq_ok_iff.mp hc
  have htokens := tokens?_of_scans (p.scans_clause hg hp)
  obtain ⟨inner, hinner⟩ := p.exists_clause_eq columns
  rw [hinner] at htokens ⊢
  exact isGroup_of_tokens? htokens (spells_tokens hw columns)

theorem columns_condition (p : Predicate) (columns : Columns) :
    ∀ name ∈ (p.condition columns).columns, name = columns.group ∨ name = columns.privacy := by
  cases p with
  | visible memberOf => cases memberOf <;> simp [condition, groupless, Condition.columns]
  | noGroup | hasGroup | inGroups | notInGroups => simp [condition, Condition.columns]

end Predicate

theorem columns_conjunction (columns : Columns) (p : Predicate) (ps : List Predicate) :
    ∀ name ∈ (conjunction columns p ps).columns,
      name = columns.group ∨ name = columns.privacy := by
  induction ps generalizing p with
  | nil => exact p.columns_condition columns
  | cons q ps ih =>
    intro name h
    rcases List.mem_append.mp h with h | h
    · exact p.columns_condition columns name h
    · exact ih q name h

/-- **What a clause says.** The clause of any parameters is missing just when there are no
fragments, and it tells which set it was rendered from, so no other set of any parameters has it.
Each fragment is one group in brackets, and the whole is read as the joined conditions of the
fragments, each read on its own. There are no empty brackets, and between backticks stand only the
names of the two columns. -/
theorem clause_unambiguous {columns : Columns} (hc : columns.check = .ok ()) (p : Parameters)
    (context : Context) :
    let set := (p.compile context).value
    (set.joinedClause columns = none ↔ set = .empty)
      ∧ PredicateSet.ofClause? (set.joinedClause columns) = some set
      ∧ (∀ (p' : Parameters) (context' : Context),
          (p'.compile context').value.joinedClause columns = set.joinedClause columns →
          (p'.compile context').value = set)
      ∧ (∀ name q, set.get? name = some q → IsGroup (q.clause columns))
      ∧ ∀ text, set.joinedClause columns = some text →
          (∃ q qs, set.toList.map Prod.snd = q :: qs
            ∧ Condition.ofText? text = some (conjunction columns q qs)
            ∧ ∀ r ∈ q :: qs, Condition.ofText? (r.clause columns) = some (r.condition columns))
          ∧ ¬['(', ')'] <:+: text.toList
          ∧ ∃ names, quotedNames? text.toList = some names
              ∧ ∀ name ∈ names, name = columns.group ∨ name = columns.privacy := by
  intro set
  have hw : set.WellFormed := p.wellFormed_compile context
  have hback : PredicateSet.ofClause? (set.joinedClause columns) = some set :=
    PredicateSet.ofClause?_joinedClause hc hw (p.atHome_compile context)
  refine ⟨PredicateSet.joinedClause_eq_none_iff, hback, ?_, ?_, ?_⟩
  · intro p' context' hsame
    have hback' := PredicateSet.ofClause?_joinedClause hc (p'.wellFormed_compile context')
      (p'.atHome_compile context')
    rw [hsame, hback] at hback'
    injection hback' with heq
    exact heq.symm
  · intro name q hq
    exact Predicate.isGroup_clause hc (hw name q hq)
  · intro text htext
    obtain ⟨q, qs, hlist, hread⟩ := PredicateSet.ofText?_joinedClause hc hw htext
    have hcolumns := columns_conjunction columns q qs
    refine ⟨⟨q, qs, hlist, hread, ?_⟩, ?_, _, quotedNames?_of_ofText? hread, hcolumns⟩
    · intro r hr
      rw [← hlist] at hr
      obtain ⟨name, hname⟩ := PredicateSet.mem_toList_iff.mp hr
      exact Predicate.ofText?_clause hc (hw name r hname)
    · refine not_empty_brackets_of_ofText? hread ?_
      intro name hname
      obtain ⟨hg, hp⟩ := Columns.check_eq_ok_iff.mp hc
      rcases hcolumns name hname with rfl | rfl
      · exact not_mem_of_isIdentifier hg rfl
      · exact not_mem_of_isIdentifier hp rfl

/-- The clause of four fragments is read back though both columns have one name. -/
theorem clause_unambiguous_of_one_column :
    let columns : Columns := { group := "c", privacy := "c" }
    let directory : Directory := { groupOf := fun _ => .ok none, groupsOf := fun _ => .ok [4, 2] }
    let context : Context := { viewer := .user 5, directory }
    let p : Parameters :=
      { group := some .my, nativeExcluded := some [0, 9], withoutGroup := true, withGroup := true }
    let text := "( `c` IN (4,2) ) AND ( `c` NOT IN (0,9) ) AND ( `c` IS NOT NULL AND `c` != 0 ) AND "
      ++ "(`c`=0 OR (`c`=1 AND (`c` IS NULL OR `c` = 0)) OR (`c`=1 AND `c` IN (4,2)))"
    (p.compile context).value.joinedClause columns = some text
      ∧ PredicateSet.ofClause? (some text) = some
          { group := some (.inGroups [4, 2])
            exclude := some (.notInGroups [0, 9])
            presence := some .hasGroup
            privacy := some (.visible [4, 2]) } := by
  intro columns directory context p text
  have hset : (p.compile context).value =
      { group := some (.inGroups [4, 2])
        exclude := some (.notInGroups [0, 9])
        presence := some .hasGroup
        privacy := some (.visible [4, 2]) } := by rfl
  have hclause : (p.compile context).value.joinedClause columns = some text := by decide +kernel
  have hc : columns.check = .ok () := Columns.check_eq_ok_iff.mpr ⟨by decide, by decide⟩
  obtain ⟨-, hback, -⟩ := clause_unambiguous hc p context
  rw [hclause, hset] at hback
  exact ⟨hclause, hback⟩

end GroupScope
