import GroupScope.CommandLine.Run
import GroupScope.Proofs.Predicate.Compiled
/-!
# Privacy cannot be filtered away

For a user who is logged in, every compiled set has the same privacy fragment, whatever the
parameters are, and no other fragment writes under its name. Unless it is switched off by name, the
joined condition selects a private entry of a group only if the user belongs to the group:

    c.Holds row  →  entry private, of a group  →  the directory lists the group for the user

When the directory cannot answer, it lists nothing, and no such entry is selected.
-/

namespace GroupScope

open Sql

/-! ## §1. The fragment. -/

/-- The privacy fragment does not depend on the parameters. -/
theorem Parameters.get?_privacy_compile (p : Parameters) (context : Context) :
    (p.compile context).value.get? .privacy = context.memberships.value.map .visible := by
  rw [compile_eq]
  rfl

/-- Fragments switched off by name are gone, and no others. -/
theorem CommandLine.value_switchOff (set : PredicateSet) (names : List PredicateName) :
    (switchOff set names).value = set.without names := by
  induction names generalizing set with
  | nil => rfl
  | cons name names ih =>
    unfold switchOff PredicateSet.without
    cases set.contains name <;> exact ih _

theorem CommandLine.get?_privacy_switchOff (set : PredicateSet) {names : List PredicateName}
    (h : .privacy ∉ names) : (switchOff set names).value.get? .privacy = set.get? .privacy := by
  rw [value_switchOff, PredicateSet.get?_without, if_neg h]

/-! ## §2. Private entries. -/

/-- The privacy fragment for a user admits a private entry of a group only if the directory lists
the group for the user. -/
theorem Predicate.groups_of_admits_visible {context : Context} {user : UserId} {entry : Entry}
    (h : (visible (context.groupsOf user)).Admits entry) (hprivate : entry.privacy = 1)
    (hgroup : ¬entry.Groupless) :
    ∃ groups, context.directory.groupsOf user = .ok groups ∧ entry.InOneOf groups := by
  -- Of the three alternatives only the last is open to a private entry of a group.
  rcases h with hpublic | ⟨-, hnone | hmine⟩
  · rw [hprivate] at hpublic
    cases hpublic
  · exact absurd hnone hgroup
  · obtain ⟨id, hid, hfound⟩ := hmine
    obtain ⟨groups, hgroups, hmem, -⟩ := Context.mem_groupsOf_iff.mp hid
    exact ⟨groups, hgroups, id, hmem, hfound⟩

/-! ## §3. All parameters at once. -/

/-- **Privacy cannot be filtered away.** For a user, one and the same privacy fragment is in the set
of all parameters, also when other fragments are switched off. The joined condition then selects a
private entry of a group only if the directory lists that group for the user. For an anonymous
viewer no parameters have a privacy fragment. -/
theorem privacy_cannot_be_filtered_away (context : Context) :
    (∀ user, context.viewer = .user user →
      ∃ fragment, ∀ (p : Parameters) (removed : List PredicateName), .privacy ∉ removed →
        let set := (CommandLine.switchOff (p.compile context).value removed).value
        set.get? .privacy = some fragment
          ∧ ∀ columns : Columns, columns.check = .ok () →
            ∃ text c, set.joinedClause columns = some text ∧ Condition.ofText? text = some c
              ∧ ∀ (entry : Entry) (row : Row), entry.In columns row → entry.privacy = 1 →
                ¬entry.Groupless → c.Holds row →
                  ∃ groups, context.directory.groupsOf user = .ok groups ∧ entry.InOneOf groups)
      ∧ (context.viewer = .anonymous → ∀ p : Parameters,
          (p.compile context).value.get? .privacy = none) := by
  constructor
  · intro user huser
    refine ⟨.visible (context.groupsOf user), fun p removed hremoved => ?_⟩
    have hfragment : (CommandLine.switchOff (p.compile context).value removed).value.get? .privacy =
        some (.visible (context.groupsOf user)) := by
      rw [CommandLine.get?_privacy_switchOff _ hremoved, p.get?_privacy_compile,
        Context.memberships_eq, huser]
      rfl
    have hw : (CommandLine.switchOff (p.compile context).value removed).value.WellFormed := by
      rw [CommandLine.value_switchOff]
      exact (p.wellFormed_compile context).without removed
    refine ⟨hfragment, fun columns hc => ?_⟩
    -- The fragment alone makes the clause present, and it has to admit what is selected.
    obtain ⟨text, c, htext, hread, hholds⟩ := PredicateSet.joinedClause_of_get? hc hw hfragment
    refine ⟨text, c, htext, hread, fun entry row hr hprivate hgroup hrow => ?_⟩
    have hadmits := (hholds hr).mp hrow .privacy _ hfragment
    exact Predicate.groups_of_admits_visible hadmits hprivate hgroup
  · intro hanonymous p
    rw [p.get?_privacy_compile, Context.memberships_eq, hanonymous]
    rfl

/-- After a failed lookup a private entry of a group is not selected, though the parameters name the
group and ask for the viewer's groups, and though their fragment is switched off. -/
theorem private_entry_kept_after_failure :
    let directory : Directory :=
      { groupOf := fun _ => .ok none
        groupsOf := fun _ => .error ⟨"offline"⟩ }
    let context : Context := { viewer := .user 5, directory }
    let p : Parameters := { group := some .my, included := some [7] }
    let row : Row := fun column => if column = "group_id" then some 7 else some 1
    let set := (CommandLine.switchOff (p.compile context).value [.group]).value
    ∃ text c, set.joinedClause {} = some text ∧ Condition.ofText? text = some c
      ∧ ¬c.Holds row := by
  intro directory context p row set
  obtain ⟨fragment, h⟩ := (privacy_cannot_be_filtered_away context).1 5 rfl
  obtain ⟨-, hclause⟩ := h p [.group] (by decide)
  obtain ⟨text, c, htext, hread, hkept⟩ := hclause {} rfl
  refine ⟨text, c, htext, hread, fun hrow => ?_⟩
  have hgroup : ¬Entry.Groupless ⟨some 7, 1⟩ := by simp [Entry.Groupless]
  obtain ⟨groups, hgroups, -⟩ := hkept ⟨some 7, 1⟩ row ⟨rfl, rfl⟩ rfl hgroup hrow
  cases hgroups

end GroupScope
