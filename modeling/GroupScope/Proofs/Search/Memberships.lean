import GroupScope.Proofs.Predicate.Compiled
/-!
# Losing memberships fails closed

A user belongs to the groups that the directory lists, and to none when it cannot answer. Unless the
parameters ask for the groups of the viewer, only the privacy fragment depends on them, and it
admits more entries when there are more groups:

    fewer groups  →  fewer rows, and every row that is lost is private and of a lost group

With the marker the groups are asked for as well. A user without groups then gets items without a
group, and no item of any group at all.
-/

namespace GroupScope

open Sql

variable {entry : Entry} {row : Row} {columns : Columns}

/-! ## §1. More groups and fewer. -/

theorem Entry.InOneOf.mono {few many : List GroupId} (hsub : few ⊆ many)
    (h : entry.InOneOf few) : entry.InOneOf many := by
  obtain ⟨id, hid, hgroup⟩ := h
  exact ⟨id, hsub hid, hgroup⟩

/-- **The privacy fragment grows with the groups.** -/
theorem Predicate.admits_visible_mono {few many : List GroupId} (hsub : few ⊆ many)
    (h : (visible few).Admits entry) : (visible many).Admits entry := by
  rcases h with hpublic | ⟨hprivate, hnone | hmine⟩
  · exact .inl hpublic
  · exact .inr ⟨hprivate, .inl hnone⟩
  · exact .inr ⟨hprivate, .inr (hmine.mono hsub)⟩

/-- An entry that is no longer admitted is private and of one of the groups that are lost. -/
theorem Predicate.lost_of_admits_visible {few many : List GroupId}
    (hmany : (visible many).Admits entry) (hfew : ¬(visible few).Admits entry) :
    entry.privacy = 1 ∧ ∃ id ∈ many, id ∉ few ∧ entry.group = some (id.toNat : Int) := by
  rcases hmany with hpublic | ⟨hprivate, hnone | ⟨id, hid, hgroup⟩⟩
  · exact absurd (.inl hpublic) hfew
  · exact absurd (.inr ⟨hprivate, .inl hnone⟩) hfew
  · refine ⟨hprivate, id, hid, fun hkept => hfew ?_, hgroup⟩
    exact .inr ⟨hprivate, .inr ⟨id, hkept, hgroup⟩⟩

/-- The privacy fragment is true only of rows with a privacy mark. -/
theorem Predicate.exists_entry_of_holds_visible {memberOf : List GroupId}
    (h : ((visible memberOf).condition columns).Holds row) :
    ∃ entry : Entry, entry.In columns row := by
  -- In either shape both choices compare the mark with a number, which is not true of `NULL`.
  have hmark : ∃ mark, row columns.privacy = some mark := by
    cases memberOf with
    | nil =>
      simp only [condition, List.isEmpty_nil, if_true, Condition.holds_or, Condition.holds_and,
        Condition.holds_equals] at h
      rcases h with hmark | ⟨hmark, -⟩ <;> exact ⟨_, hmark⟩
    | cons id ids =>
      simp only [condition, List.isEmpty_cons, Bool.false_eq_true, if_false, Condition.holds_or,
        Condition.holds_and, Condition.holds_equals] at h
      rcases h with hmark | ⟨hmark, -⟩ | ⟨hmark, -⟩ <;> exact ⟨_, hmark⟩
  obtain ⟨mark, hmark⟩ := hmark
  exact ⟨⟨row columns.group, mark⟩, rfl, hmark⟩

/-! ## §2. What parameters compile to for a user. -/

namespace Parameters

variable {p : Parameters} {context : Context} {user : UserId}

/-- For a user, parameters compile to the fragments for the groups of that user. -/
theorem compile_of_user (huser : context.viewer = .user user) :
    (p.compile context).value = p.fragments (some (context.groupsOf user)) := by
  rw [compile_eq, Context.memberships_eq, huser]
  rfl

/-- Without the marker, the groups of the user reach the privacy fragment only. -/
theorem admits_fragments_iff (hmarker : p.isMyGroups = false) (groups : List GroupId) :
    (p.fragments (some groups)).Admits entry ↔
      (p.fragments none).Admits entry ∧ (Predicate.visible groups).Admits entry := by
  rw [PredicateSet.admits_iff, PredicateSet.admits_iff]
  simp [fragments, hmarker, and_assoc]

/-- With the marker, a user without groups gets entries without a group. -/
theorem groupless_of_admits_fragments (hmarker : p.isMyGroups = true)
    (h : (p.fragments (some [])).Admits entry) : entry.Groupless :=
  h .group .noGroup (by simp [fragments, PredicateSet.get?, hmarker, ofMemberships])

/-- For a user, a row is selected just when it has an entry that every fragment admits. -/
theorem selects_compile_iff (hc : columns.check = .ok ()) (huser : context.viewer = .user user) :
    Selects ((p.compile context).value.joinedClause columns) row ↔
      ∃ entry : Entry, entry.In columns row
        ∧ (p.fragments (some (context.groupsOf user))).Admits entry := by
  have hw : (p.compile context).value.WellFormed := p.wellFormed_compile context
  rw [← compile_of_user huser]
  constructor
  · -- The privacy fragment is always there, so a row that is selected has a privacy mark.
    intro h
    rw [PredicateSet.selects_joinedClause_iff_holdsOf hc hw] at h
    have hprivacy : (p.compile context).value.get? .privacy =
        some (.visible (context.groupsOf user)) := by
      rw [compile_of_user huser]
      rfl
    obtain ⟨entry, hr⟩ := Predicate.exists_entry_of_holds_visible (h .privacy _ hprivacy)
    exact ⟨entry, hr, (PredicateSet.holdsOf_iff_admits hw hr).mp h⟩
  · rintro ⟨entry, hr, h⟩
    exact (PredicateSet.selects_joinedClause_iff hc hw hr).mpr h

end Parameters

/-! ## §3. Two directories for one user. -/

/-- **Losing memberships fails closed.** Let parameters not hold the marker, and let a user belong
to no other groups in one context than in another. Every row that is selected in the first is
selected in the second, and a row that is selected in the second only is private and of a group that
the user belongs to there only. With the marker, a row that is selected for a user without groups,
be it that the directory lists none or that it cannot answer, has no group. -/
theorem losing_memberships_fails_closed (p : Parameters) (user : UserId) {columns : Columns}
    (hc : columns.check = .ok ()) :
    (p.isMyGroups = false → ∀ fewer more : Context,
        fewer.viewer = .user user → more.viewer = .user user →
          fewer.groupsOf user ⊆ more.groupsOf user → ∀ row : Row,
            let selects := fun context : Context =>
              Selects ((p.compile context).value.joinedClause columns) row
            (selects fewer → selects more)
              ∧ (selects more → ¬selects fewer →
                  row columns.privacy = some 1
                    ∧ ∃ id ∈ more.groupsOf user, id ∉ fewer.groupsOf user
                        ∧ row columns.group = some (id.toNat : Int)))
      ∧ (p.isMyGroups = true → ∀ context : Context,
          context.viewer = .user user → context.groupsOf user = [] → ∀ row : Row,
            Selects ((p.compile context).value.joinedClause columns) row →
              row columns.group = none ∨ row columns.group = some 0) := by
  constructor
  · intro hmarker fewer more hfewer hmore hsub row selects
    simp only [selects, Parameters.selects_compile_iff hc hfewer,
      Parameters.selects_compile_iff hc hmore, Parameters.admits_fragments_iff hmarker]
    constructor
    · rintro ⟨entry, hr, hrest, hvisible⟩
      exact ⟨entry, hr, hrest, Predicate.admits_visible_mono hsub hvisible⟩
    · rintro ⟨entry, hr, hrest, hvisible⟩ hlost
      obtain ⟨hprivate, id, hid, hgone, hgroup⟩ := Predicate.lost_of_admits_visible hvisible
        fun hkept => hlost ⟨entry, hr, hrest, hkept⟩
      exact ⟨hr.2.trans (congrArg some hprivate), id, hid, hgone, hr.1.trans hgroup⟩
  · intro hmarker context huser hnone row hrow
    obtain ⟨entry, hr, hadmits⟩ := (Parameters.selects_compile_iff hc huser).mp hrow
    rw [hnone] at hadmits
    rw [hr.1]
    exact Parameters.groupless_of_admits_fragments hmarker hadmits

/-- A member of the team, and the same user after a failed lookup. A public item of the team is
still selected by a list of groups, a private one no longer; with the marker, not even the public
one is. -/
theorem losing_memberships_of_failed_lookup :
    let more : Context :=
      { viewer := .user 5
        directory := { groupOf := fun _ => .ok none, groupsOf := fun _ => .ok [0, 7] } }
    let fewer : Context :=
      { viewer := .user 5
        directory := { groupOf := fun _ => .ok none, groupsOf := fun _ => .error ⟨"offline"⟩ } }
    let row : Int → Row := fun mark column => if column = "group_id" then some 7 else some mark
    let selects := fun (p : Parameters) (context : Context) (mark : Int) =>
      Selects ((p.compile context).value.joinedClause {}) (row mark)
    let team : Parameters := { included := some [7] }
    selects team fewer 0 ∧ selects team more 0 ∧ selects team more 1 ∧ ¬selects team fewer 1
      ∧ ¬selects { team with group := some .my } fewer 0 := by
  intro more fewer row selects team
  have hc : Columns.check {} = .ok () := rfl
  have hadmits : ∀ (context : Context) (mark : Int), selects team context mark ↔
      (team.compile context).value.Admits ⟨some 7, mark⟩ := by
    intro context mark
    exact PredicateSet.selects_joinedClause_iff hc (team.wellFormed_compile context) ⟨rfl, rfl⟩
  have hmore : (team.compile more).value =
      { group := some (.inGroups [7]), privacy := some (.visible [7]) } := by rfl
  have hfewer : (team.compile fewer).value =
      { group := some (.inGroups [7]), privacy := some (.visible []) } := by rfl
  have hpublic : selects team fewer 0 := by
    rw [hadmits, hfewer, PredicateSet.admits_iff]
    simp [Predicate.Admits, Entry.InOneOf]
  have hprivate : selects team more 1 := by
    rw [hadmits, hmore, PredicateSet.admits_iff]
    simp [Predicate.Admits, Entry.InOneOf]
  have hlost : ¬selects team fewer 1 := by
    rw [hadmits, hfewer, PredicateSet.admits_iff]
    simp [Predicate.Admits, Entry.InOneOf, Entry.Groupless]
  have hkept : selects team more 0 :=
    ((losing_memberships_fails_closed team 5 hc).1 rfl fewer more rfl rfl
      (List.nil_subset _) (row 0)).1 hpublic
  refine ⟨hpublic, hkept, hprivate, hlost, fun hmarked => ?_⟩
  have hgroup := (losing_memberships_fails_closed { team with group := some .my } 5 hc).2 rfl fewer
    rfl rfl (row 0) hmarked
  exact absurd hgroup (by decide)

end GroupScope
