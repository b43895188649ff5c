import GroupScope.Proofs.Parameters.Update
import GroupScope.Proofs.Predicate.Compiled
import GroupScope.Proofs.Resolution.Ids
/-!
# What a request selects

A request with an expression and nothing else is resolved, folded into fresh parameters, compiled
and written out as one condition. The main statement takes all stages together: the condition
selects a row just when the viewer may see its entry and the resolution wants it.

    Selects (set.joinedClause columns) row
      ↔  entry.VisibleTo context  ∧  resolution.Wants context entry

Ids that no signed column holds are not compiled, so the directory and the page must not give any.
-/

namespace GroupScope

open Sql

/-! ## §1. What is wanted, and what may be seen. -/

/-- The viewer may see the entry. Nothing is kept from an anonymous viewer here; a user sees what is
public, and private entries without a group or of the user's own groups. -/
def Entry.VisibleTo (entry : Entry) (context : Context) : Prop :=
  context.viewer = .anonymous ∨ entry.privacy = 0 ∨
    entry.privacy = 1 ∧ (entry.Groupless ∨ entry.InOneOf context.viewerGroups)

/-- The resolution wants the entry. Lists that are empty ask for nothing. -/
def Resolution.Wants (r : Resolution) (context : Context) (entry : Entry) : Prop :=
  match r.directive with
  | .noGroup => entry.Groupless
  | .myGroups => entry.InOneOf context.viewerGroups ∨ context.viewerGroups = [] ∧ entry.Groupless
  | .currentGroup => entry.InOneOf r.included
  | .mustHaveGroup => ¬entry.Groupless ∧ ¬entry.InOneOf r.excluded
  | .plain =>
    (r.included ≠ [] → entry.InOneOf r.included) ∧
      (r.excluded ≠ [] → entry.group ≠ none ∧ ¬entry.InOneOf r.excluded)

variable {entry : Entry}

theorem admittedBy_visible {context : Context} :
    AdmittedBy (context.memberships.value.map .visible) entry ↔ entry.VisibleTo context := by
  rw [Context.memberships_eq]
  unfold Entry.VisibleTo Context.viewerGroups
  cases context.viewer <;> simp [Viewer.user?, Predicate.Admits]

/-! ## §2. One request from the start. -/

namespace Parameters

variable {context : Context} {r : Resolution}

/-- Taken over by fresh parameters, a list is the effective one. -/
theorem effective_replaceBy (ids : List GroupId) : effective (replaceBy ids none) none = ids := by
  cases ids <;> rfl

/-- Fresh parameters hold the marker just when the directive asks for the viewer's groups. -/
theorem isMyGroups_fresh (h : Resolution.Outcome context {} r) :
    (absorb {} r).isMyGroups = decide (r.directive = .myGroups) := by
  rw [absorb_eq h]
  unfold isMyGroups groupAfter Resolution.isNoop
  cases r.directive <;> simp [settledGroup, hasExpression]

/-- **The set of one request from the start.** No id is lost if all of them are storable. -/
theorem compile_fresh (h : Resolution.Outcome context {} r)
    (hids : ∀ id, id ∈ r.included ∨ id ∈ r.excluded → id.isStorable = true) :
    ((absorb {} r).compile context).value =
      { group :=
          (if r.directive = .myGroups then context.memberships.value.map ofMemberships
            else none).or <|
            (ofIds? .inGroups r.included).or <|
              if r.directive = .noGroup then some .noGroup else none
        exclude := ofIds? .notInGroups r.excluded
        presence := if r.directive = .mustHaveGroup then some .hasGroup else none
        privacy := context.memberships.value.map .visible } := by
  have hincluded : storable r.included = r.included :=
    List.filter_eq_self.mpr fun id hid => hids id (.inl hid)
  have hexcluded : storable r.excluded = r.excluded :=
    List.filter_eq_self.mpr fun id hid => hids id (.inr hid)
  rw [compile_eq]
  unfold fragments effectiveIncluded effectiveExcluded
  rw [isMyGroups_fresh h, absorb_eq h]
  simp [effective_replaceBy, hincluded, hexcluded]

/-- The set admits what the viewer may see and the resolution wants. -/
theorem admits_fresh (h : Resolution.Outcome context {} r)
    (hids : ∀ id, id ∈ r.included ∨ id ∈ r.excluded → id.isStorable = true) :
    ((absorb {} r).compile context).value.Admits entry ↔
      entry.VisibleTo context ∧ r.Wants context entry := by
  rw [compile_fresh h hids, PredicateSet.admits_iff]
  simp only [admittedBy_visible]
  rw [← and_assoc, ← and_assoc, and_comm]
  unfold Resolution.Wants
  refine and_congr_right fun hvisible => ?_
  -- Which lists stand beside a directive is known, so each case has at most two fragments left.
  cases hd : r.directive with
  | plain => simp [admittedBy_ofIds?, Predicate.Admits]
  | currentGroup =>
    obtain ⟨hi, he⟩ := h.lists_of_currentGroup hd
    simp [admittedBy_ofIds?, Predicate.Admits, hi, he]
  | myGroups =>
    obtain ⟨hi, he⟩ := h.lists_of_idless (.inl hd)
    have hmine := Context.memberships_of_isUser (h.isUser_of_myGroups hd)
    simp [hmine, admits_ofMemberships, hi, he, ofIds?]
  | noGroup =>
    obtain ⟨hi, he⟩ := h.lists_of_idless (.inr hd)
    simp [Predicate.Admits, hi, he, ofIds?]
  | mustHaveGroup =>
    obtain ⟨hi, he⟩ := h.mustHaveGroup_iff.mp hd
    -- An entry of some group is not outside of the list merely because its group is missing.
    have hout : (entry.group ≠ none ∧ ¬entry.InOneOf r.excluded) ∧ ¬entry.Groupless ↔
        ¬entry.Groupless ∧ ¬entry.InOneOf r.excluded := by
      constructor
      · rintro ⟨⟨-, hn⟩, hg⟩
        exact ⟨hg, hn⟩
      · rintro ⟨hg, hn⟩
        exact ⟨⟨fun hmissing => hg (.inl hmissing), hn⟩, hg⟩
    simpa [admittedBy_ofIds?, Predicate.Admits, hi, he] using hout

end Parameters

/-! ## §3. All stages. -/

/-- **What a request selects.** For any expression, the condition that its parameters compile to
selects a row just when the viewer may see the entry and the resolution wants it. -/
theorem selects_request_iff (expression : Option Expression) {context : Context}
    {settings : Settings} {row : Row} (hc : settings.columns.check = .ok ())
    (hslug : ∀ slug id, context.directory.groupOf slug = .ok (some id) →
      id.toNat ≤ GroupId.maxStored)
    (hpage : ∀ id, context.page = some id → id.toNat ≤ GroupId.maxStored)
    (hr : entry.In settings.columns row) :
    let resolution := (resolve expression {} context settings).value
    let parameters := (Parameters.normalize {} { expression } context settings).value
    let set := (parameters.compile context).value
    Selects (set.joinedClause settings.columns) row ↔
      entry.VisibleTo context ∧ resolution.Wants context entry := by
  intro resolution parameters set
  have houtcome := resolve_outcome expression {} context settings
  have hids : ∀ id, id ∈ resolution.included ∨ id ∈ resolution.excluded →
      id.isStorable = true :=
    fun id hid => (houtcome.source hid).isStorable hslug hpage
  calc Selects (set.joinedClause settings.columns) row
    _ ↔ set.Admits entry :=
      PredicateSet.selects_joinedClause_iff hc (parameters.wellFormed_compile context) hr
    _ ↔ entry.VisibleTo context ∧ resolution.Wants context entry :=
      Parameters.admits_fresh houtcome hids

/-- A private entry of the team is selected for a member who asks for the team by its slug. -/
theorem selects_request_of_member :
    let directory : Directory :=
      { groupOf := fun slug => .ok (if slug = "team" then some 7 else none)
        groupsOf := fun _ => .ok [7] }
    let context : Context := { viewer := .user 5, directory }
    let row : Row := fun column => if column = "group_id" then some 7 else some 1
    let request : Request := { expression := some (.text "team") }
    let parameters := (Parameters.normalize {} request context {}).value
    Selects ((parameters.compile context).value.joinedClause {}) row := by
  intro directory context row request parameters
  have hslug : ∀ slug id, context.directory.groupOf slug = .ok (some id) →
      id.toNat ≤ GroupId.maxStored := by
    intro slug id h
    simp only [context, directory, Except.ok.injEq] at h
    split at h
    · injection h with h
      subst h
      decide
    · cases h
  have hvisible : Entry.VisibleTo ⟨some 7, 1⟩ context :=
    .inr (.inr ⟨rfl, .inr ⟨7, by decide, rfl⟩⟩)
  have hwants : (resolve request.expression {} context {}).value.Wants context ⟨some 7, 1⟩ := by
    have hresolution : (resolve request.expression {} context {}).value =
        { included := [7] } := by rfl
    rw [hresolution]
    exact ⟨fun _ => ⟨7, List.mem_singleton_self 7, rfl⟩, fun h => absurd rfl h⟩
  have hc : ({} : Settings).columns.check = .ok () := rfl
  have hr : Entry.In ⟨some 7, 1⟩ ({} : Settings).columns row := ⟨rfl, rfl⟩
  exact (selects_request_iff (some (.text "team")) hc hslug (by simp [context]) hr).mpr
    ⟨hvisible, hwants⟩

end GroupScope
