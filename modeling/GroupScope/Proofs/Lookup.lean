import GroupScope.Lookup
/-!
# What lookups answer

Every lookup has an answer, whatever the directory does. This file says which: an id is the answer
just when the directory gives it and it is not zero, and a failure is the same as no answer.

    (context.resolveSlug slug).value = some id  ↔  groupOf slug = ok (some id)  ∧  0 < id
    context.memberships.value  =  the groups of the user who is logged in, if there is one
-/

namespace GroupScope.Context

variable {context : Context} {id : GroupId}

/-! ## §1. Groups. -/

theorem currentGroup_eq_some_iff :
    context.currentGroup = some id ↔ context.page = some id ∧ 0 < id := by
  unfold currentGroup
  simp [Option.filter_eq_some_iff]

/-- A slug has the group that the directory gives, unless it is zero. -/
theorem resolveSlug_eq_some_iff {slug : String} :
    (context.resolveSlug slug).value = some id ↔
      context.directory.groupOf slug = .ok (some id) ∧ 0 < id := by
  unfold resolveSlug
  cases context.directory.groupOf slug with
  | ok found => simp [Option.filter_eq_some_iff]
  | error failure => simp

/-! ## §2. Memberships. -/

/-- The groups that a user belongs to: what the directory lists without zeros, or none after a
failure. -/
def groupsOf (context : Context) (user : UserId) : List GroupId :=
  match context.directory.groupsOf user with
  | .ok groups => groups.filter fun id => 0 < id
  | .error _ => []

/-- The groups of the viewer; an anonymous one has none. -/
def viewerGroups (context : Context) : List GroupId :=
  match context.viewer with
  | .anonymous => []
  | .user user => context.groupsOf user

/-- Memberships are the groups of the user who is logged in. -/
theorem memberships_eq (context : Context) :
    context.memberships.value = context.viewer.user?.map context.groupsOf := by
  unfold memberships groupsOf
  cases context.viewer with
  | anonymous => rfl
  | user user =>
    simp only [Viewer.user?, Option.map_some]
    cases context.directory.groupsOf user <;> simp

/-- A viewer who is logged in has memberships, be it none. -/
theorem memberships_of_isUser (h : context.viewer.isUser = true) :
    context.memberships.value = some context.viewerGroups := by
  rw [memberships_eq]
  unfold viewerGroups
  cases hviewer : context.viewer with
  | anonymous =>
    rw [hviewer] at h
    cases h
  | user user => rfl

theorem mem_groupsOf_iff {user : UserId} :
    id ∈ context.groupsOf user ↔
      ∃ groups, context.directory.groupsOf user = .ok groups ∧ id ∈ groups ∧ 0 < id := by
  unfold groupsOf
  cases context.directory.groupsOf user <;> simp

end GroupScope.Context
