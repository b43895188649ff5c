import GroupScope.Proofs.Parameters.Update
import GroupScope.Proofs.Predicate.Compiled
import GroupScope.Proofs.Resolution.Ids
/-!
# What becomes of resolved ids

A resolution that lists ids is folded into some parameters, and these are compiled. Its lists come
out as fragments without change just when every id in them fits a signed word; ids that do not fit
are left out, and a list of such ids leaves no fragment at all:

    set.get? .group    =  one of the storable ids to include, if there are any, else what was there
    set.get? .exclude  =  none of the storable ids to exclude, if there are any

Numbers always fit. Ids that a directory or a page gives are only known to be positive.
-/

namespace GroupScope

/-! ## §1. Lists of storable ids. -/

theorem storable_eq_self_iff {ids : List GroupId} :
    storable ids = ids ↔ ∀ id ∈ ids, id.toNat ≤ GroupId.maxStored := by
  unfold storable
  rw [List.filter_eq_self]
  simp only [GroupId.isStorable, decide_eq_true_eq]

/-- A list is compiled as it is just when it has ids and all of them are storable. -/
theorem ofIds?_storable_eq_some_iff {f : List GroupId → Predicate} (hf : f.Injective)
    {ids : List GroupId} (hne : ids ≠ []) :
    ofIds? f (storable ids) = some (f ids) ↔ ∀ id ∈ ids, id.toNat ≤ GroupId.maxStored := by
  rw [← storable_eq_self_iff, ofIds?_eq_some_iff, hf.eq_iff, and_iff_right_iff_imp]
  intro h
  rwa [h]

/-! ## §2. The fragments after a resolution is absorbed. -/

namespace Parameters

variable {context : Context} {native : NativeLists} {r : Resolution}

/-- A list that was just derived is the effective one. -/
theorem effective_replaceBy_of_ne_nil {ids : List GroupId} (h : ids ≠ [])
    (old native : Option (List GroupId)) : effective (replaceBy ids old) native = ids := by
  cases ids with
  | nil => exact absurd rfl h
  | cons id ids => rfl

/-- Ids to include leave no marker behind. -/
theorem isMyGroups_absorb_of_included (h : Resolution.Outcome context native r)
    (hne : r.included ≠ []) (p : Parameters) : (p.absorb r).isMyGroups = false := by
  have hdirective : r.directive ≠ .myGroups := by
    intro hd
    exact hne (h.lists_of_idless (.inl hd)).1
  have hnoop : r.isNoop = false := by
    unfold Resolution.isNoop
    rw [List.isEmpty_eq_false_iff.mpr hne, Bool.and_false, Bool.false_and]
  rw [absorb_eq h]
  unfold isMyGroups groupAfter
  rw [hnoop, if_neg hdirective]
  rfl

/-- Ids to include decide the fragment of wanted groups, as far as they are storable. -/
theorem get?_group_compile_absorb (h : Resolution.Outcome context native r)
    (hne : r.included ≠ []) (p : Parameters) (viewing : Context) :
    ((p.absorb r).compile viewing).value.get? .group =
      (ofIds? .inGroups (storable r.included)).or
        (if (p.absorb r).withoutGroup then some .noGroup else none) := by
  have heffective : (p.absorb r).effectiveIncluded = r.included := by
    unfold effectiveIncluded
    rw [absorb_eq h]
    exact effective_replaceBy_of_ne_nil hne _ _
  rw [compile_eq]
  unfold fragments
  rw [isMyGroups_absorb_of_included h hne, heffective]
  rfl

/-- Ids to exclude decide the fragment of unwanted groups, as far as they are storable. -/
theorem get?_exclude_compile_absorb (h : Resolution.Outcome context native r)
    (hne : r.excluded ≠ []) (p : Parameters) (viewing : Context) :
    ((p.absorb r).compile viewing).value.get? .exclude =
      ofIds? .notInGroups (storable r.excluded) := by
  have heffective : (p.absorb r).effectiveExcluded = r.excluded := by
    unfold effectiveExcluded
    rw [absorb_eq h]
    exact effective_replaceBy_of_ne_nil hne _ _
  rw [compile_eq]
  unfold fragments
  rw [heffective]
  rfl

end Parameters

/-! ## §3. Any expression. -/

/-- **Resolved lists are compiled as they are, if all their ids are storable**, and only then,
whatever the parameters were before and whoever looks. Resolved ids are positive. They are storable
as long as the directory and the page give no greater ones. -/
theorem compiled_as_resolved_iff (expression : Option Expression) (native : NativeLists)
    (context : Context) (settings : Settings) (existing : Parameters) (viewing : Context) :
    let r := (resolve expression native context settings).value
    let set := ((existing.absorb r).compile viewing).value
    (∀ id, id ∈ r.included ∨ id ∈ r.excluded → 0 < id)
      ∧ (r.included ≠ [] →
          (set.get? .group = some (.inGroups r.included) ↔
            ∀ id ∈ r.included, id.toNat ≤ GroupId.maxStored))
      ∧ (r.excluded ≠ [] →
          (set.get? .exclude = some (.notInGroups r.excluded) ↔
            ∀ id ∈ r.excluded, id.toNat ≤ GroupId.maxStored))
      ∧ ((∀ slug id, context.directory.groupOf slug = .ok (some id) →
            id.toNat ≤ GroupId.maxStored) →
          (∀ id, context.page = some id → id.toNat ≤ GroupId.maxStored) →
          ∀ id, id ∈ r.included ∨ id ∈ r.excluded → id.toNat ≤ GroupId.maxStored) := by
  intro r set
  have houtcome : Resolution.Outcome context native r :=
    resolve_outcome expression native context settings
  refine ⟨?_, ?_, ?_, ?_⟩
  · intro id hid
    exact (houtcome.source hid).pos
  · intro hne
    have hinjective : Function.Injective Predicate.inGroups := fun _ _ h => by injection h
    rw [← ofIds?_storable_eq_some_iff hinjective hne]
    show ((existing.absorb r).compile viewing).value.get? .group = _ ↔ _
    rw [Parameters.get?_group_compile_absorb houtcome hne, Option.or_eq_some_iff]
    -- What else may stand under the name is no list.
    constructor
    · rintro (h | ⟨-, h⟩)
      · exact h
      · split at h <;> cases h
    · exact Or.inl
  · intro hne
    have hinjective : Function.Injective Predicate.notInGroups := fun _ _ h => by injection h
    rw [← ofIds?_storable_eq_some_iff hinjective hne]
    show ((existing.absorb r).compile viewing).value.get? .exclude = _ ↔ _
    rw [Parameters.get?_exclude_compile_absorb houtcome hne]
  · intro hslug hpage id hid
    have hstorable := (houtcome.source hid).isStorable hslug hpage
    unfold GroupId.isStorable at hstorable
    exact of_decide_eq_true hstorable

/-- A team found by its slug and a number to exclude become fragments as they are, though the
parameters held the marker, asked for items without a group and had a native list. -/
theorem compiled_as_resolved_of_team :
    let directory : Directory :=
      { groupOf := fun slug => .ok (if slug = "team" then some 7 else none)
        groupsOf := fun _ => .ok [4] }
    let context : Context := { viewer := .user 5, directory }
    let existing : Parameters :=
      { group := some .my, withoutGroup := true, nativeIncluded := some [3] }
    let r := (resolve (some (.text "team, -9")) {} context {}).value
    let set := ((existing.absorb r).compile context).value
    set.get? .group = some (.inGroups [7]) ∧ set.get? .exclude = some (.notInGroups [9]) := by
  intro directory context existing r set
  have hincluded : r.included = [7] := by rfl
  have hexcluded : r.excluded = [9] := by rfl
  obtain ⟨-, hgroup, hexclude, hfits⟩ :=
    compiled_as_resolved_iff (some (.text "team, -9")) {} context {} existing context
  have hall : ∀ id, id ∈ r.included ∨ id ∈ r.excluded → id.toNat ≤ GroupId.maxStored := by
    refine hfits ?_ ?_
    · intro slug id h
      simp only [context, directory, Except.ok.injEq] at h
      split at h
      · injection h with h
        subst h
        decide
      · cases h
    · intro id h
      cases h
  have h := (hgroup (by rw [hincluded]; simp)).mpr fun id hid => hall id (.inl hid)
  have h' := (hexclude (by rw [hexcluded]; simp)).mpr fun id hid => hall id (.inr hid)
  rw [hincluded] at h
  rw [hexcluded] at h'
  exact ⟨h, h'⟩

/-- A slug whose group does not fit a signed word is resolved, and then narrows nothing: the lists
hold its id, and there is no clause. -/
theorem oversized_team_selects_everything :
    let directory : Directory :=
      { groupOf := fun slug => .ok (if slug = "big" then some 9223372036854775808 else none)
        groupsOf := fun _ => .ok [] }
    let context : Context := { viewer := .anonymous, directory }
    let r := (resolve (some (.text "big")) {} context {}).value
    let set := ((Parameters.absorb {} r).compile context).value
    r.included = [9223372036854775808] ∧ ¬(9223372036854775808 : GroupId).toNat ≤ GroupId.maxStored
      ∧ set.get? .group = none ∧ set.joinedClause {} = none := by
  intro directory context r set
  have hincluded : r.included = [9223372036854775808] := by rfl
  have hoversized : ¬(9223372036854775808 : GroupId).toNat ≤ GroupId.maxStored := by decide
  exact ⟨hincluded, hoversized, by rfl, by rfl⟩

end GroupScope
