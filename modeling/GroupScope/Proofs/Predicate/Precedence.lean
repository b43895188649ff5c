import GroupScope.Proofs.Predicate.Compiled
/-!
# Which fragment wins

Three steps of compiling write the fragment of wanted groups, and each list of ids has two sources.
Here the order among them is written down, from the first that applies to the last:

    group      the viewer's own groups, or no group if there are none   marker, user logged in
               one of the ids to include                                some id is kept
               no group                                                 only such items are wanted
    ids        the derived list                                         it has an id
               the native list

A list is chosen before its ids are looked at, so a derived list whose ids do not fit hides the
native one all the same. An expression that is not resolved writes nothing. The main statement is
`compile_precedence`.
-/

namespace GroupScope

/-! ## §1. Lists. -/

/-- The ids of the list that counts, as far as a signed column can hold them. -/
def keptIds (derived native : Option (List GroupId)) : List GroupId :=
  let ids := if derived.getD [] = [] then native.getD [] else derived.getD []
  ids.filter fun id => id.toNat ≤ GroupId.maxStored

theorem storable_effective (derived native : Option (List GroupId)) :
    storable (Parameters.effective derived native) = keptIds derived native := by
  rw [Parameters.effective_eq]
  rfl

/-- Beside a derived list that has an id, it does not matter what the native list is. -/
theorem keptIds_cons (id : GroupId) (ids : List GroupId) (native : Option (List GroupId)) :
    keptIds (some (id :: ids)) native = keptIds (some (id :: ids)) none := by
  unfold keptIds
  rw [Option.getD_some, if_neg (List.cons_ne_nil id ids), if_neg (List.cons_ne_nil id ids)]

theorem ofIds?_eq_ite (f : List GroupId → Predicate) (ids : List GroupId) :
    ofIds? f ids = if ids ≠ [] then some (f ids) else none := by
  cases ids <;> rfl

/-! ## §2. The viewer. -/

/-- Memberships are known just when somebody is logged in. -/
theorem Context.memberships_eq_ite (context : Context) :
    context.memberships.value =
      if context.viewer.isUser = true then some context.viewerGroups else none := by
  cases huser : context.viewer.isUser with
  | true => exact memberships_of_isUser huser
  | false =>
    have hanonymous : context.viewer.user? = none :=
      Option.isNone_iff_eq_none.mp (Option.isSome_eq_false_iff.mp huser)
    rw [memberships_eq, hanonymous]
    rfl

theorem ofMemberships_eq_ite (groups : List GroupId) :
    ofMemberships groups = if groups = [] then .noGroup else .inGroups groups := by
  cases groups <;> rfl

namespace Parameters

theorem isMyGroups_iff {p : Parameters} : p.isMyGroups = true ↔ p.group = some .my := by
  unfold isMyGroups
  split
  next h => simp [h]
  next h => simpa using h

/-! ## §3. The set. -/

variable (p : Parameters) (context : Context)

/-- **Who writes the fragment of wanted groups.** -/
theorem get?_group_compile :
    (p.compile context).value.get? .group =
      if p.group = some .my ∧ context.viewer.isUser = true then
        some (if context.viewerGroups = [] then .noGroup else .inGroups context.viewerGroups)
      else if keptIds p.included p.nativeIncluded ≠ [] then
        some (.inGroups (keptIds p.included p.nativeIncluded))
      else if p.withoutGroup = true then some .noGroup
      else none := by
  have hincluded : storable p.effectiveIncluded = keptIds p.included p.nativeIncluded :=
    storable_effective ..
  rw [compile_eq, context.memberships_eq_ite]
  simp only [PredicateSet.get?, fragments, hincluded, ofIds?_eq_ite, isMyGroups_iff]
  by_cases hmarker : p.group = some .my ∧ context.viewer.isUser = true
  · simp only [hmarker, and_self, if_true, Option.map_some, Option.some_or, ofMemberships_eq_ite]
  · have hnothing : (if p.group = some .my then
        (if context.viewer.isUser = true then some context.viewerGroups else none).map
          ofMemberships else none) = none := by
      by_cases hmy : p.group = some .my
      · rw [if_pos hmy, if_neg fun huser => hmarker ⟨hmy, huser⟩, Option.map_none]
      · rw [if_neg hmy]
    rw [hnothing, if_neg hmarker, Option.none_or]
    by_cases hkept : keptIds p.included p.nativeIncluded = []
    · simp only [hkept, ne_eq, not_true_eq_false, if_false, Option.none_or]
    · simp only [hkept, ne_eq, not_false_eq_true, if_true, Option.some_or]

theorem get?_exclude_compile :
    (p.compile context).value.get? .exclude =
      if keptIds p.excluded p.nativeExcluded ≠ [] then
        some (.notInGroups (keptIds p.excluded p.nativeExcluded))
      else none := by
  have hexcluded : storable p.effectiveExcluded = keptIds p.excluded p.nativeExcluded :=
    storable_effective ..
  rw [compile_eq]
  simp only [PredicateSet.get?, fragments, hexcluded, ofIds?_eq_ite]

theorem get?_presence_compile :
    (p.compile context).value.get? .presence =
      if p.withGroup = true then some .hasGroup else none := by
  rw [compile_eq]
  rfl

theorem get?_privacy_compile_eq_ite :
    (p.compile context).value.get? .privacy =
      if context.viewer.isUser = true then some (.visible context.viewerGroups) else none := by
  rw [compile_eq, context.memberships_eq_ite]
  simp only [PredicateSet.get?, fragments]
  split <;> rfl

/-- Parameters with the same marker, the same kept ids and the same flags compile to the same set.
-/
theorem value_compile_eq_of_kept {p q : Parameters}
    (hgroup : p.group = some .my ↔ q.group = some .my)
    (hincluded : keptIds p.included p.nativeIncluded = keptIds q.included q.nativeIncluded)
    (hexcluded : keptIds p.excluded p.nativeExcluded = keptIds q.excluded q.nativeExcluded)
    (hwithout : p.withoutGroup = q.withoutGroup) (hwith : p.withGroup = q.withGroup) :
    (p.compile context).value = (q.compile context).value := by
  apply PredicateSet.ext_get?
  intro name
  cases name with
  | group => simp only [get?_group_compile, hgroup, hincluded, hwithout]
  | exclude => simp only [get?_exclude_compile, hexcluded]
  | presence => simp only [get?_presence_compile, hwith]
  | privacy => simp only [get?_privacy_compile_eq_ite]

/-- **Exact precedence of fragments.** The set holds under each name what the first writer that
applies puts there, with the ids in their order and as often as they are listed, and nothing under a
name that nobody writes. An expression that is not resolved counts for nothing, and beside a derived
list that has an id, so does the native list. -/
theorem compile_precedence (p : Parameters) (context : Context) :
    let included := keptIds p.included p.nativeIncluded
    let excluded := keptIds p.excluded p.nativeExcluded
    let groups := context.viewerGroups
    let set := (p.compile context).value
    (set.get? .group =
        if p.group = some .my ∧ context.viewer.isUser = true then
          some (if groups = [] then .noGroup else .inGroups groups)
        else if included ≠ [] then some (.inGroups included)
        else if p.withoutGroup = true then some .noGroup
        else none)
      ∧ (set.get? .exclude = if excluded ≠ [] then some (.notInGroups excluded) else none)
      ∧ (set.get? .presence = if p.withGroup = true then some .hasGroup else none)
      ∧ (set.get? .privacy =
          if context.viewer.isUser = true then some (.visible groups) else none)
      ∧ (∀ expression : Expression,
          (({ p with group := some (.expression expression) } : Parameters).compile context).value =
            (({ p with group := none } : Parameters).compile context).value)
      ∧ ∀ (id : GroupId) (ids : List GroupId) (native : Option (List GroupId)),
          (({ p with included := some (id :: ids), nativeIncluded := native } :
              Parameters).compile context).value =
            (({ p with included := some (id :: ids) } : Parameters).compile context).value
          ∧ (({ p with excluded := some (id :: ids), nativeExcluded := native } :
              Parameters).compile context).value =
            (({ p with excluded := some (id :: ids) } : Parameters).compile context).value := by
  intro included excluded groups set
  refine ⟨p.get?_group_compile context, p.get?_exclude_compile context,
    p.get?_presence_compile context, p.get?_privacy_compile_eq_ite context, ?_, ?_⟩
  · intro expression
    exact value_compile_eq_of_kept context (by simp) rfl rfl rfl rfl
  · intro id ids native
    have hkept : ∀ other, keptIds (some (id :: ids)) native = keptIds (some (id :: ids)) other := by
      intro other
      rw [keptIds_cons id ids native, keptIds_cons id ids other]
    exact ⟨value_compile_eq_of_kept context Iff.rfl (hkept _) rfl rfl rfl,
      value_compile_eq_of_kept context Iff.rfl rfl (hkept _) rfl rfl⟩

end Parameters

end GroupScope
