import GroupScope.Predicate.Compile
import GroupScope.Proofs.Lookup
import GroupScope.Proofs.Predicate.Meaning
/-!
# What parameters compile to

Six steps store fragments, and later ones replace earlier ones. Here the set that results is written
down at once, one content for each name:

    group      the viewer's groups, if the marker is there and somebody is logged in;
               else the ids to include; else no group, if only such items are wanted
    exclude    the ids to exclude
    presence   some group, if only such items are wanted
    privacy    what the viewer may see, if somebody is logged in

The main statement is `compile_eq`.
-/

namespace GroupScope

/-! ## §1. Steps. -/

namespace PredicateSet

@[simp] theorem value_add (set : PredicateSet) (name : PredicateName) (p : Predicate) :
    (set.add name p).value = set.update name (some p) := by
  unfold add insert
  cases set.get? name <;> rfl

/-- Storing what may be missing keeps what was there if it is. -/
theorem value_addSome (set : PredicateSet) (name : PredicateName) (content : Option Predicate) :
    (set.addSome name content).value = set.update name (content.or (set.get? name)) := by
  cases content with
  | some p => exact value_add set name p
  | none => cases name <;> rfl

/-- The marker stores the viewer's groups, if somebody is logged in. -/
theorem value_addMarker (set : PredicateSet) (memberships : Option (List GroupId)) :
    (set.addMarker memberships).value =
      set.update .group ((memberships.map ofMemberships).or set.group) := by
  cases memberships with
  | some groups => exact value_add set .group (ofMemberships groups)
  | none => rfl

end PredicateSet

/-! ## §2. All steps. -/

namespace Parameters

theorem effective_eq {derived native : Option (List GroupId)} :
    effective derived native =
      if derived.getD [] = [] then native.getD [] else derived.getD [] := by
  cases derived with
  | none => rfl
  | some ids =>
    cases ids with
    | nil => rfl
    | cons id ids => rfl

/-- The fragments of the parameters for a viewer with the given memberships. -/
def fragments (p : Parameters) (memberships : Option (List GroupId)) : PredicateSet :=
  { group :=
      (if p.isMyGroups then memberships.map ofMemberships else none).or <|
        (ofIds? .inGroups (storable p.effectiveIncluded)).or <|
          if p.withoutGroup then some .noGroup else none
    exclude := ofIds? .notInGroups (storable p.effectiveExcluded)
    presence := if p.withGroup then some .hasGroup else none
    privacy := memberships.map .visible }

/-- **The set that parameters compile to**, content by content. -/
theorem compile_eq (p : Parameters) (context : Context) :
    (p.compile context).value = p.fragments context.memberships.value := by
  -- Only `group` is stored under more than once, and there the last step comes first.
  unfold compile fragments
  simp only [Logged.value_bind, PredicateSet.value_addSome]
  cases p.isMyGroups with
  | true =>
    simp [PredicateSet.value_addMarker, PredicateSet.value_addSome, PredicateSet.update,
      PredicateSet.get?, PredicateSet.empty]
  | false =>
    simp [PredicateSet.value_addSome, PredicateSet.update, PredicateSet.get?, PredicateSet.empty]

end Parameters

/-! ## §3. What compiled sets hold. -/

/-- A predicate under the name that parameters store it under. A list is stored only if it is not
empty. -/
inductive Stored : PredicateName → Predicate → Prop
  | noGroup : Stored .group .noGroup
  | inGroups {ids : List GroupId} (h : ids ≠ []) : Stored .group (.inGroups ids)
  | notInGroups {ids : List GroupId} (h : ids ≠ []) : Stored .exclude (.notInGroups ids)
  | hasGroup : Stored .presence .hasGroup
  | visible (memberOf : List GroupId) : Stored .privacy (.visible memberOf)

theorem Stored.wellFormed {name : PredicateName} {q : Predicate} (h : Stored name q) :
    q.WellFormed := by
  cases h with
  | inGroups h | notInGroups h => exact h
  | noGroup | hasGroup | visible => trivial

theorem ofIds?_eq_some_iff {f : List GroupId → Predicate} {ids : List GroupId} {q : Predicate} :
    ofIds? f ids = some q ↔ ids ≠ [] ∧ f ids = q := by
  cases ids <;> simp [ofIds?]

theorem stored_ofMemberships (groups : List GroupId) : Stored .group (ofMemberships groups) := by
  cases groups with
  | nil => exact .noGroup
  | cons id ids => exact .inGroups (List.cons_ne_nil id ids)

namespace Parameters

/-- **What a compiled set can hold.** -/
theorem stored_of_get?_compile {p : Parameters} {context : Context} {name : PredicateName}
    {q : Predicate} (h : (p.compile context).value.get? name = some q) : Stored name q := by
  rw [compile_eq] at h
  cases name with
  | group =>
    simp only [fragments, PredicateSet.get?, Option.or_eq_some_iff] at h
    obtain h | ⟨-, h | ⟨-, h⟩⟩ := h
    · split at h
      next =>
        obtain ⟨groups, -, rfl⟩ := Option.map_eq_some_iff.mp h
        exact stored_ofMemberships groups
      next => cases h
    · obtain ⟨hne, rfl⟩ := ofIds?_eq_some_iff.mp h
      exact .inGroups hne
    · split at h <;> cases h
      exact .noGroup
  | exclude =>
    obtain ⟨hne, rfl⟩ := ofIds?_eq_some_iff.mp h
    exact .notInGroups hne
  | presence =>
    simp only [fragments, PredicateSet.get?] at h
    split at h <;> cases h
    exact .hasGroup
  | privacy =>
    obtain ⟨memberOf, -, rfl⟩ := Option.map_eq_some_iff.mp h
    exact .visible memberOf

theorem wellFormed_compile (p : Parameters) (context : Context) :
    (p.compile context).value.WellFormed := by
  intro name q h
  exact (stored_of_get?_compile h).wellFormed

end Parameters

/-! ## §4. What compiled fragments admit. -/

/-- The fragment of a list matters only if the list is not empty. -/
theorem admittedBy_ofIds? {f : List GroupId → Predicate} {ids : List GroupId} {entry : Entry} :
    AdmittedBy (ofIds? f ids) entry ↔ (ids ≠ [] → (f ids).Admits entry) := by
  cases ids <;> simp [ofIds?]

theorem admits_ofMemberships {groups : List GroupId} {entry : Entry} :
    (ofMemberships groups).Admits entry ↔
      entry.InOneOf groups ∨ groups = [] ∧ entry.Groupless := by
  cases groups <;> simp [ofMemberships, Predicate.Admits, Entry.InOneOf]

/-! ## §5. Fragments switched off. -/

namespace PredicateSet

/-- The names that are switched off have no content, and all others keep theirs. -/
theorem get?_without (set : PredicateSet) (names : List PredicateName) (name : PredicateName) :
    (set.without names).get? name = if name ∈ names then none else set.get? name := by
  unfold without
  -- A name may be listed twice; removing it again changes nothing.
  induction names generalizing set with
  | nil => simp
  | cons first names ih =>
    rw [List.foldl_cons, ih]
    by_cases h : name = first
    · subst h
      simp
    · simp [h, get?_update_of_ne]

theorem WellFormed.without {set : PredicateSet} (h : set.WellFormed)
    (names : List PredicateName) : (set.without names).WellFormed := by
  intro name p hp
  rw [get?_without] at hp
  split at hp
  · cases hp
  · exact h name p hp

end PredicateSet

end GroupScope
