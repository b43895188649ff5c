import GroupScope.Parameters.Absorb
import GroupScope.Proofs.Predicate.Compiled
import GroupScope.Proofs.Resolution.Answers
/-!
# A failed lookup is a miss

A directory may fail to answer, slug by slug and user by user. None of that is visible in what a
search yields: everything is as with a directory that answers every lookup, in which the failing
slugs do not exist and the failing users belong to no group.

    failing directory   ≃   total directory without the failing slugs and memberships

The main statement is `failure_is_miss`. It also says which items a failure can reach: those that
name a failing slug, and no others.
-/

namespace GroupScope

/-! ## §1. Directories that fail. -/

namespace Directory

/-- The directory, with some lookups failing. -/
def failingAt (directory : Directory) (slugs : String → Option LookupFailure)
    (users : UserId → Option LookupFailure) : Directory where
  groupOf slug :=
    match slugs slug with
    | some failure => .error failure
    | none => directory.groupOf slug
  groupsOf user :=
    match users user with
    | some failure => .error failure
    | none => directory.groupsOf user

/-- The group that an answer gives: none after a failure, and never zero. -/
def settledGroup : Except LookupFailure (Option GroupId) → Option GroupId
  | .ok found => found.filter fun id => 0 < id
  | .error _ => none

/-- The groups that an answer gives: none after a failure, and never zero. -/
def settledGroups : Except LookupFailure (List GroupId) → List GroupId
  | .ok groups => groups.filter fun id => 0 < id
  | .error _ => []

/-- The directory that answers every lookup: what fails is missing, and so is zero. -/
def total (directory : Directory) : Directory where
  groupOf slug := .ok (settledGroup (directory.groupOf slug))
  groupsOf user := .ok (settledGroups (directory.groupsOf user))

/-- The directory that answers every lookup, without some slugs and without the memberships of some
users. -/
def missingAt (directory : Directory) (slugs : String → Option LookupFailure)
    (users : UserId → Option LookupFailure) : Directory where
  groupOf slug :=
    .ok (if (slugs slug).isSome then none else settledGroup (directory.groupOf slug))
  groupsOf user :=
    .ok (if (users user).isSome then [] else settledGroups (directory.groupsOf user))

/-- What fails to be looked up is missing. -/
theorem total_failingAt (directory : Directory) (slugs : String → Option LookupFailure)
    (users : UserId → Option LookupFailure) :
    (directory.failingAt slugs users).total = directory.missingAt slugs users := by
  unfold total failingAt missingAt
  congr 1
  · funext slug
    cases h : slugs slug <;> simp [h, settledGroup]
  · funext user
    cases h : users user <;> simp [h, settledGroups]

theorem settledGroup_ne_zero (answer : Except LookupFailure (Option GroupId)) :
    settledGroup answer ≠ some 0 := by
  cases answer with
  | error failure => nofun
  | ok found =>
    intro hzero
    exact absurd (Option.filter_eq_some_iff.mp hzero).2 (by decide)

theorem zero_not_mem_settledGroups (answer : Except LookupFailure (List GroupId)) :
    0 ∉ settledGroups answer := by
  cases answer with
  | error failure => exact List.not_mem_nil
  | ok groups =>
    intro hzero
    exact absurd (List.mem_filter.mp hzero).2 (by decide)

/-- Settling an answer once is enough. -/
theorem settledGroup_ok (answer : Except LookupFailure (Option GroupId)) :
    settledGroup (.ok (settledGroup answer)) = settledGroup answer := by
  cases answer with
  | error failure => rfl
  | ok found => simp [settledGroup]

theorem settledGroups_ok (answer : Except LookupFailure (List GroupId)) :
    settledGroups (.ok (settledGroups answer)) = settledGroups answer := by
  cases answer with
  | error failure => rfl
  | ok groups => simp [settledGroups]

/-- Every lookup is answered, and never with zero. -/
def IsTotal (directory : Directory) : Prop :=
  (∀ slug, ∃ found, directory.groupOf slug = .ok found ∧ found ≠ some 0)
    ∧ ∀ user, ∃ groups, directory.groupsOf user = .ok groups ∧ 0 ∉ groups

theorem isTotal_total (directory : Directory) : directory.total.IsTotal := by
  constructor
  · intro slug
    exact ⟨_, rfl, settledGroup_ne_zero _⟩
  · intro user
    exact ⟨_, rfl, zero_not_mem_settledGroups _⟩

end Directory

/-! ## §2. Lookups. -/

namespace Context

/-- The context with the total directory. -/
def total (context : Context) : Context := { context with directory := context.directory.total }

theorem value_resolveSlug (context : Context) (slug : String) :
    (context.resolveSlug slug).value = Directory.settledGroup (context.directory.groupOf slug) := by
  unfold resolveSlug
  cases context.directory.groupOf slug <;> rfl

theorem groupsOf_eq (context : Context) (user : UserId) :
    context.groupsOf user = Directory.settledGroups (context.directory.groupsOf user) := by
  unfold groupsOf
  cases context.directory.groupsOf user <;> rfl

theorem value_memberships_total (context : Context) :
    context.total.memberships.value = context.memberships.value := by
  have hgroups : context.total.groupsOf = context.groupsOf := by
    funext user
    rw [groupsOf_eq, groupsOf_eq]
    exact Directory.settledGroups_ok _
  rw [memberships_eq, memberships_eq, hgroups]
  rfl

end Context

/-- The answer to an item, written without events. -/
theorem Item.value_resolve (item : Item) (context : Context) :
    (item.resolve context).value =
      match item.reference with
      | .id id => id
      | .slug slug =>
        if slug.isEmpty then none
        else Directory.settledGroup (context.directory.groupOf slug) := by
  unfold resolve
  cases item.reference with
  | id id => rfl
  | slug slug =>
    by_cases hempty : slug.isEmpty = true
    · simp only [hempty, if_true]
      rfl
    · simp only [hempty]
      exact context.value_resolveSlug slug

theorem Item.value_resolve_total (item : Item) (context : Context) :
    (item.resolve context.total).value = (item.resolve context).value := by
  rw [value_resolve, value_resolve]
  cases item.reference with
  | id id => rfl
  | slug slug =>
    show (if slug.isEmpty then none else Directory.settledGroup (.ok _)) = _
    rw [Directory.settledGroup_ok]

/-! ## §3. Items that a failure reaches. -/

/-- The item names a slug that cannot be looked up. -/
def Item.failsIn (slugs : String → Option LookupFailure) (item : Item) : Bool :=
  match item.reference with
  | .id _ => false
  | .slug slug => (slugs slug).isSome

/-- Items that name a failing slug are misses; the others keep their answers. -/
theorem Item.value_resolve_failingAt (item : Item) (context : Context)
    (slugs : String → Option LookupFailure) (users : UserId → Option LookupFailure) :
    (item.resolve { context with directory := context.directory.failingAt slugs users }).value =
      if item.failsIn slugs then none else (item.resolve context).value := by
  rw [value_resolve, value_resolve]
  unfold failsIn Directory.failingAt
  cases item.reference with
  | id id => rfl
  | slug slug =>
    -- The empty slug is not looked up, and is a miss whether or not its lookup would fail.
    cases h : slugs slug with
    | none => simp [h]
    | some failure => simp [h, Directory.settledGroup]

/-! ## §4. Reading. -/

namespace Parameters

/-- Reads parameters and request. -/
def read (existing request : Json) : Except FilterError (Parameters × Request) := do
  let existing ← Parameters.ofJson existing
  let request ← Request.ofJson request
  pure (existing, request)

theorem normalizeJson_eq (existing request : Json) (context : Context) (settings : Settings) :
    normalizeJson existing request context settings =
      (read existing request).map fun pair => pair.1.normalize pair.2 context settings := by
  unfold normalizeJson read
  cases Parameters.ofJson existing with
  | error e => rfl
  | ok p =>
    cases Request.ofJson request with
    | error e => rfl
    | ok r => rfl

/-- **Only reading can fail**, and it does not look at the context. -/
theorem normalizeJson_eq_error_iff {existing request : Json} {context : Context}
    {settings : Settings} {e : FilterError} :
    normalizeJson existing request context settings = .error e ↔
      read existing request = .error e := by
  rw [normalizeJson_eq]
  cases read existing request with
  | error fault => simp [Except.map]
  | ok pair => exact iff_of_false nofun nofun

end Parameters

/-! ## §5. All stages. -/

/-- All stages of a search yield the same in both contexts. -/
structure Context.SameOutcomes (context other : Context) (settings : Settings) : Prop where
  resolution : ∀ expression native,
    (resolve expression native context settings).value =
      (resolve expression native other settings).value
  parameters : ∀ (existing : Parameters) (request : Request),
    (existing.normalize request context settings).value =
      (existing.normalize request other settings).value
  values : ∀ existing request,
    (Parameters.normalizeJson existing request context settings).map Logged.value =
      (Parameters.normalizeJson existing request other settings).map Logged.value
  fragments : ∀ p : Parameters, (p.compile context).value = (p.compile other).value

theorem Parameters.value_normalize (existing : Parameters) (request : Request)
    (context : Context) (settings : Settings) :
    (existing.normalize request context settings).value =
      existing.absorb (resolve request.expression request.native context settings).value := rfl

theorem Context.sameOutcomes_total (context : Context) (settings : Settings) :
    context.SameOutcomes context.total settings := by
  -- Resolving takes answers to items from the directory and compiling takes memberships; neither
  -- looks at anything else in it.
  have hgroup : context.currentGroup = context.total.currentGroup := rfl
  have huser : context.viewer.isUser = context.total.viewer.isUser := rfl
  have hresolution : ∀ expression native,
      (resolve expression native context settings).value =
        (resolve expression native context.total settings).value := by
    intro expression native
    apply value_resolve_congr hgroup huser
    intro e _ item _
    exact (item.value_resolve_total context).symm
  have hparameters : ∀ (existing : Parameters) (request : Request),
      (existing.normalize request context settings).value =
        (existing.normalize request context.total settings).value := by
    intro existing request
    rw [Parameters.value_normalize, Parameters.value_normalize, hresolution]
  have hvalues : ∀ existing request,
      (Parameters.normalizeJson existing request context settings).map Logged.value =
        (Parameters.normalizeJson existing request context.total settings).map Logged.value := by
    intro existing request
    rw [Parameters.normalizeJson_eq, Parameters.normalizeJson_eq]
    cases Parameters.read existing request with
    | error e => exact Eq.refl (Except.error e)
    | ok pair => exact congrArg Except.ok (hparameters pair.1 pair.2)
  have hfragments : ∀ p : Parameters,
      (p.compile context).value = (p.compile context.total).value := by
    intro p
    rw [Parameters.compile_eq, Parameters.compile_eq, value_memberships_total]
  exact ⟨hresolution, hparameters, hvalues, hfragments⟩

/-- **A failed lookup is a miss.** Let some lookups of slugs and of users fail. All stages yield the
same as with a directory that answers every lookup, where the failing slugs and the slugs of zero
are missing and the failing users belong to no group. A failure drops just the items that name the
slug, and it never makes a request fail. -/
theorem failure_is_miss (context : Context) (slugs : String → Option LookupFailure)
    (users : UserId → Option LookupFailure) (settings : Settings) :
    let failing := { context with directory := context.directory.failingAt slugs users }
    let missing := { context with directory := context.directory.missingAt slugs users }
    missing.directory.IsTotal
      ∧ failing.SameOutcomes missing settings
      ∧ (∀ items, (resolveItems failing items).value =
          items.foldr
            (fun item lists =>
              lists.add item (if item.failsIn slugs then none else (item.resolve context).value))
            {})
      ∧ ∀ existing request e,
          Parameters.normalizeJson existing request failing settings = .error e ↔
            Parameters.normalizeJson existing request context settings = .error e := by
  intro failing missing
  have hmissing : failing.total = missing := by
    unfold Context.total
    rw [Directory.total_failingAt]
  refine ⟨?_, ?_, ?_, ?_⟩
  · rw [← hmissing]
    exact Directory.isTotal_total failing.directory
  · rw [← hmissing]
    exact failing.sameOutcomes_total settings
  · intro items
    rw [value_resolveItems]
    simp only [failing, Item.value_resolve_failingAt]
  · intro existing request e
    rw [Parameters.normalizeJson_eq_error_iff, Parameters.normalizeJson_eq_error_iff]

end GroupScope
