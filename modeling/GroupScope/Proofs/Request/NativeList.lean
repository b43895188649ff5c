import GroupScope.Keyed
import GroupScope.Proofs.Parameters.Update
import GroupScope.Proofs.Search.Retention
/-!
# When a native list of a request matters

A request may carry two native lists. What is in one of them reaches the compiled set only if the
parameters had no such list before, nothing was derived from an expression in its place and, for the
list to include, the marker does not stand for the groups of a user. Then the set shows exactly the
storable ids of the list:

    same fragments for two lists  ↔  same storable ids  ∨  the list does not count

The main statement is `fragmentsOfJson_eq_iff`. It is about the values that a host hands over, from
reading them to the compiled set, and holds as well where reading fails.
-/

namespace GroupScope

/-! ## §1. The two lists. -/

/-- One of the two native lists. -/
inductive NativeLists.Role where
  /-- The ids to include. -/
  | included
  /-- The ids to exclude. -/
  | excluded
  deriving DecidableEq, Repr

namespace NativeLists

/-- The attribute of a request that holds the list. -/
def Role.key : Role → String
  | .included => Request.includedKey
  | .excluded => Request.excludedKey

/-- The lists with another one in the role. -/
def withList (native : NativeLists) (role : Role) (ids : Option (List GroupId)) : NativeLists :=
  match role with
  | .included => { native with included := ids }
  | .excluded => { native with excluded := ids }

end NativeLists

open NativeLists (Role)

/-- The fragment that the list is compiled to. -/
def NativeLists.Role.fragment : Role → PredicateName
  | .included => .group
  | .excluded => .exclude

/-- The predicate of the list. -/
def NativeLists.Role.predicate : Role → List GroupId → Predicate
  | .included => .inGroups
  | .excluded => .notInGroups

namespace Parameters

/-- The native list in the role. -/
def native (p : Parameters) : Role → Option (List GroupId)
  | .included => p.nativeIncluded
  | .excluded => p.nativeExcluded

/-- The derived list in the role. -/
def derived (p : Parameters) : Role → Option (List GroupId)
  | .included => p.included
  | .excluded => p.excluded

/-- The parameters with another native list in the role. -/
def withNative (p : Parameters) (role : Role) (ids : Option (List GroupId)) : Parameters :=
  match role with
  | .included => { p with nativeIncluded := ids }
  | .excluded => { p with nativeExcluded := ids }

/-- The native list is the one that is compiled for the viewer: there is no derived one, and the
marker does not take the place of the ids to include. -/
def Shows (p : Parameters) (role : Role) (viewing : Context) : Prop :=
  (p.derived role).getD [] = []
    ∧ (role = .included → ¬(p.isMyGroups = true ∧ viewing.viewer.isUser = true))

theorem shows_withNative {p : Parameters} {role : Role} {viewing : Context}
    {ids : Option (List GroupId)} :
    (p.withNative role ids).Shows role viewing ↔ p.Shows role viewing := by
  cases role <;> exact Iff.rfl

/-! ## §2. Compiling. -/

/-- What is compiled in place of the list, whatever the list is. -/
def overriding (p : Parameters) (memberships : Option (List GroupId)) : Role → Option Predicate
  | .included => if p.isMyGroups then memberships.map ofMemberships else none
  | .excluded => none

/-- What is compiled if the list has no storable ids. -/
def otherwise (p : Parameters) : Role → Option Predicate
  | .included => if p.withoutGroup then some .noGroup else none
  | .excluded => none

theorem get?_fragments (p : Parameters) (memberships : Option (List GroupId)) (role : Role) :
    (p.fragments memberships).get? role.fragment =
      (p.overriding memberships role).or
        ((ofIds? role.predicate (storable (effective (p.derived role) (p.native role)))).or
          (p.otherwise role)) := by
  cases role with
  | included => rfl
  | excluded => exact (Option.or_none ..).symm

/-- A native list reaches no other fragment than its own. -/
theorem fragments_withNative_eq_iff {p : Parameters} {memberships : Option (List GroupId)}
    {role : Role} {ids ids' : Option (List GroupId)} :
    (p.withNative role ids).fragments memberships = (p.withNative role ids').fragments memberships ↔
      ((p.withNative role ids).fragments memberships).get? role.fragment =
        ((p.withNative role ids').fragments memberships).get? role.fragment := by
  refine ⟨fun h => by rw [h], ?_⟩
  intro h
  apply PredicateSet.ext_get?
  intro name
  by_cases hname : name = role.fragment
  · rw [hname]
    exact h
  · cases role <;> cases name <;> first | rfl | exact absurd rfl hname

/-- A list is known from the fragment that it is compiled to, or from the absence of one. -/
theorem ofIds?_or_eq_iff {f : List GroupId → Predicate} (hf : f.Injective)
    {other : Option Predicate} (hother : ∀ ids, other ≠ some (f ids)) {ids ids' : List GroupId} :
    (ofIds? f ids).or other = (ofIds? f ids').or other ↔ ids = ids' := by
  refine ⟨?_, fun h => by rw [h]⟩
  intro h
  cases ids with
  | nil =>
    cases ids' with
    | nil => rfl
    | cons id ids' => exact absurd h (hother (id :: ids'))
  | cons id ids =>
    cases ids' with
    | nil => exact absurd h.symm (hother (id :: ids))
    | cons id' ids' =>
      injection h with h
      exact hf h

theorem predicate_injective (role : Role) : Function.Injective role.predicate := by
  intro ids ids' h
  cases role <;> injection h

theorem otherwise_ne (p : Parameters) (role : Role) (ids : List GroupId) :
    p.otherwise role ≠ some (role.predicate ids) := by
  intro h
  cases role with
  | included => cases hw : p.withoutGroup <;> simp [otherwise, hw, Role.predicate] at h
  | excluded => cases h

theorem overriding_eq_none_iff {p : Parameters} {role : Role} {viewing : Context} :
    p.overriding viewing.memberships.value role = none ↔
      (role = .included → ¬(p.isMyGroups = true ∧ viewing.viewer.isUser = true)) := by
  rw [Context.memberships_eq]
  cases role with
  | included => cases hm : p.isMyGroups <;> simp [overriding, hm, Viewer.isUser]
  | excluded => simp [overriding]

/-- **Two native lists compile to the same set** just when they have the same storable ids or the
native list is not the one that is compiled. -/
theorem compile_withNative_eq_iff (p : Parameters) (role : Role) (viewing : Context)
    (ids ids' : List GroupId) :
    ((p.withNative role (some ids)).compile viewing).value =
        ((p.withNative role (some ids')).compile viewing).value ↔
      storable ids = storable ids' ∨ ¬p.Shows role viewing := by
  have hget : ∀ ids : List GroupId,
      ((p.withNative role (some ids)).fragments viewing.memberships.value).get? role.fragment =
        (p.overriding viewing.memberships.value role).or
          ((ofIds? role.predicate
            (storable (if (p.derived role).getD [] = [] then ids else (p.derived role).getD []))).or
              (p.otherwise role)) := by
    intro ids
    rw [get?_fragments, effective_eq]
    cases role <;> rfl
  rw [compile_eq, compile_eq, fragments_withNative_eq_iff, hget, hget]
  -- A derived list or the marker hides the list; else the fragment tells its storable ids.
  by_cases hderived : (p.derived role).getD [] = []
  · rw [if_pos hderived, if_pos hderived]
    cases hover : p.overriding viewing.memberships.value role with
    | none =>
      have hshows : p.Shows role viewing := ⟨hderived, overriding_eq_none_iff.mp hover⟩
      rw [Option.none_or, Option.none_or,
        ofIds?_or_eq_iff (predicate_injective role) (p.otherwise_ne role),
        or_iff_left (not_not_intro hshows)]
    | some q =>
      have hhidden : ¬p.Shows role viewing := by
        rintro ⟨-, hmarker⟩
        rw [overriding_eq_none_iff.mpr hmarker] at hover
        cases hover
      exact iff_of_true rfl (.inr hhidden)
  · rw [if_neg hderived, if_neg hderived]
    exact iff_of_true rfl (.inr fun h => hderived h.1)

end Parameters

/-! ## §3. Normalizing. -/

theorem keywordResolution?_native (text : List Char) (context : Context) (native : NativeLists) :
    keywordResolution? text context native =
      (keywordResolution? text context {}).map fun r => { r with native } := by
  unfold keywordResolution?
  cases Keyword.ofChars? text with
  | none => rfl
  | some keyword =>
    show keyword.resolve? context native = (keyword.resolve? context {}).map _
    cases keyword with
    | this => cases h : context.currentGroup <;> simp [Keyword.resolve?, h]
    | my => cases h : context.viewer.isUser <;> simp [Keyword.resolve?, h]
    | zero => rfl

/-- The native lists of a request pass through resolving. -/
theorem resolve_native (expression : Option Expression) (native : NativeLists) (context : Context)
    (settings : Settings) :
    (resolve expression native context settings).value =
      { (resolve expression {} context settings).value with native } := by
  cases expression with
  | none => rfl
  | some expression =>
    unfold resolve
    cases settings.groupsEnabled with
    | false => rfl
    | true =>
      simp only [if_true]
      unfold Expression.resolve
      cases expression with
      | text s =>
        simp only
        rw [keywordResolution?_native]
        cases keywordResolution? (Text.clean s.toList) context {} <;> rfl
      | integer value => by_cases hzero : value = 0 <;> simp only [hzero, if_true, if_false] <;> rfl
      | list items => rfl

namespace Parameters

/-- A native list of a request ends up in its place, unless there was one before. -/
theorem normalize_withList (p : Parameters) (request : Request) (context : Context)
    (settings : Settings) (role : Role) (ids : Option (List GroupId)) :
    (p.normalize { request with native := request.native.withList role ids } context
        settings).value =
      (p.normalize request context settings).value.withNative role ((p.native role).or ids) := by
  have h := resolve_outcome request.expression request.native context settings
  have h' := resolve_outcome request.expression (request.native.withList role ids) context settings
  show p.absorb (resolve request.expression (request.native.withList role ids) context
    settings).value = (p.absorb (resolve request.expression request.native context
      settings).value).withNative role _
  rw [absorb_eq h', absorb_eq h, resolve_native, resolve_native _ request.native]
  cases role <;> rfl

end Parameters

/-! ## §4. Values of a host. -/

/-- The attributes of a request with a value for the list in the role. -/
def NativeLists.Role.attributes (role : Role) (fields : List (String × Json)) (value : Json) :
    Json :=
  .object (insertByName role.key value fields)

/-- The fragments that parameters and a request are compiled to for a viewer. -/
def fragmentsOfJson (existing request : Json) (context viewing : Context) (settings : Settings) :
    Except FilterError PredicateSet := do
  let normalized ← Parameters.normalizeJson existing request context settings
  pure (normalized.value.compile viewing).value

/-- The list of the request counts: parameters and request can be read, the parameters have no such
list yet, and after normalizing it is the one that is compiled for the viewer. -/
def NativeLists.Role.Counts (role : Role) (existing request : Json) (context viewing : Context)
    (settings : Settings) : Prop :=
  ∃ p r, Parameters.ofJson existing = .ok p ∧ Request.ofJson request = .ok r
    ∧ p.native role = none ∧ (p.normalize r context settings).value.Shows role viewing

theorem Request.field_insertByName (fields : List (String × Json)) (name other : String)
    (value : Json) :
    Request.field (insertByName name value fields) other =
      if other = name then value else Request.field fields other := by
  unfold Request.field
  rw [lookup_insertByName]
  split <;> rfl

/-- Reads a request whose list in the role has been read already. -/
def NativeLists.Role.read (role : Role) (fields : List (String × Json))
    (list : Except IdList.Misfit (Option (List GroupId))) : Except FilterError Request := do
  let expression ← (Expression.ofJson? (Request.field fields Request.expressionKey)).mapError
    .expression
  let native ← Except.mapError .ids <|
    match role with
    | .included => do
      let included ← list
      let excluded ← IdList.ofJson? (Request.field fields Request.excludedKey)
      pure { included, excluded : NativeLists }
    | .excluded => do
      let included ← IdList.ofJson? (Request.field fields Request.includedKey)
      let excluded ← list
      pure { included, excluded : NativeLists }
  pure { expression, native }

/-- The list is read from its own attribute, and the rest of the request from the others. -/
theorem Request.ofJson_attributes (role : Role) (fields : List (String × Json)) (value : Json) :
    Request.ofJson (role.attributes fields value) = role.read fields (IdList.ofJson? value) := by
  unfold NativeLists.Role.attributes Request.ofJson Request.nativeOfFields NativeLists.Role.read
  simp only [Request.field_insertByName]
  cases role with
  | included =>
    have hexpression : expressionKey ≠ NativeLists.Role.included.key := by decide
    have hexcluded : excludedKey ≠ NativeLists.Role.included.key := by decide
    have hincluded : includedKey = NativeLists.Role.included.key := rfl
    rw [if_neg hexpression, if_neg hexcluded, if_pos hincluded]
  | excluded =>
    have hexpression : expressionKey ≠ NativeLists.Role.excluded.key := by decide
    have hincluded : includedKey ≠ NativeLists.Role.excluded.key := by decide
    have hexcluded : excludedKey = NativeLists.Role.excluded.key := rfl
    rw [if_neg hexpression, if_neg hincluded, if_pos hexcluded]

namespace NativeLists.Role

/-- A list that can be read takes its place in the request. -/
theorem read_ok (role : Role) (fields : List (String × Json)) (ids : Option (List GroupId)) :
    role.read fields (.ok ids) =
      (role.read fields (.ok none)).map fun r =>
        { r with native := r.native.withList role ids } := by
  unfold read
  cases Expression.ofJson? (Request.field fields Request.expressionKey) with
  | error misfit => rfl
  | ok expression =>
    cases role with
    | included => cases IdList.ofJson? (Request.field fields Request.excludedKey) <;> rfl
    | excluded => cases IdList.ofJson? (Request.field fields Request.includedKey) <;> rfl

/-- A list that cannot be read makes the request unreadable. -/
theorem read_error (role : Role) (fields : List (String × Json)) (misfit : IdList.Misfit) :
    ∃ e, role.read fields (.error misfit) = .error e := by
  unfold read
  cases Expression.ofJson? (Request.field fields Request.expressionKey) with
  | error other => exact ⟨.expression other, rfl⟩
  | ok expression =>
    cases role with
    | included => exact ⟨.ids misfit, rfl⟩
    | excluded =>
      cases IdList.ofJson? (Request.field fields Request.includedKey) with
      | error other => exact ⟨.ids other, rfl⟩
      | ok included => exact ⟨.ids misfit, rfl⟩

end NativeLists.Role

section

variable {existing request : Json} {p : Parameters} {r : Request} {e : FilterError}
  {context viewing : Context} {settings : Settings}

theorem fragmentsOfJson_of_ok (hp : Parameters.ofJson existing = .ok p)
    (hr : Request.ofJson request = .ok r) :
    fragmentsOfJson existing request context viewing settings =
      .ok ((p.normalize r context settings).value.compile viewing).value := by
  unfold fragmentsOfJson Parameters.normalizeJson
  rw [hp, hr]
  rfl

theorem fragmentsOfJson_of_existing_error (hp : Parameters.ofJson existing = .error e) :
    fragmentsOfJson existing request context viewing settings = .error e := by
  unfold fragmentsOfJson Parameters.normalizeJson
  rw [hp]
  rfl

theorem fragmentsOfJson_of_request_error (hp : Parameters.ofJson existing = .ok p)
    (hr : Request.ofJson request = .error e) :
    fragmentsOfJson existing request context viewing settings = .error e := by
  unfold fragmentsOfJson Parameters.normalizeJson
  rw [hp, hr]
  rfl

theorem NativeLists.Role.counts_iff {role : Role} (hp : Parameters.ofJson existing = .ok p)
    (hr : Request.ofJson request = .ok r) :
    role.Counts existing request context viewing settings ↔
      p.native role = none ∧ (p.normalize r context settings).value.Shows role viewing := by
  constructor
  · rintro ⟨q, s, hq, hs, hcounts⟩
    rw [hp] at hq
    rw [hr] at hs
    injection hq with hq
    injection hs with hs
    subst hq hs
    exact hcounts
  · intro hcounts
    exact ⟨p, r, hp, hr, hcounts⟩

theorem NativeLists.Role.not_counts_of_existing_error {role : Role}
    (hp : Parameters.ofJson existing = .error e) :
    ¬role.Counts existing request context viewing settings := by
  rintro ⟨q, s, hq, -⟩
  rw [hp] at hq
  cases hq

theorem NativeLists.Role.not_counts_of_request_error {role : Role}
    (hr : Request.ofJson request = .error e) :
    ¬role.Counts existing request context viewing settings := by
  rintro ⟨q, s, -, hs, -⟩
  rw [hr] at hs
  cases hs

end

/-- **Two values for one list** yield the same fragments, or the same error, just when the lists
have the same storable ids or the list does not count. -/
theorem fragmentsOfJson_eq_iff {role : Role} {value value' : Json} {ids ids' : List GroupId}
    (h : IdList.ofJson? value = .ok (some ids)) (h' : IdList.ofJson? value' = .ok (some ids'))
    (existing : Json) (fields : List (String × Json)) (context viewing : Context)
    (settings : Settings) :
    fragmentsOfJson existing (role.attributes fields value) context viewing settings =
        fragmentsOfJson existing (role.attributes fields value') context viewing settings ↔
      storable ids = storable ids' ∨
        ¬role.Counts existing (role.attributes fields value) context viewing settings := by
  have hr := Request.ofJson_attributes role fields value
  have hr' := Request.ofJson_attributes role fields value'
  rw [h, role.read_ok] at hr
  rw [h', role.read_ok] at hr'
  cases hp : Parameters.ofJson existing with
  | error e =>
    rw [fragmentsOfJson_of_existing_error hp, fragmentsOfJson_of_existing_error hp]
    exact iff_of_true rfl (.inr (role.not_counts_of_existing_error hp))
  | ok p =>
    cases hbase : role.read fields (.ok none) with
    | error e =>
      rw [hbase] at hr hr'
      rw [fragmentsOfJson_of_request_error hp hr, fragmentsOfJson_of_request_error hp hr']
      exact iff_of_true rfl (.inr (role.not_counts_of_request_error hr))
    | ok r =>
      rw [hbase] at hr hr'
      rw [fragmentsOfJson_of_ok hp hr, fragmentsOfJson_of_ok hp hr', Except.ok.injEq,
        role.counts_iff hp hr, Parameters.normalize_withList, Parameters.normalize_withList,
        Parameters.shows_withNative]
      -- A list that was there before stays, and the new one is not looked at.
      cases p.native role with
      | none =>
        rw [Option.none_or, Option.none_or, Parameters.compile_withNative_eq_iff]
        simp
      | some old => exact iff_of_true rfl (.inr fun hcounts => by cases hcounts.1)

/-- Values that are read alike yield the same, be it a list or an error. -/
theorem fragmentsOfJson_congr {role : Role} {value value' : Json}
    (h : IdList.ofJson? value = IdList.ofJson? value') (existing : Json)
    (fields : List (String × Json)) (context viewing : Context) (settings : Settings) :
    fragmentsOfJson existing (role.attributes fields value) context viewing settings =
      fragmentsOfJson existing (role.attributes fields value') context viewing settings := by
  have hr : Request.ofJson (role.attributes fields value) =
      Request.ofJson (role.attributes fields value') := by
    rw [Request.ofJson_attributes, Request.ofJson_attributes, h]
  unfold fragmentsOfJson Parameters.normalizeJson
  rw [hr]

/-- A list that cannot be read does not count. -/
theorem NativeLists.Role.not_counts_of_misfit {role : Role} {value : Json} {misfit : IdList.Misfit}
    (h : IdList.ofJson? value = .error misfit) (existing : Json) (fields : List (String × Json))
    (context viewing : Context) (settings : Settings) :
    ¬role.Counts existing (role.attributes fields value) context viewing settings := by
  obtain ⟨e, he⟩ := role.read_error fields misfit
  apply role.not_counts_of_request_error (e := e)
  rw [Request.ofJson_attributes, h, he]

end GroupScope
