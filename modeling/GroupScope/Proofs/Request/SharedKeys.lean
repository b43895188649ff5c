import GroupScope.Proofs.Parameters.Reread
import GroupScope.Proofs.Search.Acceptance
/-!
# Names that requests and parameters share

Three names of a request are names of parameters as well. A host may hand over the same object as
either, and both readers make the same of it:

    group            the expression of the request; as a parameter, the exact text `my` is the
                     marker
    group__in        the native list to include
    group__not_in    the native list to exclude

Parameters have two more lists, the derived ones, and these are read as a request would read its
native ones. The main statement is `request_and_parameters_agree`.
-/

namespace GroupScope

/-! ## §1. Readers. -/

/-- What parameters hold for a value that is read as an expression: the exact text `my` is the
marker. -/
def GroupParameter.ofRead (value : Json) (expression : Option Expression) :
    Option GroupParameter :=
  match value with
  | .string "my" => some .my
  | _ => expression.map .expression

theorem GroupParameter.ofRead_of_ne {value : Json} (h : value ≠ .string "my")
    (expression : Option Expression) : ofRead value expression = expression.map .expression := by
  unfold ofRead
  split
  next => exact absurd rfl h
  next => rfl

/-- No value but `null` is read as no expression. -/
theorem Expression.eq_null_iff_of_ofJson? {value : Json} {expression : Option Expression}
    (h : Expression.ofJson? value = .ok expression) : value = .null ↔ expression = none := by
  cases value with
  | null =>
    injection h with h
    simp [h]
  | string | number =>
    injection h with h
    simp [← h]
  | array items =>
    simp only [Expression.ofJson?] at h
    cases hitems : ListItem.listOfJson items with
    | error misfit =>
      rw [hitems] at h
      cases h
    | ok read =>
      rw [hitems] at h
      injection h with h
      simp [← h]
  | bool | object => cases h

namespace Parameters

theorem groupOfJson?_eq_ok_iff {value : Json} {group : Option GroupParameter} :
    groupOfJson? value = .ok group ↔
      ∃ expression, Expression.ofJson? value = .ok expression
        ∧ group = GroupParameter.ofRead value expression := by
  by_cases hmy : value = .string "my"
  · subst hmy
    simp [groupOfJson?, Expression.ofJson?, GroupParameter.ofRead, eq_comm]
  · have hread : groupOfJson? value =
        ((Expression.ofJson? value).map fun e => e.map .expression).mapError .expression := by
      unfold groupOfJson?
      split
      next => exact absurd rfl hmy
      next => cases Expression.ofJson? value <;> rfl
    rw [hread, mapError_eq_ok_iff]
    simp only [GroupParameter.ofRead_of_ne hmy]
    cases Expression.ofJson? value <;> simp [Except.map, eq_comm]

theorem idsOfJson?_eq_ok_iff {value : Json} {ids : Option (List GroupId)} :
    idsOfJson? value = .ok ids ↔ IdList.ofJson? value = .ok ids :=
  mapError_eq_ok_iff

end Parameters

/-! ## §2. Objects. -/

section

variable {fields : List (String × Json)}

/-- A request is read from three fields, each by itself. -/
theorem Request.ofJson_object_eq_ok_iff {request : Request} :
    Request.ofJson (.object fields) = .ok request ↔
      Expression.ofJson? (field fields "group") = .ok request.expression
        ∧ IdList.ofJson? (field fields "group__in") = .ok request.native.included
        ∧ IdList.ofJson? (field fields "group__not_in") = .ok request.native.excluded := by
  unfold Request.ofJson nativeOfFields
  simp only [bind_eq_ok_iff, mapError_eq_ok_iff]
  constructor
  · rintro ⟨expression, hexpression, native, ⟨included, hincluded, excluded, hexcluded, hnative⟩,
      hrequest⟩
    injection hnative with hnative
    injection hrequest with hrequest
    subst hrequest hnative
    exact ⟨hexpression, hincluded, hexcluded⟩
  · rintro ⟨hexpression, hincluded, hexcluded⟩
    exact ⟨_, hexpression, _, ⟨_, hincluded, _, hexcluded, rfl⟩, rfl⟩

/-- **Parameters are read as a request is**, as far as the two have the same names; the derived
lists and the flags are read beside it. -/
theorem Parameters.ofJson_object_eq_ok_iff {p : Parameters} :
    Parameters.ofJson (.object fields) = .ok p ↔
      ∃ request, Request.ofJson (.object fields) = .ok request
        ∧ p.group = GroupParameter.ofRead (Request.field fields "group") request.expression
        ∧ p.nativeIncluded = request.native.included
        ∧ p.nativeExcluded = request.native.excluded
        ∧ IdList.ofJson? (Request.field fields "group_in") = .ok p.included
        ∧ IdList.ofJson? (Request.field fields "group_notin") = .ok p.excluded
        ∧ flagOfJson? (fields.lookup "group_is_none") = .ok p.withoutGroup
        ∧ flagOfJson? (fields.lookup "group_must_exist") = .ok p.withGroup := by
  unfold Parameters.ofJson ofFields
  simp only [mapError_eq_ok_iff, bind_eq_ok_iff, groupOfJson?_eq_ok_iff, idsOfJson?_eq_ok_iff,
    Request.ofJson_object_eq_ok_iff]
  constructor
  · rintro ⟨group, ⟨expression, hexpression, hgroup⟩, nativeIncluded, hnativeIn, nativeExcluded,
      hnativeOut, included, hin, withoutGroup, hwithout, withGroup, hwith, excluded, hout, hp⟩
    injection hp with hp
    subst hp
    exact ⟨⟨expression, ⟨nativeIncluded, nativeExcluded⟩⟩, ⟨hexpression, hnativeIn, hnativeOut⟩,
      hgroup, rfl, rfl, hin, hout, hwithout, hwith⟩
  · rintro ⟨request, ⟨hexpression, hnativeIn, hnativeOut⟩, hgroup, hincluded, hexcluded, hin, hout,
      hwithout, hwith⟩
    rw [← hincluded] at hnativeIn
    rw [← hexcluded] at hnativeOut
    exact ⟨p.group, ⟨_, hexpression, hgroup⟩, _, hnativeIn, _, hnativeOut, _, hin, _, hwithout, _,
      hwith, _, hout, rfl⟩

end

/-! ## §3. Acceptance. -/

theorem isOk_eq_isNone (result : Except FilterError α) :
    result.isOk = (errorKind? result).isNone := by
  cases result <;> rfl

section

variable (fields : List (String × Json))

theorem Request.isOk_ofJson_object :
    (Request.ofJson (.object fields)).isOk = Request.keys.all (shapesOf fields).flatAt := by
  rw [isOk_eq_isNone, errorKind?_ofJson_request, keys, List.all_cons]
  cases (shapesOf fields).flatAt expressionKey <;>
    cases nativeKeys.all (shapesOf fields).flatAt <;> rfl

theorem Parameters.isOk_ofJson_object :
    (Parameters.ofJson (.object fields)).isOk = Parameters.fit (shapesOf fields) := by
  rw [isOk_eq_isNone, errorKind?_ofJson_parameters]
  cases Parameters.fit (shapesOf fields) <;> rfl

end

/-! ## §4. The shared names. -/

/-- An object with the names that requests and parameters share. -/
def sharedFields (group included excluded : Json) : List (String × Json) :=
  [("group", group), ("group__in", included), ("group__not_in", excluded)]

/-- Parameters hold the derived lists under names of their own. -/
def derivedFields (included excluded : Json) : List (String × Json) :=
  [("group_in", included), ("group_notin", excluded)]

/-- **Requests and parameters are read alike.** Any three values under the names that both know are
accepted as a request just when they are accepted as parameters, namely when each is a scalar or a
list of scalars. Both readers then make the same of the native lists, and parameters hold the
expression of the request, except that the exact text `my` is the marker. The derived lists of
parameters are read like the native lists of a request, and leave the rest as it is. -/
theorem request_and_parameters_agree (group included excluded : Json) :
    let shared := sharedFields group included excluded
    ((Request.ofJson (.object shared)).isOk =
        [group, included, excluded].all fun value => value.shape.isFlat)
      ∧ ((Parameters.ofJson (.object shared)).isOk = (Request.ofJson (.object shared)).isOk)
      ∧ (∀ request p, Request.ofJson (.object shared) = .ok request →
          Parameters.ofJson (.object shared) = .ok p →
          p.nativeIncluded = request.native.included
            ∧ p.nativeExcluded = request.native.excluded
            ∧ (group = .string "my" → p.group = some .my)
            ∧ (group ≠ .string "my" → p.group = request.expression.map .expression)
            ∧ (group = .null ↔ request.expression = none))
      ∧ ∀ (derivedIn derivedOut : Json) (p : Parameters),
          Parameters.ofJson (.object (shared ++ derivedFields derivedIn derivedOut)) = .ok p ↔
            ∃ base derived, Parameters.ofJson (.object shared) = .ok base
              ∧ Request.ofJson (.object (sharedFields .null derivedIn derivedOut)) = .ok derived
              ∧ p = { base with
                      included := derived.native.included
                      excluded := derived.native.excluded } := by
  intro shared
  have hrequest : (Request.ofJson (.object shared)).isOk =
      [group, included, excluded].all fun value => value.shape.isFlat :=
    Request.isOk_ofJson_object shared
  refine ⟨hrequest, ?_, ?_, ?_⟩
  · -- The derived lists and the flags are absent, so nothing is wrong with them.
    rw [hrequest, Parameters.isOk_ofJson_object]
    simp [Parameters.fit, Parameters.listKeys, Parameters.flagKeys, Shapes.flatAt, Shapes.flagAt,
      shapesOf, shared, sharedFields, lookup_entry]
  · intro request p hrequest hp
    obtain ⟨read, hread, hgroup, hincluded, hexcluded, -⟩ :=
      Parameters.ofJson_object_eq_ok_iff.mp hp
    obtain rfl : read = request := Except.ok.inj (hread.symm.trans hrequest)
    obtain ⟨hexpression, -⟩ := Request.ofJson_object_eq_ok_iff.mp hrequest
    refine ⟨hincluded, hexcluded, ?_, ?_, Expression.eq_null_iff_of_ofJson? hexpression⟩
    · rintro rfl
      exact hgroup
    · intro hne
      rw [hgroup]
      exact GroupParameter.ofRead_of_ne hne _
  · intro derivedIn derivedOut p
    constructor
    · intro hp
      obtain ⟨request, hrequest, hgroup, hincluded, hexcluded, hin, hout, hflags⟩ :=
        Parameters.ofJson_object_eq_ok_iff.mp hp
      have hshared : Request.ofJson (.object shared) = .ok request :=
        Request.ofJson_object_eq_ok_iff.mpr (Request.ofJson_object_eq_ok_iff.mp hrequest)
      refine ⟨{ p with included := none, excluded := none },
        { native := { included := p.included, excluded := p.excluded } },
        Parameters.ofJson_object_eq_ok_iff.mpr ?_,
        Request.ofJson_object_eq_ok_iff.mpr ⟨rfl, hin, hout⟩, rfl⟩
      exact ⟨request, hshared, hgroup, hincluded, hexcluded, rfl, rfl, hflags⟩
    · rintro ⟨base, derived, hbase, hderived, rfl⟩
      obtain ⟨request, hrequest, hgroup, hincluded, hexcluded, -, -, hflags⟩ :=
        Parameters.ofJson_object_eq_ok_iff.mp hbase
      obtain ⟨-, hin, hout⟩ := Request.ofJson_object_eq_ok_iff.mp hderived
      refine Parameters.ofJson_object_eq_ok_iff.mpr ⟨request, ?_, hgroup, hincluded, hexcluded,
        hin, hout, hflags⟩
      exact Request.ofJson_object_eq_ok_iff.mpr (Request.ofJson_object_eq_ok_iff.mp hrequest)

/-- Under `group` stands a list with a gap and a fraction, and beside it lists with an entry that is
no id; the derived list is one number. -/
theorem request_and_parameters_agree_of_mixed_list :
    let group : Json := .array [.integer 5, .null, .string "chess"]
    let shared := sharedFields group (.string "4, x") (.array [.null, .integer (-3), .integer 7])
    let expression : Expression := .list [.integer 5, .text "chess"]
    let request : Request :=
      { expression := some expression
        native := { included := some [4, 0], excluded := some [0, 0, 7] } }
    let p : Parameters :=
      { group := some (.expression expression)
        nativeIncluded := some [4, 0], nativeExcluded := some [0, 0, 7] }
    Request.ofJson (.object shared) = .ok request
      ∧ Parameters.ofJson (.object shared) = .ok p
      ∧ p.nativeExcluded = request.native.excluded
      ∧ p.group = request.expression.map .expression
      ∧ Parameters.ofJson (.object (shared ++ derivedFields (.integer 9) .null)) =
          .ok { p with included := some [9] } := by
  intro group shared expression request p
  have hrequest : Request.ofJson (.object shared) = .ok request := by rfl
  have hp : Parameters.ofJson (.object shared) = .ok p := by rfl
  obtain ⟨-, -, hagree, hderived⟩ := request_and_parameters_agree group (.string "4, x")
    (.array [.null, .integer (-3), .integer 7])
  obtain ⟨-, hexcluded, -, hgroup, -⟩ := hagree request p hrequest hp
  exact ⟨hrequest, hp, hexcluded, hgroup nofun,
    (hderived (.integer 9) .null _).mpr ⟨p, { native := { included := some [9] } }, hp, rfl, rfl⟩⟩

end GroupScope
