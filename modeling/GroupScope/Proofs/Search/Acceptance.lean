import GroupScope.Parameters.Absorb
import GroupScope.Keyed
import GroupScope.Proofs.Result
/-!
# Which values are accepted

A host hands over parameters and a request as JSON values. Whether they are accepted, and of which
kind the error is if they are not, depends on the shapes of the values under ten names, and on
nothing else: not on the texts and numbers in them, not on the context, and not on other names.

    parameters do not fit, or the request is no object   an error about the request
    the expression does not fit                          an error about the expression
    a native list does not fit                           an error about the request

The first line that applies decides. The main statement is `normalizeJson_accepts`.
-/

namespace GroupScope

/-! ## §1. Shapes. -/

/-- The kinds of JSON values. -/
inductive Json.Kind where
  | null
  | bool
  | number
  | string
  | array
  | object
  deriving DecidableEq, Repr

/-- The kind of texts, of numbers and of `null`. -/
def Json.Kind.isScalar : Json.Kind → Bool
  | .null | .number | .string => true
  | .bool | .array | .object => false

/-- The kind of a value. -/
def Json.kind : Json → Json.Kind
  | .null => .null
  | .bool _ => .bool
  | .number _ => .number
  | .string _ => .string
  | .array _ => .array
  | .object _ => .object

/-- What a value is like without its texts, numbers and truth values. -/
structure Json.Shape where
  /-- The kind of the value. -/
  kind : Json.Kind
  /-- The kinds of its items, if it is a list. -/
  items : List Json.Kind := []
  deriving DecidableEq, Repr

/-- The shape of a value. -/
def Json.shape : Json → Json.Shape
  | .array items => { kind := .array, items := items.map Json.kind }
  | value => { kind := value.kind }

/-- The shape of a scalar or of a list of scalars. -/
def Json.Shape.isFlat (shape : Json.Shape) : Bool :=
  match shape.kind with
  | .array => shape.items.all Json.Kind.isScalar
  | kind => kind.isScalar

/-- The shape of the value under each name; nothing under a name that is absent. -/
abbrev Shapes := String → Option Json.Shape

/-- The shapes of the values of an object. -/
def shapesOf (fields : List (String × Json)) : Shapes :=
  fun name => (fields.lookup name).map Json.shape

/-- The shapes of the attributes of a request, if it is an object. -/
def attributeShapes? : Json → Option Shapes
  | .object fields => some (shapesOf fields)
  | _ => none

namespace Shapes

/-- The name is absent, or a scalar or a list of scalars is under it. -/
def flatAt (shapes : Shapes) (name : String) : Bool := (shapes name).all Json.Shape.isFlat

/-- The name is absent, or a truth value is under it. -/
def flagAt (shapes : Shapes) (name : String) : Bool :=
  (shapes name).all fun shape => shape.kind == .bool

end Shapes

/-! ## §2. The verdict. -/

/-- The names that parameters hold an expression or a list under. -/
def Parameters.listKeys : List String :=
  ["group", "group__in", "group__not_in", "group_in", "group_notin"]

/-- The names that parameters hold a flag under. -/
def Parameters.flagKeys : List String := ["group_is_none", "group_must_exist"]

/-- All names that parameters are read from. -/
def Parameters.keys : List String := Parameters.listKeys ++ Parameters.flagKeys

/-- The names that a request holds a native list under. -/
def Request.nativeKeys : List String := [Request.includedKey, Request.excludedKey]

/-- All names that a request is read from. -/
def Request.keys : List String := Request.expressionKey :: Request.nativeKeys

/-- Values of these shapes are parameters. -/
def Parameters.fit (existing : Shapes) : Bool :=
  Parameters.listKeys.all existing.flatAt && Parameters.flagKeys.all existing.flagAt

/-- The kind of the error for values of these shapes; nothing if they are accepted. -/
def verdict (existing : Shapes) (request : Option Shapes) : Option FilterError.Kind :=
  if !Parameters.fit existing then some .request
  else
    match request with
    | none => some .request
    | some attributes =>
      if !attributes.flatAt Request.expressionKey then some .expression
      else if !Request.nativeKeys.all attributes.flatAt then some .request
      else none

/-- The kind of the error of a result; nothing if there is none. -/
def errorKind? (result : Except FilterError α) : Option FilterError.Kind :=
  match result with
  | .ok _ => none
  | .error e => some e.kind

/-! ## §3. Values that can be read. -/

theorem ListItem.isOk_listOfJson (items : List Json) :
    (ListItem.listOfJson items).isOk = items.all fun item => item.kind.isScalar := by
  induction items with
  | nil => rfl
  | cons item items ih =>
    rw [List.all_cons, ← ih]
    cases item with
    | null => rfl
    | bool | array | object => rfl
    | number | string =>
      show ((ListItem.listOfJson items).map _).isOk = (true && (ListItem.listOfJson items).isOk)
      cases ListItem.listOfJson items <;> rfl

theorem IdList.isOk_entriesOfJson (entries : List Json) :
    (IdList.entriesOfJson entries).isOk = entries.all fun entry => entry.kind.isScalar := by
  induction entries with
  | nil => rfl
  | cons entry entries ih =>
    rw [List.all_cons, ← ih]
    cases entry with
    | bool | array | object => rfl
    | null | number | string =>
      show ((IdList.entriesOfJson entries).map _).isOk =
        (true && (IdList.entriesOfJson entries).isOk)
      cases IdList.entriesOfJson entries <;> rfl

theorem isFlat_shape_array (items : List Json) :
    (Json.shape (.array items)).isFlat = items.all fun item => item.kind.isScalar := by
  show (items.map Json.kind).all Json.Kind.isScalar = _
  rw [List.all_map]
  rfl

/-- **A value is an expression** just when it is a scalar or a list of scalars. -/
theorem Expression.isOk_ofJson? (value : Json) :
    (Expression.ofJson? value).isOk = value.shape.isFlat := by
  cases value with
  | array items =>
    rw [isFlat_shape_array, ← ListItem.isOk_listOfJson]
    show ((ListItem.listOfJson items).map _).isOk = _
    cases ListItem.listOfJson items <;> rfl
  | null | bool | number | string | object => rfl

/-- **A value is a list of ids** just when it is a scalar or a list of scalars. -/
theorem IdList.isOk_ofJson? (value : Json) : (IdList.ofJson? value).isOk = value.shape.isFlat := by
  cases value with
  | array entries =>
    rw [isFlat_shape_array, ← IdList.isOk_entriesOfJson]
    show ((IdList.entriesOfJson entries).map _).isOk = _
    cases IdList.entriesOfJson entries <;> rfl
  | null | bool | number | string | object => rfl

section

variable (fields : List (String × Json))

/-- An absent value counts as `null`, which is a scalar. -/
theorem isFlat_field (name : String) :
    (Request.field fields name).shape.isFlat = (shapesOf fields).flatAt name := by
  unfold Request.field Shapes.flatAt shapesOf
  cases fields.lookup name <;> rfl

theorem Expression.isOk_field (name : String) :
    (Expression.ofJson? (Request.field fields name)).isOk = (shapesOf fields).flatAt name := by
  rw [Expression.isOk_ofJson?, isFlat_field]

theorem IdList.isOk_field (name : String) :
    (IdList.ofJson? (Request.field fields name)).isOk = (shapesOf fields).flatAt name := by
  rw [IdList.isOk_ofJson?, isFlat_field]

namespace Parameters

theorem isOk_groupOfJson? (name : String) :
    (groupOfJson? (Request.field fields name)).isOk = (shapesOf fields).flatAt name := by
  rw [← Expression.isOk_field]
  unfold groupOfJson?
  split
  next heq =>
    rw [heq]
    rfl
  next => cases Expression.ofJson? (Request.field fields name) <;> rfl

theorem isOk_idsOfJson? (name : String) :
    (idsOfJson? (Request.field fields name)).isOk = (shapesOf fields).flatAt name := by
  rw [← IdList.isOk_field]
  exact isOk_mapError ..

theorem isOk_flagOfJson? (name : String) :
    (flagOfJson? (fields.lookup name)).isOk = (shapesOf fields).flagAt name := by
  unfold Shapes.flagAt shapesOf
  cases fields.lookup name with
  | none => rfl
  | some value => cases value <;> rfl

/-- **An object is read as parameters** just when the shapes of its values fit. -/
theorem isOk_ofFields : (ofFields fields).isOk = fit (shapesOf fields) := by
  have hread : (ofFields fields).isOk = _ :=
    isOk_bind (isOk_groupOfJson? fields "group") fun _ =>
    isOk_bind (isOk_idsOfJson? fields "group__in") fun _ =>
    isOk_bind (isOk_idsOfJson? fields "group__not_in") fun _ =>
    isOk_bind (isOk_idsOfJson? fields "group_in") fun _ =>
    isOk_bind (isOk_flagOfJson? fields "group_is_none") fun _ =>
    isOk_bind (isOk_flagOfJson? fields "group_must_exist") fun _ =>
    isOk_bind (isOk_idsOfJson? fields "group_notin") fun _ => rfl
  rw [hread]
  -- The flags are read between the lists, which makes no difference to whether all are read.
  unfold fit listKeys flagKeys
  simp only [List.all_cons, List.all_nil, Bool.and_true]
  ac_rfl

end Parameters

theorem Request.isOk_nativeOfFields :
    (nativeOfFields fields).isOk = nativeKeys.all (shapesOf fields).flatAt := by
  have hread : (nativeOfFields fields).isOk = _ :=
    isOk_bind (IdList.isOk_field fields includedKey) fun _ =>
    isOk_bind (IdList.isOk_field fields excludedKey) fun _ => rfl
  rw [hread]
  rfl

/-! ## §4. Errors. -/

theorem errorKind?_ofJson_parameters :
    errorKind? (Parameters.ofJson (.object fields)) =
      if !Parameters.fit (shapesOf fields) then some .request else none := by
  rw [← Parameters.isOk_ofFields]
  show errorKind? ((Parameters.ofFields fields).mapError .parameters) = _
  cases Parameters.ofFields fields <;> rfl

/-- The expression is read before the native lists, so it decides about the kind of the error. -/
theorem errorKind?_ofJson_request :
    errorKind? (Request.ofJson (.object fields)) =
      if !(shapesOf fields).flatAt Request.expressionKey then some .expression
      else if !Request.nativeKeys.all (shapesOf fields).flatAt then some .request
      else none := by
  rw [← Expression.isOk_field, ← Request.isOk_nativeOfFields]
  unfold Request.ofJson
  simp only
  cases Expression.ofJson? (Request.field fields Request.expressionKey) with
  | error misfit => rfl
  | ok expression => cases Request.nativeOfFields fields <;> rfl

end

/-- Parameters are read before the request. -/
theorem errorKind?_normalizeJson (existing request : Json) (context : Context)
    (settings : Settings) :
    errorKind? (Parameters.normalizeJson existing request context settings) =
      (errorKind? (Parameters.ofJson existing)).or (errorKind? (Request.ofJson request)) := by
  unfold Parameters.normalizeJson
  cases Parameters.ofJson existing with
  | error e => rfl
  | ok p => cases Request.ofJson request <;> rfl

/-! ## §5. Other names. -/

theorem Request.field_congr {fields others : List (String × Json)} {name : String}
    (h : fields.lookup name = others.lookup name) : field fields name = field others name := by
  unfold field
  rw [h]

/-- **Parameters are read from their own names**, whatever stands under others. -/
theorem Parameters.ofJson_congr {fields others : List (String × Json)}
    (h : ∀ name ∈ Parameters.keys, fields.lookup name = others.lookup name) :
    Parameters.ofJson (.object fields) = Parameters.ofJson (.object others) := by
  have hkeys := h
  simp only [Parameters.keys, Parameters.listKeys, Parameters.flagKeys, List.cons_append,
    List.nil_append, List.forall_mem_cons, List.not_mem_nil, false_implies, implies_true,
    and_true] at hkeys
  obtain ⟨hgroup, hnativeIn, hnativeOut, hin, hout, hnone, hexist⟩ := hkeys
  unfold Parameters.ofJson Parameters.ofFields
  simp only
  rw [Request.field_congr hgroup, Request.field_congr hnativeIn, Request.field_congr hnativeOut,
    Request.field_congr hin, Request.field_congr hout, hnone, hexist]

/-- **A request is read from its own names**, whatever stands under others. -/
theorem Request.ofJson_congr {fields others : List (String × Json)}
    (h : ∀ name ∈ Request.keys, fields.lookup name = others.lookup name) :
    Request.ofJson (.object fields) = Request.ofJson (.object others) := by
  have hkeys := h
  simp only [Request.keys, Request.nativeKeys, List.forall_mem_cons, List.not_mem_nil,
    false_implies, implies_true, and_true] at hkeys
  obtain ⟨hexpression, hincluded, hexcluded⟩ := hkeys
  unfold Request.ofJson Request.nativeOfFields
  simp only
  rw [Request.field_congr hexpression, Request.field_congr hincluded,
    Request.field_congr hexcluded]

/-! ## §6. All at once. -/

/-- **What is accepted, and how the rest is rejected.** For parameters that are an object, the
verdict on the shapes tells whether they and the request are accepted in any context and under any
settings, and of which kind the error is. Values under names that are not read change nothing, be it
of what is yielded or of the error. -/
theorem normalizeJson_accepts :
    (∀ (existing : List (String × Json)) (request : Json) (context : Context)
        (settings : Settings),
        errorKind? (Parameters.normalizeJson (.object existing) request context settings) =
          verdict (shapesOf existing) (attributeShapes? request))
      ∧ (∀ existing others : List (String × Json),
          (∀ name ∈ Parameters.keys, existing.lookup name = others.lookup name) →
          ∀ (request : Json) (context : Context) (settings : Settings),
            Parameters.normalizeJson (.object existing) request context settings =
              Parameters.normalizeJson (.object others) request context settings)
      ∧ ∀ attributes others : List (String × Json),
          (∀ name ∈ Request.keys, attributes.lookup name = others.lookup name) →
          ∀ (existing : Json) (context : Context) (settings : Settings),
            Parameters.normalizeJson existing (.object attributes) context settings =
              Parameters.normalizeJson existing (.object others) context settings := by
  refine ⟨?_, ?_, ?_⟩
  · intro existing request context settings
    rw [errorKind?_normalizeJson, errorKind?_ofJson_parameters]
    unfold verdict
    cases Parameters.fit (shapesOf existing) with
    | false => rfl
    | true =>
      show errorKind? (Request.ofJson request) = _
      cases request with
      | object fields => exact errorKind?_ofJson_request fields
      | null | bool | number | string | array => rfl
  · intro existing others h request context settings
    unfold Parameters.normalizeJson
    rw [Parameters.ofJson_congr h]
  · intro attributes others h existing context settings
    unfold Parameters.normalizeJson
    rw [Request.ofJson_congr h]

/-- The request has a bad expression beside a bad list, under parameters that fit and hold further
names: the expression decides about the kind, and the further names change nothing. -/
theorem normalizeJson_accepts_of_bad_expression :
    let existing : List (String × Json) := [("group__in", .string "4, x"), ("scope", .bool true)]
    let known : List (String × Json) := [("group__in", .string "4, x")]
    let request : Json := .object [("group", .bool true), ("group__in", .object [])]
    let context : Context :=
      { viewer := .user 3
        directory := { groupOf := fun _ => .ok none, groupsOf := fun _ => .ok [] } }
    errorKind? (Parameters.normalizeJson (.object existing) request context {}) = some .expression
      ∧ Parameters.normalizeJson (.object existing) request context {} =
          Parameters.normalizeJson (.object known) request context {}
      ∧ Parameters.normalizeJson (.object []) (.object [("group", .null), ("limit", .nat 10)])
            context {} =
          Parameters.normalizeJson (.object []) (.object [("group", .null)]) context {} := by
  intro existing known request context
  obtain ⟨hkind, hexisting, hrequest⟩ := normalizeJson_accepts
  refine ⟨?_, ?_, ?_⟩
  · rw [hkind]
    decide
  · refine hexisting existing known ?_ request context {}
    intro name hname
    have hscope : name ≠ "scope" := by
      rintro rfl
      revert hname
      decide
    simp [existing, known, lookup_entry, hscope]
  · refine hrequest _ _ ?_ (.object []) context {}
    intro name hname
    have hlimit : name ≠ "limit" := by
      rintro rfl
      revert hname
      decide
    simp [lookup_entry, hlimit]

end GroupScope
