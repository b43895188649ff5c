import GroupScope.Parameters.Codec
import GroupScope.Keyed
/-!
# Writing parameters and reading them back

Parameters are written with the host's names and read back from them. Everything survives but one
text: an unresolved expression that reads exactly `my` comes back as the marker.

    Parameters.ofJson p.toJson = ok p.reread

Reading therefore never fails on what was written, and what comes back holds an expression or a
derived list only if the original did.
-/

namespace GroupScope

/-! ## §1. Ids and expressions. -/

/-- An id is a whole number of 64 bits. -/
theorem Json.Number.toUInt64?_id (id : GroupId) : (integer id.toNat).toUInt64? = some id := by
  have hlt : (id.toNat : Int) < pow2 64 := by
    rw [pow2_64]
    have := id.toNat_lt
    omega
  simp [toUInt64?, hlt]

theorem IdList.entryOfJson_id (id : GroupId) : IdList.entryOfJson (.id id) = .ok id := by
  simp [Json.id, Json.nat, Json.integer, IdList.entryOfJson, IdList.idOfNumber,
    Json.Number.toUInt64?_id]

theorem IdList.entriesOfJson_ids (ids : List GroupId) :
    IdList.entriesOfJson (ids.map .id) = .ok ids := by
  induction ids with
  | nil => rfl
  | cons id ids ih =>
    rw [List.map_cons, IdList.entriesOfJson, IdList.entryOfJson_id, ih]
    rfl

/-- A list of ids is read back from its value. -/
theorem IdList.ofJson?_ids (ids : List GroupId) : IdList.ofJson? (.ids ids) = .ok (some ids) := by
  rw [Json.ids, IdList.ofJson?, IdList.entriesOfJson_ids]
  rfl

theorem Json.Number.toInt64?_integer (value : Int64) :
    (Json.Number.integer value.toInt).toInt64? = some value := by
  have hlow := value.le_toInt
  have hhigh := value.toInt_lt
  rw [Json.Number.toInt64?, if_pos, Int64.ofInt_toInt]
  rw [pow2_63]
  omega

theorem ListItem.listOfJson_toJson (items : List ListItem) :
    ListItem.listOfJson (items.map ListItem.toJson) = .ok items := by
  induction items with
  | nil => rfl
  | cons item items ih =>
    have hitem : ListItem.ofJson? item.toJson = .ok (some item) := by
      cases item with
      | text s => rfl
      | integer value =>
        simp [ListItem.toJson, Json.integer, ListItem.ofJson?, ListItem.ofNumber,
          Json.Number.toInt64?_integer]
    rw [List.map_cons, ListItem.listOfJson, hitem, ih]
    rfl

/-- **An expression is read back from its value.** -/
theorem Expression.ofJson?_toJson (e : Expression) : Expression.ofJson? e.toJson = .ok (some e) := by
  cases e with
  | text s => rfl
  | integer value =>
    simp [Expression.toJson, Json.integer, Expression.ofJson?, Expression.ofNumber,
      Json.Number.toInt64?_integer]
  | list items =>
    rw [Expression.toJson, Expression.ofJson?, ListItem.listOfJson_toJson]
    rfl

namespace Parameters

/-! ## §2. Fields by name. -/

/-- An optional field is found under its own name only. -/
theorem lookup_optionalField (name other : String) (encode : α → Json) (value : Option α) :
    (optionalField name encode value).lookup other =
      if other = name then value.map encode else none := by
  cases value with
  | none => simp [optionalField]
  | some v => rw [optionalField, lookup_entry]; rfl

theorem lookup_flagField (name other : String) (value : Bool) :
    (flagField name value).lookup other =
      if other = name ∧ value = true then some (.bool true) else none := by
  cases value with
  | false => simp [flagField]
  | true => simp [flagField, lookup_entry]

/-! ## §3. Parameters. -/

/-- The parameter for the expression after it is written and read back: the text `my` has become
the marker. -/
def rereadGroup : GroupParameter → GroupParameter
  | .expression (.text "my") => .my
  | group => group

/-- The parameters after they are written and read back. -/
def reread (p : Parameters) : Parameters := { p with group := p.group.map rereadGroup }

/-- The parameter for the expression is read back from its value. -/
theorem groupOfJson?_groupToJson (group : GroupParameter) :
    groupOfJson? (groupToJson group) = .ok (some (rereadGroup group)) := by
  unfold rereadGroup
  split
  · rfl
  next hmy =>
    cases group with
    | my => rfl
    | expression e =>
      unfold groupOfJson? groupToJson
      split
      next heq =>
        -- Only a text is written as a string, and this one is not `my`.
        cases e with
        | text s =>
          simp only [Expression.toJson, Json.string.injEq] at heq
          exact absurd (by rw [heq]) hmy
        | integer value => simp [Expression.toJson, Json.integer] at heq
        | list items => simp [Expression.toJson] at heq
      next => rw [Expression.ofJson?_toJson]; rfl

theorem groupOfJson?_optional (group : Option GroupParameter) :
    groupOfJson? ((group.map groupToJson).getD .null) = .ok (group.map rereadGroup) := by
  cases group with
  | none => rfl
  | some group => exact groupOfJson?_groupToJson group

theorem idsOfJson?_optional (ids : Option (List GroupId)) :
    idsOfJson? ((ids.map Json.ids).getD .null) = .ok ids := by
  cases ids with
  | none => rfl
  | some ids =>
    rw [idsOfJson?, Option.map_some, Option.getD_some, IdList.ofJson?_ids]
    rfl

theorem flagOfJson?_field (value : Bool) :
    flagOfJson? (if value = true then some (.bool true) else none) = .ok value := by
  cases value <;> rfl

/-- **Parameters are read back from their value**, up to the text `my`. -/
theorem ofJson_toJson (p : Parameters) : Parameters.ofJson p.toJson = .ok p.reread := by
  unfold Parameters.toJson Parameters.ofJson
  simp only [ofFields, Request.field, List.lookup_append, lookup_optionalField, lookup_flagField]
  simp [groupOfJson?_optional, idsOfJson?_optional, flagOfJson?_field]
  rfl

/-! ## §4. What comes back. -/

/-- Reading back brings in no expression. -/
theorem hasExpression_of_reread {p : Parameters} (h : p.reread.hasExpression = true) :
    p.hasExpression = true := by
  unfold hasExpression at h ⊢
  simp only [reread] at h
  cases hg : p.group with
  | none => simp [hg] at h
  | some group =>
    cases group with
    | my => simp [hg, rereadGroup] at h
    | expression e => rfl

end Parameters

end GroupScope
