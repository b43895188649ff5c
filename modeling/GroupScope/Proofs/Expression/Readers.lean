import GroupScope.Proofs.Parameters.RoundTrip
import GroupScope.Proofs.Result
import GroupScope.Wire
/-!
# Two readers of expressions

What a host hands over is read leniently: `null` is skipped, and a number that is no signed word is
taken as its text. What was written by this library is read strictly, as the first of three forms
that fits:

    a text   |   a signed word   |   a list of texts and signed words

The strict reader adapts nothing, so it accepts just what the lenient reader takes as it stands, and
makes the same of it:

    Wire.expression? value = some e
      ↔  Expression.ofJson? value = ok (some e)  ∧  value.IsVerbatim

What was written needs no adapting, so both readers give it back. The main statement is
`readers_agree`.
-/

namespace GroupScope

/-! ## §1. What the lenient reader adapts. -/

/-- The lenient reader does not take the value as it stands: it skips `null`, and it takes a double,
or a whole number that is no signed word, as its text. -/
def Json.IsAdapted : Json → Prop
  | .null => True
  | .number (.real _) => True
  | .number (.integer value) => ¬(-(pow2 63 : Int) ≤ value ∧ value < pow2 63)
  | .bool _ | .string _ | .array _ | .object _ => False

/-- Neither the value itself nor, if it is a list, any of its items is adapted. -/
def Json.IsVerbatim : Json → Prop
  | .array items => ∀ item ∈ items, ¬item.IsAdapted
  | value => ¬value.IsAdapted

/-- The numbers that are adapted are those that are no signed words. -/
theorem Json.isAdapted_number_iff {n : Json.Number} :
    (Json.number n).IsAdapted ↔ n.toInt64? = none := by
  cases n with
  | real x => simp [IsAdapted, Number.toInt64?]
  | integer value => simp [IsAdapted, Number.toInt64?]

/-! ## §2. Items. -/

/-- Only what is adapted is skipped. -/
theorem ListItem.isAdapted_of_ofJson?_none {value : Json} (h : ListItem.ofJson? value = .ok none) :
    value.IsAdapted := by
  cases value with
  | null => trivial
  | bool | string | number | array | object => cases h

namespace Wire

variable {value : Json}

/-- **One item**: the strict reader accepts what the lenient one takes as it stands. -/
theorem listItem?_eq_some_iff {item : ListItem} :
    listItem? value = some item ↔
      ListItem.ofJson? value = .ok (some item) ∧ ¬value.IsAdapted := by
  cases value with
  | null | bool | string | array | object =>
    simp [listItem?, int64?, ListItem.ofJson?, Json.IsAdapted]
  | number n =>
    rw [Json.isAdapted_number_iff]
    cases h : n.toInt64? with
    | none => simp [listItem?, int64?, h]
    | some word => simp [listItem?, int64?, ListItem.ofJson?, ListItem.ofNumber, h]

/-- **Lists of items**: none is skipped, and none is rewritten. -/
theorem mapM_listItem?_eq_some_iff {values : List Json} {items : List ListItem} :
    values.mapM listItem? = some items ↔
      ListItem.listOfJson values = .ok items ∧ ∀ value ∈ values, ¬value.IsAdapted := by
  induction values generalizing items with
  | nil => simp [ListItem.listOfJson]
  | cons value values ih =>
    rw [List.mapM_cons, List.forall_mem_cons, ListItem.listOfJson]
    cases hstrict : listItem? value with
    | none =>
      refine iff_of_false (fun hread => ?_) ?_
      · cases hread
      · rintro ⟨hread, hverbatim, -⟩
        -- The lenient reader may go on after this value, but only because it is adapted.
        cases hlenient : ListItem.ofJson? value with
        | error misfit =>
          rw [hlenient] at hread
          cases hread
        | ok found =>
          cases found with
          | none => exact hverbatim (ListItem.isAdapted_of_ofJson?_none hlenient)
          | some item =>
            rw [listItem?_eq_some_iff.mpr ⟨hlenient, hverbatim⟩] at hstrict
            cases hstrict
    | some item =>
      obtain ⟨hlenient, hverbatim⟩ := listItem?_eq_some_iff.mp hstrict
      rw [hlenient]
      simp [hverbatim, ih, map_eq_ok_iff, Option.bind_eq_some_iff, and_right_comm]

/-! ## §3. Expressions. -/

/-- The strict reader tries the three forms in turn. -/
theorem expression?_eq_or (value : Json) :
    expression? value =
      ((text? value).map .text).or
        (((int64? value).map .integer).or ((list? listItem? value).map .list)) := by
  cases value with
  | null | bool | string | array | object => rfl
  | number n => exact (Option.or_none).symm

/-- **One expression**: the strict reader accepts what the lenient one takes as it stands. -/
theorem expression?_eq_some_iff {e : Expression} :
    expression? value = some e ↔
      Expression.ofJson? value = .ok (some e) ∧ value.IsVerbatim := by
  rw [expression?_eq_or]
  cases value with
  | null | bool | string | object =>
    simp [text?, int64?, list?, Expression.ofJson?, Json.IsVerbatim, Json.IsAdapted]
  | number n =>
    have hverbatim : (Json.number n).IsVerbatim ↔ n.toInt64? ≠ none :=
      not_congr Json.isAdapted_number_iff
    rw [hverbatim]
    cases h : n.toInt64? with
    | none => simp [text?, int64?, list?, h]
    | some word => simp [text?, int64?, list?, Expression.ofJson?, Expression.ofNumber, h]
  | array values =>
    simp [text?, int64?, list?, Expression.ofJson?, Json.IsVerbatim, mapM_listItem?_eq_some_iff,
      map_eq_ok_iff, and_right_comm]

end Wire

/-! ## §4. What was written. -/

theorem Json.not_isAdapted_integer (value : Int64) : ¬(Json.integer value.toInt).IsAdapted := by
  rw [Json.integer, Json.isAdapted_number_iff, Json.Number.toInt64?_integer]
  exact Option.some_ne_none value

theorem ListItem.not_isAdapted_toJson (item : ListItem) : ¬item.toJson.IsAdapted := by
  cases item with
  | text s => exact id
  | integer value => exact Json.not_isAdapted_integer value

/-- Nothing of what is written for an expression is adapted when it is read. -/
theorem Expression.isVerbatim_toJson (e : Expression) : e.toJson.IsVerbatim := by
  cases e with
  | text s => exact id
  | integer value => exact Json.not_isAdapted_integer value
  | list items =>
    intro value hvalue
    obtain ⟨item, -, rfl⟩ := List.mem_map.mp hvalue
    exact item.not_isAdapted_toJson

/-- **The two readers of expressions agree.** The strict reader takes a value as the first that fits
of a text, a signed word and a list of these. It accepts a value just when the lenient reader reads
an expression from it without adapting anything: the value is not `null`, a double or a whole number
that is no signed word, and neither is an item of it if it is a list. Both then read the same
expression. Both read back every expression from its written form. -/
theorem readers_agree :
    (∀ value : Json,
        Wire.expression? value =
            ((Wire.text? value).map .text).or
              (((Wire.int64? value).map .integer).or
                ((Wire.list? Wire.listItem? value).map .list))
          ∧ ∀ e : Expression, Wire.expression? value = some e ↔
              Expression.ofJson? value = .ok (some e) ∧ value.IsVerbatim)
      ∧ ∀ e : Expression,
          Wire.expression? e.toJson = some e ∧ Expression.ofJson? e.toJson = .ok (some e) := by
  refine ⟨fun value => ⟨Wire.expression?_eq_or value, fun e => Wire.expression?_eq_some_iff⟩, ?_⟩
  intro e
  have hlenient : Expression.ofJson? e.toJson = .ok (some e) := Expression.ofJson?_toJson e
  have hstrict : Wire.expression? e.toJson = some e :=
    Wire.expression?_eq_some_iff.mpr ⟨hlenient, e.isVerbatim_toJson⟩
  exact ⟨hstrict, hlenient⟩

/-- The numbers at the border of the signed words, and what is left of a list that is adapted. -/
example :
    Wire.expression? (.integer 9223372036854775807) = some (.integer 9223372036854775807)
      ∧ Wire.expression? (.integer 9223372036854775808) = none
      ∧ Expression.ofJson? (.integer 9223372036854775808) =
          .ok (some (.text "9223372036854775808"))
      ∧ Wire.expression? (.array [.null, .string "5"]) = none
      ∧ Expression.ofJson? (.array [.null, .string "5"]) = .ok (some (.list [.text "5"])) :=
  ⟨rfl, rfl, rfl, rfl, rfl⟩

end GroupScope
