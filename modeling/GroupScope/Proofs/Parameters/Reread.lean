import GroupScope.Proofs.Parameters.Session
import GroupScope.Proofs.Result
/-!
# When writing and reading back changes nothing

The only value that does not survive being written and read back is an unresolved expression with
the text `my`, which comes back as the marker. Reading never yields that expression, whatever is
read: the text itself is the marker, and a number is never written with letters of `my`.

    Parameters.ofJson p.toJson = ok p   ↔   p.group ≠ the text my
    Parameters.ofJson v = ok p          →   Parameters.ofJson p.toJson = ok p

Folding in a request brings no such expression in either, so a session that starts from what was
read may be written down and read back anywhere.
-/

namespace GroupScope

/-! ## §1. Numbers as texts. -/

theorem Int.letter_not_mem_toString {c : Char} (hd : c.isDigit = false) (hs : c ≠ '-')
    (value : Int) : c ∉ (toString value).toList := by
  have hdigits : ∀ n : Nat, c ∉ (Nat.repr n).toList := by
    intro n hc
    rw [Nat.toList_repr] at hc
    have hdigit : c.isDigit = true := Nat.isDigit_of_mem_toDigits (by decide) (by decide) hc
    rw [hd] at hdigit
    cases hdigit
  cases value with
  | ofNat n => exact hdigits n
  | negSucc n =>
    show c ∉ ("-" ++ Nat.repr (n + 1)).toList
    rw [String.toList_append, List.mem_append]
    rintro (hc | hc)
    · exact hs (List.mem_singleton.mp hc)
    · exact hdigits _ hc

/-- The text of a double has a point or an exponent mark. -/
theorem Binary64.mark_mem_text (x : Binary64) : '.' ∈ x.text.toList ∨ 'e' ∈ x.text.toList := by
  unfold Binary64.text
  extract_lets d digits lead whole fraction mantissa sign magnitude
  have hmagnitude : '.' ∈ magnitude.toList ∨ 'e' ∈ magnitude.toList := by
    unfold magnitude
    split
    · -- Each of the positional layouts has a point.
      left
      split
      · simp [String.toList_append]
      · split <;> simp [String.toList_append]
    · right
      simp [String.toList_append]
  split
  · rw [String.toList_append]
    exact hmagnitude.imp (List.mem_append_right _) (List.mem_append_right _)
  · exact hmagnitude

/-- No number is written `my`. -/
theorem Json.Number.text_ne_my (n : Json.Number) : n.text ≠ "my" := by
  intro h
  cases n with
  | integer value =>
    have hm : 'm' ∉ (toString value).toList := Int.letter_not_mem_toString rfl (by decide) value
    apply hm
    show 'm' ∈ (Json.Number.text (.integer value)).toList
    rw [h]
    decide
  | real x =>
    have hx : x.text = "my" := h
    have hmark := x.mark_mem_text
    rw [hx] at hmark
    revert hmark
    decide

/-! ## §2. When reading back changes nothing. -/

namespace Parameters

/-- The expression is not the text `my`. -/
def Legible (p : Parameters) : Prop := p.group ≠ some (.expression (.text "my"))

theorem rereadGroup_eq_self_iff {group : GroupParameter} :
    rereadGroup group = group ↔ group ≠ .expression (.text "my") := by
  unfold rereadGroup
  split
  · simp
  next hmy => exact iff_of_true rfl fun h => hmy h

/-- Legible parameters are those that are read back as they are. -/
theorem reread_eq_self_iff {p : Parameters} : p.reread = p ↔ p.Legible := by
  have hgroup : p.reread = p ↔ p.group.map rereadGroup = p.group := by
    constructor
    · intro h
      exact congrArg Parameters.group h
    · intro h
      unfold reread
      rw [h]
  rw [hgroup]
  unfold Legible
  cases p.group with
  | none => simp
  | some group =>
    rw [Option.map_some, Option.some.injEq, rereadGroup_eq_self_iff, ne_eq, ne_eq,
      Option.some.injEq]

/-- **Writing and reading back** gives the same parameters just when they are legible. -/
theorem ofJson_toJson_eq_self_iff {p : Parameters} :
    Parameters.ofJson p.toJson = .ok p ↔ p.Legible := by
  rw [ofJson_toJson, Except.ok.injEq]
  exact reread_eq_self_iff

/-! ## §3. What is read is legible. -/

/-- A text comes from the same text or from a number, and none is written `my`. -/
theorem eq_my_of_expressionOfJson? {value : Json}
    (h : Expression.ofJson? value = .ok (some (.text "my"))) : value = .string "my" := by
  cases value with
  | null | bool | object => simp [Expression.ofJson?] at h
  | string s =>
    simp only [Expression.ofJson?, Except.ok.injEq, Option.some.injEq, Expression.text.injEq] at h
    rw [h]
  | number n =>
    simp only [Expression.ofJson?, Except.ok.injEq, Option.some.injEq] at h
    unfold Expression.ofNumber at h
    split at h
    · cases h
    · injection h with h
      exact absurd h n.text_ne_my
  | array items =>
    simp only [Expression.ofJson?] at h
    cases hitems : ListItem.listOfJson items <;> rw [hitems] at h <;> simp [Except.map] at h

/-- The value of the parameter for the expression is never the text `my`. -/
theorem ne_my_of_groupOfJson? {value : Json} {group : Option GroupParameter}
    (h : groupOfJson? value = .ok group) : group ≠ some (.expression (.text "my")) := by
  unfold groupOfJson? at h
  split at h
  next =>
    injection h with h
    subst h
    simp
  next hstring =>
    split at h
    next e he =>
      injection h with h
      subst h
      rintro hmy
      obtain ⟨e', rfl, he'⟩ := Option.map_eq_some_iff.mp hmy
      injection he' with he'
      subst he'
      exact hstring (eq_my_of_expressionOfJson? he)
    next => cases h

theorem groupOfJson?_of_ofFields {fields : List (String × Json)} {p : Parameters}
    (h : ofFields fields = .ok p) :
    groupOfJson? (Request.field fields "group") = .ok p.group := by
  unfold ofFields at h
  obtain ⟨group, hgroup, h⟩ := bind_eq_ok_iff.mp h
  obtain ⟨nativeIncluded, -, h⟩ := bind_eq_ok_iff.mp h
  obtain ⟨nativeExcluded, -, h⟩ := bind_eq_ok_iff.mp h
  obtain ⟨included, -, h⟩ := bind_eq_ok_iff.mp h
  obtain ⟨withoutGroup, -, h⟩ := bind_eq_ok_iff.mp h
  obtain ⟨withGroup, -, h⟩ := bind_eq_ok_iff.mp h
  obtain ⟨excluded, -, h⟩ := bind_eq_ok_iff.mp h
  injection h with h
  subst h
  exact hgroup

theorem groupOfJson?_of_ofItems {items : List Json} {p : Parameters} (h : ofItems items = .ok p) :
    groupOfJson? ((items[0]?).getD .null) = .ok p.group := by
  unfold ofItems at h
  obtain ⟨group, hgroup, h⟩ := bind_eq_ok_iff.mp h
  obtain ⟨included, -, h⟩ := bind_eq_ok_iff.mp h
  obtain ⟨excluded, -, h⟩ := bind_eq_ok_iff.mp h
  obtain ⟨nativeIncluded, -, h⟩ := bind_eq_ok_iff.mp h
  obtain ⟨nativeExcluded, -, h⟩ := bind_eq_ok_iff.mp h
  obtain ⟨withoutGroup, -, h⟩ := bind_eq_ok_iff.mp h
  obtain ⟨withGroup, -, h⟩ := bind_eq_ok_iff.mp h
  split at h
  · cases h
  · injection h with h
    subst h
    exact hgroup

/-- **Parameters that were read are legible**, be they read from an object or from a list. -/
theorem legible_of_ofJson {value : Json} {p : Parameters} (h : Parameters.ofJson value = .ok p) :
    p.Legible := by
  unfold Parameters.ofJson at h
  cases value with
  | object fields =>
    have hfields : ofFields fields = .ok p := mapError_eq_ok_iff.mp h
    exact ne_my_of_groupOfJson? (groupOfJson?_of_ofFields hfields)
  | array items =>
    have hitems : ofItems items = .ok p := mapError_eq_ok_iff.mp h
    exact ne_my_of_groupOfJson? (groupOfJson?_of_ofItems hitems)
  | null | bool | number | string => cases h

/-! ## §4. Sessions. -/

/-- A resolution leaves the old expression, the marker or nothing. -/
theorem Legible.absorb {p : Parameters} (h : p.Legible) {context : Context} {native : NativeLists}
    {r : Resolution} (hr : Resolution.Outcome context native r) : (p.absorb r).Legible := by
  rw [absorb_eq hr]
  show p.groupAfter r ≠ _
  unfold groupAfter
  split
  · unfold settledGroup
    split
    · simp
    · exact h
  · split <;> simp

end Parameters

namespace Session

/-- **Every move keeps the parameters legible.** -/
theorem legible_parametersAfter {s : Session} (h : s.parameters.Legible) (move : Move) :
    (s.parametersAfter move).Legible := by
  cases move with
  | normalize request => exact h.absorb (resolve_outcome ..)
  | roundTrip =>
    show s.parameters.reread.Legible
    rw [Parameters.reread_eq_self_iff.mpr h]
    exact h
  | viewer | page | directory | settings => exact h

theorem legible_of_run {s t : Session} (h : s.parameters.Legible) {moves : List Move}
    (hr : s.run moves = .ok t) : t.parameters.Legible :=
  parameters_of_run (fun _ move hs => legible_parametersAfter hs move) h hr

/-- Writing legible parameters down and reading them back leaves the session as it is. -/
theorem step_roundTrip {s : Session} (h : s.parameters.Legible) : s.step .roundTrip = .ok s := by
  unfold step
  rw [Parameters.ofJson_toJson_eq_self_iff.mpr h]
  rfl

/-- A round trip may stand anywhere among the moves: they succeed with the same result. -/
theorem run_roundTrip {s : Session} (h : s.parameters.Legible) (before after : List Move) :
    ∃ t, s.run (before ++ .roundTrip :: after) = .ok t ∧ s.run (before ++ after) = .ok t := by
  obtain ⟨u, hu⟩ := s.run_ok before
  obtain ⟨t, ht⟩ := u.run_ok after
  refine ⟨t, ?_, ?_⟩
  · rw [run_append, hu]
    show (u.step .roundTrip).bind (·.run after) = .ok t
    rw [step_roundTrip (legible_of_run h hu)]
    exact ht
  · rw [run_append, hu]
    exact ht

end Session

/-! ## §5. All at once. -/

/-- **Parameters and their written form.** Parameters are read back as they are just when their
expression is not the text `my`. Parameters that were read always are, from whatever value they were
read, and in a session that starts from such parameters a round trip changes nothing, wherever it
stands. -/
theorem parameters_round_trip :
    (∀ p : Parameters,
        Parameters.ofJson p.toJson = .ok p ↔ p.group ≠ some (.expression (.text "my")))
      ∧ ∀ (value : Json) (p : Parameters), Parameters.ofJson value = .ok p →
          Parameters.ofJson p.toJson = .ok p
          ∧ ∀ (s : Session) (before after : List Session.Move), s.parameters = p →
              ∃ t, s.run (before ++ .roundTrip :: after) = .ok t
                ∧ s.run (before ++ after) = .ok t := by
  refine ⟨fun p => Parameters.ofJson_toJson_eq_self_iff, ?_⟩
  intro value p h
  have hlegible : p.Legible := Parameters.legible_of_ofJson h
  refine ⟨Parameters.ofJson_toJson_eq_self_iff.mpr hlegible, ?_⟩
  intro s before after hs
  subst hs
  exact s.run_roundTrip hlegible before after

/-- A number that no signed word holds is read as a text, here from a list of values, and that text
is written and read back as it is. -/
theorem parameters_round_trip_of_number :
    let value : Json := .array [.nat 18446744073709551615, .null, .string "5, x"]
    let p : Parameters :=
      { group := some (.expression (.text "18446744073709551615")), excluded := some [5, 0] }
    Parameters.ofJson value = .ok p ∧ Parameters.ofJson p.toJson = .ok p := by
  intro value p
  have hread : Parameters.ofJson value = .ok p := by rfl
  exact ⟨hread, (parameters_round_trip.2 value p hread).1⟩

end GroupScope
