import GroupScope.Parameters.Absorb
import GroupScope.Proofs.Resolution.Outcome
/-!
# What one request does to each parameter

`absorb` branches on the directive, and three of its branches return before the lists are looked
at. For a resolution that resolving can yield, all branches agree on one law for each field:

    native lists     what is set stays, else what the request carries
    derived lists    a list that is not empty replaces the old one
    flags            once on, always on
    expression       the marker, nothing, or the settled form of the old one

The main statements are `absorb_eq` with these laws, and `singleReading_absorb`: no resolution at
all leaves an expression beside a derived list.
-/

namespace GroupScope.Parameters

/-! ## §1. One reading at a time. -/

/-- An unresolved expression and a derived list are not both present. -/
def SingleReading (p : Parameters) : Prop := ¬(p.hasExpression = true ∧ p.hasDerived = true)

/-- The expression, unless a derived list stands beside it. -/
def settledGroup (p : Parameters) : Option GroupParameter :=
  if p.hasExpression && p.hasDerived then none else p.group

/-- Where there is one reading, nothing has to be settled. -/
theorem SingleReading.settledGroup_eq {p : Parameters} (h : p.SingleReading) :
    p.settledGroup = p.group := by
  unfold settledGroup
  rw [if_neg]
  simpa [SingleReading] using h

/-- Without an unresolved expression there is one reading. -/
theorem singleReading_of_group {p : Parameters} (h : ∀ e, p.group ≠ some (.expression e)) :
    p.SingleReading := by
  rintro ⟨he, -⟩
  unfold hasExpression at he
  split at he
  next e hg => exact h e hg
  next => exact absurd he (by simp)

/-! ## §2. Taking over lists. -/

/-- The new list unless it is empty. -/
def replaceBy (ids : List GroupId) (old : Option (List GroupId)) : Option (List GroupId) :=
  if ids.isEmpty then old else some ids

theorem replaceBy_replaceBy (ids : List GroupId) (old : Option (List GroupId)) :
    replaceBy ids (replaceBy ids old) = replaceBy ids old := by
  cases ids <;> rfl

theorem adoptLists_eq (p : Parameters) (included excluded : List GroupId) :
    p.adoptLists included excluded =
      { p with
        group := if included.isEmpty && excluded.isEmpty then p.settledGroup else none
        included := replaceBy included p.included
        excluded := replaceBy excluded p.excluded } := by
  cases included <;> cases excluded <;> simp only [adoptLists, replaceBy, List.isEmpty_nil,
    List.isEmpty_cons, if_true, Bool.not_true, Bool.not_false, Bool.or_true, Bool.true_or,
    Bool.or_self, Bool.false_or, Bool.and_self, Bool.and_false, Bool.false_and, if_false,
    Bool.false_eq_true]
  -- Only two empty lists leave a choice: the old expression goes if a derived list is there.
  unfold settledGroup
  split <;> rfl

/-- **No resolution leaves an expression beside a derived list**, whatever was there before. -/
theorem singleReading_absorb (p : Parameters) (r : Resolution) : (p.absorb r).SingleReading := by
  unfold absorb
  simp only
  cases r.directive with
  | currentGroup | noGroup | myGroups => exact singleReading_of_group (by simp)
  | mustHaveGroup | plain =>
    simp only [adoptLists_eq]
    split
    next he =>
      simp only [Bool.and_eq_true] at he
      simp only [replaceBy, he.1, he.2, if_true]
      unfold settledGroup
      split
      · exact singleReading_of_group (by simp)
      next hn => simpa [SingleReading] using hn
    next => exact singleReading_of_group (by simp)

/-! ## §3. All fields at once. -/

/-- What a resolution leaves of the old expression: the marker or nothing if it contributes
anything, and else the settled form. -/
def groupAfter (p : Parameters) (r : Resolution) : Option GroupParameter :=
  if r.isNoop then p.settledGroup
  else if r.directive = .myGroups then some .my
  else none

/-- **The parameters after a request, field by field.** -/
theorem absorb_eq {context : Context} {native : NativeLists} {r : Resolution}
    (h : Resolution.Outcome context native r) (p : Parameters) :
    p.absorb r =
      { group := p.groupAfter r
        included := replaceBy r.included p.included
        excluded := replaceBy r.excluded p.excluded
        nativeIncluded := p.nativeIncluded.or native.included
        nativeExcluded := p.nativeExcluded.or native.excluded
        withoutGroup := p.withoutGroup || r.directive = .noGroup
        withGroup := p.withGroup || r.directive = .mustHaveGroup } := by
  cases h with
  | nothing =>
    simp [absorb, adoptLists_eq, adoptNative, groupAfter, Resolution.isNoop, replaceBy]
    rfl
  | currentGroup | myGroups | noGroup =>
    simp [absorb, adoptNative, groupAfter, Resolution.isNoop, replaceBy]
  | items pieces =>
    -- The directive of plain lists says no more than which of the two lists are empty.
    unfold Resolution.ofLists absorb
    cases hi : (resolveItems context (Item.ofPieces pieces)).value.included <;>
      cases he : (resolveItems context (Item.ofPieces pieces)).value.excluded <;>
        simp [adoptLists_eq, adoptNative, groupAfter, Resolution.isNoop, replaceBy]
    rfl

theorem settledGroup_absorb {context : Context} {native : NativeLists} {r : Resolution}
    (h : Resolution.Outcome context native r) (p : Parameters) :
    (p.absorb r).settledGroup = p.groupAfter r := by
  rw [(singleReading_absorb p r).settledGroup_eq, absorb_eq h]

/-- **Absorbing is idempotent.** -/
theorem absorb_absorb {context : Context} {native : NativeLists} {r : Resolution}
    (h : Resolution.Outcome context native r) (p : Parameters) :
    (p.absorb r).absorb r = p.absorb r := by
  -- The expression is the one field for which this is not plain: it is settled the first time.
  have hg : (p.absorb r).groupAfter r = p.groupAfter r := by
    unfold groupAfter
    rw [settledGroup_absorb h]
    unfold groupAfter
    cases r.isNoop <;> rfl
  rw [absorb_eq h (p.absorb r), hg, absorb_eq h p]
  simp [replaceBy_replaceBy, Option.or_assoc]

end GroupScope.Parameters
