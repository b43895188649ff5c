import GroupScope.Proofs.Parameters.Update
/-!
# Closed form of a session

A session folds one request after another into the parameters, each under a context and settings of
its own. Nothing of the order survives in the result but a first and a last: with `rᵢ` the
resolution of the i-th request,

    native lists     what was set at the start, else the first list that a request carries
    derived lists    the last list that is not empty, else what was set at the start
    flags            set at the start, or some `rᵢ` has the directive
    expression       decided by the last `rᵢ` that contributes anything

The main statement is `normalizeAll_closed_form`.
-/

namespace GroupScope

/-! ## §1. Requests in a row. -/

/-- One request of a session, with the context and the settings it is made under. -/
structure Turn where
  /-- What is asked. -/
  request : Request
  /-- Who asks, and from where. -/
  context : Context
  /-- The settings at that moment. -/
  settings : Settings

/-- What the expression of the request means at that moment. -/
def Turn.resolution (turn : Turn) : Resolution :=
  (resolve turn.request.expression turn.request.native turn.context turn.settings).value

theorem Turn.outcome (turn : Turn) :
    Resolution.Outcome turn.context turn.request.native turn.resolution :=
  resolve_outcome ..

namespace Parameters

/-- The parameters after one request. -/
def after (p : Parameters) (turn : Turn) : Parameters :=
  (p.normalize turn.request turn.context turn.settings).value

/-- The parameters after requests in a row. -/
def normalizeAll (p : Parameters) (turns : List Turn) : Parameters := turns.foldl after p

theorem after_eq (p : Parameters) (turn : Turn) : p.after turn = p.absorb turn.resolution := rfl

/-! ## §2. The last of a kind. -/

/-- The last element with a property. -/
def lastWhere (f : α → Bool) (xs : List α) : Option α := (xs.filter f).getLast?

/-- The first element counts only if no later one does. -/
theorem lastWhere_cons (f : α → Bool) (x : α) (xs : List α) :
    lastWhere f (x :: xs) = (lastWhere f xs).or (if f x then some x else none) := by
  unfold lastWhere
  rw [List.filter_cons]
  split
  · rw [List.getLast?_cons]
    cases (xs.filter f).getLast? <;> rfl
  · rw [Option.or_none]

/-- The last list that is not empty, else the one from before. -/
def lastList (list : Resolution → List GroupId) (rs : List Resolution)
    (before : Option (List GroupId)) : Option (List GroupId) :=
  ((lastWhere (fun r => !(list r).isEmpty) rs).map list).or before

theorem lastList_cons (list : Resolution → List GroupId) (r : Resolution) (rs : List Resolution)
    (before : Option (List GroupId)) :
    lastList list (r :: rs) before = lastList list rs (replaceBy (list r) before) := by
  unfold lastList replaceBy
  rw [lastWhere_cons]
  cases lastWhere (fun r => !(list r).isEmpty) rs with
  | some last => rfl
  | none => cases (list r).isEmpty <;> simp

/-! ## §3. The closed form. -/

/-- What the last resolution that contributes anything leaves of the expression: the marker or
nothing. Without such a resolution the old one stays, in its settled form. -/
def groupAfterAll (p : Parameters) (rs : List Resolution) : Option GroupParameter :=
  match lastWhere (fun r => !r.isNoop) rs with
  | some last => if last.directive = .myGroups then some .my else none
  | none => p.settledGroup

/-- The parameters after requests in a row, written without a fold. -/
def sessionForm (p : Parameters) (turns : List Turn) : Parameters :=
  let resolutions := turns.map Turn.resolution
  { group := p.groupAfterAll resolutions
    included := lastList Resolution.included resolutions p.included
    excluded := lastList Resolution.excluded resolutions p.excluded
    nativeIncluded := p.nativeIncluded.or (turns.findSome? fun turn => turn.request.native.included)
    nativeExcluded := p.nativeExcluded.or (turns.findSome? fun turn => turn.request.native.excluded)
    withoutGroup := p.withoutGroup || resolutions.any fun r => r.directive = .noGroup
    withGroup := p.withGroup || resolutions.any fun r => r.directive = .mustHaveGroup }

theorem groupAfterAll_cons {context : Context} {native : NativeLists} {r : Resolution}
    (h : Resolution.Outcome context native r) (p : Parameters) (rs : List Resolution) :
    p.groupAfterAll (r :: rs) = (p.absorb r).groupAfterAll rs := by
  unfold groupAfterAll
  rw [lastWhere_cons, settledGroup_absorb h]
  cases lastWhere (fun r => !r.isNoop) rs with
  -- A later resolution that contributes decides alone.
  | some last => rfl
  | none =>
    unfold groupAfter
    cases hn : r.isNoop <;> simp

theorem sessionForm_cons (p : Parameters) (turn : Turn) (turns : List Turn) :
    p.sessionForm (turn :: turns) = (p.after turn).sessionForm turns := by
  unfold sessionForm
  simp only [List.map_cons, groupAfterAll_cons turn.outcome, lastList_cons, List.findSome?_cons,
    List.any_cons, after_eq, absorb_eq turn.outcome]
  congr 1
  · cases turn.request.native.included <;> simp
  · cases turn.request.native.excluded <;> simp
  · rw [Bool.or_assoc]
  · rw [Bool.or_assoc]

/-- From one reading on, requests in a row give the closed form. -/
theorem normalizeAll_eq_sessionForm {p : Parameters} (h : p.SingleReading) (turns : List Turn) :
    p.normalizeAll turns = p.sessionForm turns := by
  -- Any request leaves one reading, so the hypothesis is there again for the next one.
  induction turns generalizing p with
  | nil => simp [normalizeAll, sessionForm, groupAfterAll, lastList, lastWhere, h.settledGroup_eq]
  | cons turn turns ih =>
    rw [sessionForm_cons]
    exact ih (singleReading_absorb p turn.resolution)

/-! ## §4. Consequences. -/

/-- An expression in the closed form was there at the start. -/
theorem expression_of_sessionForm {p : Parameters} {turns : List Turn} {e : Expression}
    (h : (p.sessionForm turns).group = some (.expression e)) : p.group = some (.expression e) := by
  simp only [sessionForm, groupAfterAll] at h
  split at h
  next => split at h <;> cases h
  next =>
    unfold settledGroup at h
    split at h
    · cases h
    · exact h

/-- **Closed form of a session.** The parameters after requests in a row, at least one, are given
field by field by first and last contributions. In particular no expression of a request is kept,
native lists stay once they are set, and a request that is made twice in a row counts once. -/
theorem normalizeAll_closed_form (p : Parameters) (turn : Turn) (turns : List Turn) :
    let result := p.normalizeAll (turn :: turns)
    result = p.sessionForm (turn :: turns)
      ∧ (∀ e, result.group = some (.expression e) → p.group = some (.expression e))
      ∧ (∀ ids, p.nativeIncluded = some ids → result.nativeIncluded = some ids)
      ∧ (∀ ids, p.nativeExcluded = some ids → result.nativeExcluded = some ids)
      ∧ (∀ before, p.normalizeAll (before ++ turn :: turn :: turns) =
          p.normalizeAll (before ++ turn :: turns)) := by
  have hform : p.normalizeAll (turn :: turns) = p.sessionForm (turn :: turns) := by
    -- Only the first request may meet an expression beside a derived list.
    rw [sessionForm_cons]
    exact normalizeAll_eq_sessionForm (singleReading_absorb p turn.resolution) turns
  refine ⟨hform, ?_, ?_, ?_, ?_⟩
  · intro e he
    rw [hform] at he
    exact expression_of_sessionForm he
  · intro ids hids
    rw [hform]
    simp [sessionForm, hids]
  · intro ids hids
    rw [hform]
    simp [sessionForm, hids]
  · intro before
    unfold normalizeAll
    rw [List.foldl_append, List.foldl_append]
    exact congrArg (turns.foldl after) (absorb_absorb turn.outcome _)

end Parameters

end GroupScope
