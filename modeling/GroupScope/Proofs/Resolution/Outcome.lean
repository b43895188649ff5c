import GroupScope.Expression.Resolve
/-!
# What resolving can yield

Whatever the expression, the context and the settings are, a resolution is one of five things:
nothing, one of the three keyword meanings, or the plain lists of some items.

    (resolve e native context settings).value  ∈  nothing | this | my | 0 | items

Everything that later proofs ask of a resolution is read off these five cases: which lists stand
beside which directive, and where the ids come from.
-/

namespace GroupScope

/-! ## §1. The five outcomes. -/

/-- The resolutions that an expression can have in a context. -/
inductive Resolution.Outcome (context : Context) (native : NativeLists) : Resolution → Prop
  /-- There is no expression, or groups are switched off. -/
  | nothing : Outcome context native { native }
  /-- The current group, if the request comes from the page of one. -/
  | currentGroup (id : GroupId) (h : context.currentGroup = some id) :
      Outcome context native { included := [id], directive := .currentGroup, native }
  /-- The groups of the viewer, if a user is logged in. -/
  | myGroups (h : context.viewer.isUser = true) :
      Outcome context native { directive := .myGroups, native }
  /-- No group. -/
  | noGroup : Outcome context native { directive := .noGroup, native }
  /-- The lists of the items that some pieces of text stand for. -/
  | items (pieces : List (List Char)) :
      Outcome context native (.ofLists (resolveItems context (Item.ofPieces pieces)).value native)

theorem Keyword.outcome_of_resolve? {keyword : Keyword} {context : Context} {native : NativeLists}
    {r : Resolution} (h : keyword.resolve? context native = some r) :
    Resolution.Outcome context native r := by
  cases keyword with
  | this =>
    simp only [Keyword.resolve?, Option.map_eq_some_iff] at h
    obtain ⟨id, hid, rfl⟩ := h
    exact .currentGroup id hid
  | my =>
    simp only [Keyword.resolve?] at h
    split at h
    next huser =>
      injection h with h
      subst h
      exact .myGroups huser
    next => exact absurd h (by simp)
  | zero =>
    injection h with h
    subst h
    exact .noGroup

theorem Resolution.outcome_ofItems (pieces : List (List Char)) (context : Context)
    (native : NativeLists) :
    Resolution.Outcome context native
      (Resolution.ofItems (Item.ofPieces pieces) context native).value :=
  .items pieces

/-- An expression has one of the five outcomes when groups are switched on. -/
theorem Expression.resolve_outcome (expression : Expression) (context : Context)
    (native : NativeLists) :
    Resolution.Outcome context native (expression.resolve context native).value := by
  unfold Expression.resolve Item.ofText
  -- Only a text or the number zero can be a keyword; all else is resolved item by item.
  cases expression with
  | text s =>
    simp only
    split
    next r hr =>
      obtain ⟨keyword, -, hk⟩ := Option.bind_eq_some_iff.mp hr
      exact Keyword.outcome_of_resolve? hk
    next => exact Resolution.outcome_ofItems _ context native
  | integer value =>
    simp only
    split
    · exact .noGroup
    · exact Resolution.outcome_ofItems _ context native
  | list items => exact Resolution.outcome_ofItems _ context native

/-- **Every resolution is one of the five outcomes.** -/
theorem resolve_outcome (expression : Option Expression) (native : NativeLists)
    (context : Context) (settings : Settings) :
    Resolution.Outcome context native (resolve expression native context settings).value := by
  cases expression with
  | none => exact .nothing
  | some expression =>
    unfold resolve
    simp only
    split
    · exact expression.resolve_outcome context native
    · exact .nothing

/-! ## §2. Directives and the lists beside them. -/

namespace Resolution

variable {context : Context} {native : NativeLists} {r : Resolution}

theorem Outcome.native_eq (h : Outcome context native r) : r.native = native := by
  cases h <;> rfl

theorem directive_ofLists (lists : Resolution.Lists) (native : NativeLists) :
    (ofLists lists native).directive = .plain
      ∨ (ofLists lists native).directive = .mustHaveGroup := by
  unfold ofLists
  simp only
  split
  · exact .inr rfl
  · exact .inl rfl

/-- Plain lists come with no keyword's directive. -/
theorem directive_ofLists_ne (lists : Resolution.Lists) (native : NativeLists)
    {directive : Directive} (hplain : directive ≠ .plain) (hmust : directive ≠ .mustHaveGroup) :
    (ofLists lists native).directive ≠ directive := by
  rcases directive_ofLists lists native with h | h
  · rw [h]
    exact hplain.symm
  · rw [h]
    exact hmust.symm

/-- The current group stands alone. -/
theorem Outcome.eq_of_currentGroup (h : Outcome context native r)
    (hd : r.directive = .currentGroup) :
    ∃ id, context.currentGroup = some id
      ∧ r = { included := [id], directive := .currentGroup, native } := by
  cases h with
  | currentGroup id hid => exact ⟨id, hid, rfl⟩
  | items pieces => exact absurd hd (directive_ofLists_ne _ native (by decide) (by decide))
  | nothing | myGroups | noGroup => cases hd

/-- The two directives without ids stand alone. -/
theorem Outcome.eq_of_idless (h : Outcome context native r)
    (hd : r.directive = .myGroups ∨ r.directive = .noGroup) :
    r = { directive := r.directive, native } := by
  cases h with
  | items pieces =>
    rcases hd with hd | hd
    · exact absurd hd (directive_ofLists_ne _ native (by decide) (by decide))
    · exact absurd hd (directive_ofLists_ne _ native (by decide) (by decide))
  | currentGroup id _ => rcases hd with hd | hd <;> cases hd
  | nothing | myGroups | noGroup => rfl

/-- The current group is the only id, and nothing is excluded. -/
theorem Outcome.lists_of_currentGroup (h : Outcome context native r)
    (hd : r.directive = .currentGroup) : r.included ≠ [] ∧ r.excluded = [] := by
  obtain ⟨id, -, rfl⟩ := h.eq_of_currentGroup hd
  exact ⟨List.cons_ne_nil id [], rfl⟩

theorem Outcome.lists_of_idless (h : Outcome context native r)
    (hd : r.directive = .myGroups ∨ r.directive = .noGroup) :
    r.included = [] ∧ r.excluded = [] := by
  rw [h.eq_of_idless hd]
  exact ⟨rfl, rfl⟩

/-- Only a user is asked for groups of their own. -/
theorem Outcome.isUser_of_myGroups (h : Outcome context native r) (hd : r.directive = .myGroups) :
    context.viewer.isUser = true := by
  cases h with
  | myGroups huser => exact huser
  | items pieces => exact absurd hd (directive_ofLists_ne _ native (by decide) (by decide))
  | nothing | currentGroup | noGroup => cases hd

/-- Some group is asked for exactly when there are exclusions alone. -/
theorem Outcome.mustHaveGroup_iff (h : Outcome context native r) :
    r.directive = .mustHaveGroup ↔ r.included = [] ∧ r.excluded ≠ [] := by
  cases h with
  | items pieces => simp [Resolution.ofLists]
  | nothing | currentGroup | myGroups | noGroup => simp

end Resolution

end GroupScope
