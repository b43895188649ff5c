import GroupScope.Proofs.Resolution.Ids
/-!
# What stands beside a directive

A directive and the lists of a resolution fit together, whatever the expression, the directory and
the viewer are:

    currentGroup    one id, the group of the page; nothing is excluded or dropped
    myGroups        no ids, nothing is dropped, and a user is logged in
    noGroup         no ids, nothing is dropped
    mustHaveGroup   exactly when ids are excluded and none are included

So whoever reads the directive first loses no list by it. Later stages rely on that: they look at
the lists of a resolution only when its directive is not one of the first three.
-/

namespace GroupScope

/-- The directive and the lists of a resolution fit together. -/
structure Resolution.Coherent (context : Context) (native : NativeLists) (r : Resolution) :
    Prop where
  /-- The native lists are handed on as they are. -/
  native_eq : r.native = native
  /-- No id is zero. -/
  pos : ∀ id, id ∈ r.included ∨ id ∈ r.excluded → 0 < id
  /-- The current group stands alone. -/
  currentGroup : r.directive = .currentGroup →
    ∃ id, context.page = some id ∧ 0 < id
      ∧ r.included = [id] ∧ r.excluded = [] ∧ r.dropped = []
  /-- Only a user is asked for groups of their own. -/
  isUser : r.directive = .myGroups → context.viewer.isUser = true
  /-- The groups of the viewer stand alone. -/
  myGroups : r.directive = .myGroups → r.included = [] ∧ r.excluded = [] ∧ r.dropped = []
  /-- No group at all stands alone. -/
  noGroup : r.directive = .noGroup → r.included = [] ∧ r.excluded = [] ∧ r.dropped = []
  /-- Some group is asked for exactly when there are exclusions alone. -/
  mustHaveGroup_iff : r.directive = .mustHaveGroup ↔ r.included = [] ∧ r.excluded ≠ []

/-- Every outcome is coherent. -/
theorem Resolution.Outcome.coherent {context : Context} {native : NativeLists} {r : Resolution}
    (h : Outcome context native r) : Coherent context native r where
  native_eq := h.native_eq
  pos := fun _ hid => (h.source hid).pos
  currentGroup := by
    intro hd
    obtain ⟨id, hcurrent, rfl⟩ := h.eq_of_currentGroup hd
    obtain ⟨hpage, hpos⟩ := Context.currentGroup_eq_some_iff.mp hcurrent
    exact ⟨id, hpage, hpos, rfl, rfl, rfl⟩
  isUser := h.isUser_of_myGroups
  myGroups := by
    intro hd
    rw [h.eq_of_idless (.inl hd)]
    exact ⟨rfl, rfl, rfl⟩
  noGroup := by
    intro hd
    rw [h.eq_of_idless (.inr hd)]
    exact ⟨rfl, rfl, rfl⟩
  mustHaveGroup_iff := h.mustHaveGroup_iff

/-- **Every resolution is coherent.** Without an expression, or with groups switched off, it is the
empty one with the native lists. A list never yields a keyword's directive. -/
theorem resolution_coherent (expression : Option Expression) (native : NativeLists)
    (context : Context) (settings : Settings) :
    let r := (resolve expression native context settings).value
    Resolution.Coherent context native r
      ∧ (expression = none ∨ settings.groupsEnabled = false → r = { native })
      ∧ ∀ items, expression = some (.list items) →
          r.directive ≠ .currentGroup ∧ r.directive ≠ .myGroups ∧ r.directive ≠ .noGroup := by
  intro r
  refine ⟨(resolve_outcome expression native context settings).coherent, ?_, ?_⟩
  · rintro (rfl | hoff)
    · rfl
    · cases expression with
      | none => rfl
      | some expression =>
        show (resolve (some expression) native context settings).value = _
        unfold resolve
        simp only [hoff, Bool.false_eq_true, if_false]
        rfl
  · rintro items rfl
    have hdirective : r.directive = .plain ∨ r.directive = .mustHaveGroup := by
      show (resolve (some (.list items)) native context settings).value.directive = .plain ∨
        (resolve (some (.list items)) native context settings).value.directive = .mustHaveGroup
      unfold resolve
      cases settings.groupsEnabled with
      | false => exact .inl rfl
      | true => exact Resolution.directive_ofLists _ native
    rcases hdirective with h | h <;> rw [h] <;> decide

end GroupScope
