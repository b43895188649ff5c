/-!
# Computations that may fail

What readers and commands have in common: steps in a row succeed when every step does, and to wrap
an error or to change a result decides nothing.
-/

namespace GroupScope

/-- A computation succeeds just when its first part does and the rest succeeds with what that
yielded. -/
theorem bind_eq_ok_iff {first : Except ε α} {rest : α → Except ε β} {b : β} :
    first >>= rest = .ok b ↔ ∃ a, first = .ok a ∧ rest a = .ok b := by
  cases first with
  | error e =>
    constructor
    · intro h
      cases h
    · rintro ⟨a, h, -⟩
      cases h
  | ok a =>
    constructor
    · intro h
      exact ⟨a, rfl, h⟩
    · rintro ⟨a', h, hrest⟩
      injection h with h
      exact h ▸ hrest

/-- A fault that is wrapped is still a fault. -/
theorem mapError_eq_ok_iff {f : ε → ε'} {result : Except ε α} {a : α} :
    result.mapError f = .ok a ↔ result = .ok a := by
  cases result with
  | error e => exact ⟨nofun, nofun⟩
  | ok b => exact ⟨fun h => congrArg _ (Except.ok.inj h), fun h => congrArg _ (Except.ok.inj h)⟩

theorem map_eq_error_iff {f : α → β} {result : Except ε α} {error : ε} :
    result.map f = .error error ↔ result = .error error := by
  cases result with
  | error e =>
    exact ⟨fun h => congrArg _ (Except.error.inj h), fun h => congrArg _ (Except.error.inj h)⟩
  | ok a => exact ⟨nofun, nofun⟩

theorem map_eq_ok_iff {f : α → β} {result : Except ε α} {b : β} :
    result.map f = .ok b ↔ ∃ a, result = .ok a ∧ f a = b := by
  cases result with
  | error e =>
    refine ⟨nofun, ?_⟩
    rintro ⟨a, h, -⟩
    cases h
  | ok a =>
    constructor
    · intro h
      exact ⟨a, rfl, Except.ok.inj h⟩
    · rintro ⟨a', h, rfl⟩
      rw [Except.ok.inj h]
      rfl

theorem isOk_mapError (f : ε → ε') (result : Except ε α) :
    (result.mapError f).isOk = result.isOk := by
  cases result <;> rfl

/-- Of two steps in a row both must succeed. -/
theorem isOk_bind {first : Except ε α} {rest : α → Except ε β} {b c : Bool}
    (hfirst : first.isOk = b) (hrest : ∀ a, (rest a).isOk = c) :
    (first >>= rest).isOk = (b && c) := by
  cases first with
  | error e =>
    rw [← hfirst]
    rfl
  | ok a =>
    rw [← hfirst, ← hrest a]
    rfl

end GroupScope
