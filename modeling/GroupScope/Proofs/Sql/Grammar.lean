import GroupScope.Proofs.Sql.Condition
import GroupScope.Proofs.Sql.Token
/-!
# The grammar of conditions

Tokens spell a condition by the usual grammar, in which `AND` binds tighter than `OR`:

    choice       =  conjunction  |  conjunction OR choice
    conjunction  =  single  |  single AND conjunction
    single       =  test  |  ( choice )
    test         =  column = n  |  column != n  |  column IS NULL  |  column IS NOT NULL
                 |  column IN (n, …)  |  column NOT IN (n, …)

Chains group to the right; the truth tables do not mind. The reader `Condition.ofTokens?` goes down
these rules, and the main statement `ofTokens?_eq_some_iff` says that it reads exactly what the
grammar spells. A text that has a meaning has therefore one.
-/

namespace GroupScope.Sql

/-! ## §1. What tokens spell. -/

/-- The tokens of a list of values, up to the bracket that closes it. -/
def valuesTokens : List Nat → List Token
  | [] => [.closing]
  | [value] => [.number value, .closing]
  | value :: values => .number value :: .comma :: valuesTokens values

/-- The tokens spell a test of one column. A list of values is not empty. -/
inductive Test : List Token → Condition → Prop
  | equals (name : String) (value : Nat) :
      Test [.column name, .equal, .number value] (.equals name value)
  | differs (name : String) (value : Nat) :
      Test [.column name, .unequal, .number value] (.differs name value)
  | isNull (name : String) : Test [.column name, .word .is, .word .null] (.isNull name)
  | isNotNull (name : String) :
      Test [.column name, .word .is, .word .not, .word .null] (.isNotNull name)
  | among (name : String) (values : List Nat) (h : values ≠ []) :
      Test (.column name :: .word .among :: .opening :: valuesTokens values) (.among name values)
  | notAmong (name : String) (values : List Nat) (h : values ≠ []) :
      Test (.column name :: .word .not :: .word .among :: .opening :: valuesTokens values)
        (.notAmong name values)

/-- How much of a condition tokens spell, from the tightest form to the loosest. -/
inductive Level where
  /-- A test, or something in brackets. -/
  | single
  /-- Singles joined by `AND`. -/
  | conjunction
  /-- Conjunctions joined by `OR`. -/
  | choice
  deriving DecidableEq, Repr

/-- **The grammar**: the tokens spell the condition at the level. -/
inductive Spells : Level → List Token → Condition → Prop
  | test {ts : List Token} {c : Condition} (h : Test ts c) : Spells .single ts c
  | brackets {ts : List Token} {c : Condition} (h : Spells .choice ts c) :
      Spells .single (.opening :: ts ++ [.closing]) c
  | single {ts : List Token} {c : Condition} (h : Spells .single ts c) : Spells .conjunction ts c
  | and {ts us : List Token} {c d : Condition} (hc : Spells .single ts c)
      (hd : Spells .conjunction us d) : Spells .conjunction (ts ++ .word .and :: us) (c.and d)
  | conjunction {ts : List Token} {c : Condition} (h : Spells .conjunction ts c) :
      Spells .choice ts c
  | or {ts us : List Token} {c d : Condition} (hc : Spells .conjunction ts c)
      (hd : Spells .choice us d) : Spells .choice (ts ++ .word .or :: us) (c.or d)

/-! ## §2. The reader. -/

/-- Reads the values of a list up to the bracket that closes it. -/
def readValues? : List Token → Option (List Nat × List Token)
  | .number value :: .closing :: rest => some ([value], rest)
  | .number value :: .comma :: rest => do
    let (values, rest) ← readValues? rest
    some (value :: values, rest)
  | _ => none

/-- Reads a test of one column. -/
def readTest? : List Token → Option (Condition × List Token)
  | .column name :: .equal :: .number value :: rest => some (.equals name value, rest)
  | .column name :: .unequal :: .number value :: rest => some (.differs name value, rest)
  | .column name :: .word .is :: .word .null :: rest => some (.isNull name, rest)
  | .column name :: .word .is :: .word .not :: .word .null :: rest => some (.isNotNull name, rest)
  | .column name :: .word .among :: .opening :: rest => do
    let (values, rest) ← readValues? rest
    some (.among name values, rest)
  | .column name :: .word .not :: .word .among :: .opening :: rest => do
    let (values, rest) ← readValues? rest
    some (.notAmong name values, rest)
  | _ => none

/-- Reads a condition from the front of the tokens, down the rules of the grammar. -/
def read? : Nat → Level → List Token → Option (Condition × List Token)
  | 0, _, _ => none
  | fuel + 1, .choice, ts => do
    let (c, rest) ← read? fuel .conjunction ts
    match rest with
    | .word .or :: rest => do
      let (d, rest) ← read? fuel .choice rest
      some (c.or d, rest)
    | rest => some (c, rest)
  | fuel + 1, .conjunction, ts => do
    let (c, rest) ← read? fuel .single ts
    match rest with
    | .word .and :: rest => do
      let (d, rest) ← read? fuel .conjunction rest
      some (c.and d, rest)
    | rest => some (c, rest)
  | fuel + 1, .single, ts =>
    match ts with
    | .opening :: ts => do
      let (c, rest) ← read? fuel .choice ts
      match rest with
      | .closing :: rest => some (c, rest)
      | _ => none
    | _ => readTest? ts

/-- Rules that can be entered before a token has to be taken. -/
def Level.rank : Level → Nat
  | .single => 1
  | .conjunction => 2
  | .choice => 3

/-- The condition that tokens spell from end to end. -/
def Condition.ofTokens? (ts : List Token) : Option Condition :=
  match read? (3 * ts.length + Level.choice.rank) .choice ts with
  | some (c, []) => some c
  | _ => none

/-- The condition that a text spells. -/
def Condition.ofText? (text : String) : Option Condition := (tokens? text).bind ofTokens?

/-- A clause selects a row if it is absent, or if the condition that it spells is true of the row. -/
def Selects (clause : Option String) (row : Row) : Prop :=
  match clause with
  | none => True
  | some text => ∃ c, Condition.ofText? text = some c ∧ c.Holds row

/-! ## §3. The reader reads what the grammar spells. -/

theorem readValues?_valuesTokens {values : List Nat} (h : values ≠ []) (rest : List Token) :
    readValues? (valuesTokens values ++ rest) = some (values, rest) := by
  induction values with
  | nil => exact absurd rfl h
  | cons value values ih =>
    cases values with
    | nil => rfl
    | cons next values =>
      show (readValues? (valuesTokens (next :: values) ++ rest)).bind _ = _
      rw [ih (by simp)]
      rfl

theorem readTest?_of_test {ts : List Token} {c : Condition} (h : Test ts c) (rest : List Token) :
    readTest? (ts ++ rest) = some (c, rest) := by
  cases h with
  | equals | differs | isNull | isNotNull => rfl
  | among name values hv =>
    show (readValues? (valuesTokens values ++ rest)).bind _ = _
    rw [readValues?_valuesTokens hv]
    rfl
  | notAmong name values hv =>
    show (readValues? (valuesTokens values ++ rest)).bind _ = _
    rw [readValues?_valuesTokens hv]
    rfl

/-- The rest does not go on with what is read at the level. -/
def Level.EndsAt (level : Level) (rest : List Token) : Prop :=
  match level with
  | .single => True
  | .conjunction => rest.head? ≠ some (.word .and)
  | .choice => rest.head? ≠ some (.word .and) ∧ rest.head? ≠ some (.word .or)

section

variable {fuel : Nat} {ts us rest : List Token} {c d : Condition}

theorem read?_brackets (h : read? fuel .choice ts = some (c, .closing :: rest)) :
    read? (fuel + 1) .single (.opening :: ts) = some (c, rest) := by
  show (read? fuel .choice ts).bind _ = _
  rw [h]
  rfl

theorem read?_conjunction_end (h : read? fuel .single ts = some (c, rest))
    (he : Level.conjunction.EndsAt rest) : read? (fuel + 1) .conjunction ts = some (c, rest) := by
  show (read? fuel .single ts).bind _ = _
  rw [h, Option.bind_some]
  simp only
  split
  next => exact absurd rfl he
  next => rfl

theorem read?_conjunction_and (hc : read? fuel .single ts = some (c, .word .and :: us))
    (hd : read? fuel .conjunction us = some (d, rest)) :
    read? (fuel + 1) .conjunction ts = some (c.and d, rest) := by
  show (read? fuel .single ts).bind _ = _
  rw [hc, Option.bind_some]
  show (read? fuel .conjunction us).bind _ = _
  rw [hd]
  rfl

theorem read?_choice_end (h : read? fuel .conjunction ts = some (c, rest))
    (he : Level.choice.EndsAt rest) : read? (fuel + 1) .choice ts = some (c, rest) := by
  show (read? fuel .conjunction ts).bind _ = _
  rw [h, Option.bind_some]
  simp only
  split
  next => exact absurd rfl he.2
  next => rfl

theorem read?_choice_or (hc : read? fuel .conjunction ts = some (c, .word .or :: us))
    (hd : read? fuel .choice us = some (d, rest)) :
    read? (fuel + 1) .choice ts = some (c.or d, rest) := by
  show (read? fuel .conjunction ts).bind _ = _
  rw [hc, Option.bind_some]
  show (read? fuel .choice us).bind _ = _
  rw [hd]
  rfl

end

/-- **What the grammar spells is read**, whatever follows it, as long as that does not go on. -/
theorem read?_of_spells {level : Level} {ts : List Token} {c : Condition} (h : Spells level ts c)
    {rest : List Token} (he : level.EndsAt rest) {fuel : Nat}
    (hf : 3 * ts.length + level.rank ≤ fuel) : read? fuel level (ts ++ rest) = some (c, rest) := by
  -- Every rule spends one unit of fuel. Three units a token pay for a bracket and the two rules
  -- between brackets; the rank pays for the rules that take no token.
  induction h generalizing rest fuel with
  | @test ts c h =>
    simp only [Level.rank] at hf
    obtain ⟨fuel, rfl⟩ : ∃ n, fuel = n + 1 := ⟨fuel - 1, by omega⟩
    have hread : read? (fuel + 1) .single (ts ++ rest) = readTest? (ts ++ rest) := by
      cases h <;> rfl
    rw [hread, readTest?_of_test h]
  | @brackets ts c h ih =>
    simp only [List.length_cons, List.length_append, List.length_nil, Level.rank] at hf
    obtain ⟨fuel, rfl⟩ : ∃ n, fuel = n + 1 := ⟨fuel - 1, by omega⟩
    have hc : read? fuel .choice (ts ++ .closing :: rest) = some (c, .closing :: rest) :=
      ih (by simp [Level.EndsAt]) (by simp only [Level.rank]; omega)
    rw [List.append_assoc]
    exact read?_brackets hc
  | @single ts c h ih =>
    simp only [Level.rank] at hf
    obtain ⟨fuel, rfl⟩ : ∃ n, fuel = n + 1 := ⟨fuel - 1, by omega⟩
    exact read?_conjunction_end (ih trivial (by simp only [Level.rank]; omega)) he
  | @and ts us c d hc hd ihc ihd =>
    simp only [List.length_cons, List.length_append, Level.rank] at hf
    obtain ⟨fuel, rfl⟩ : ∃ n, fuel = n + 1 := ⟨fuel - 1, by omega⟩
    rw [List.append_assoc]
    exact read?_conjunction_and (ihc trivial (by simp only [Level.rank]; omega))
      (ihd he (by simp only [Level.rank]; omega))
  | @conjunction ts c h ih =>
    simp only [Level.rank] at hf
    obtain ⟨fuel, rfl⟩ : ∃ n, fuel = n + 1 := ⟨fuel - 1, by omega⟩
    exact read?_choice_end (ih he.1 (by simp only [Level.rank]; omega)) he
  | @or ts us c d hc hd ihc ihd =>
    simp only [List.length_cons, List.length_append, Level.rank] at hf
    obtain ⟨fuel, rfl⟩ : ∃ n, fuel = n + 1 := ⟨fuel - 1, by omega⟩
    rw [List.append_assoc]
    exact read?_choice_or (ihc (by simp [Level.EndsAt]) (by simp only [Level.rank]; omega))
      (ihd he (by simp only [Level.rank]; omega))

/-! ## §4. The grammar spells what the reader reads. -/

/-- The values that are read are those of the tokens that were taken. -/
theorem valuesTokens_of_readValues? {ts rest : List Token} {values : List Nat}
    (h : readValues? ts = some (values, rest)) :
    ts = valuesTokens values ++ rest ∧ values ≠ [] := by
  fun_induction readValues? ts generalizing values with
  | case1 value rest' =>
    cases h
    exact ⟨rfl, by simp⟩
  | case2 value ts' ih =>
    obtain ⟨⟨values', rest'⟩, hr, hv⟩ := Option.bind_eq_some_iff.mp h
    cases hv
    obtain ⟨rfl, hne⟩ := ih hr
    refine ⟨?_, by simp⟩
    cases values' with
    | nil => exact absurd rfl hne
    | cons next values' => rfl
  | case3 => cases h

/-- The test that is read is spelled by the tokens that were taken. -/
theorem test_of_readTest? {ts rest : List Token} {c : Condition}
    (h : readTest? ts = some (c, rest)) : ∃ us, ts = us ++ rest ∧ Test us c := by
  -- One case for each form of a test, in the order in which they are tried.
  unfold readTest? at h
  split at h
  next name value _ => cases h; exact ⟨_, rfl, .equals name value⟩
  next name value _ => cases h; exact ⟨_, rfl, .differs name value⟩
  next name _ => cases h; exact ⟨_, rfl, .isNull name⟩
  next name _ => cases h; exact ⟨_, rfl, .isNotNull name⟩
  next name _ =>
    obtain ⟨⟨values, rest'⟩, hr, hv⟩ := Option.bind_eq_some_iff.mp h
    cases hv
    obtain ⟨rfl, hne⟩ := valuesTokens_of_readValues? hr
    exact ⟨_, rfl, .among name values hne⟩
  next name _ =>
    obtain ⟨⟨values, rest'⟩, hr, hv⟩ := Option.bind_eq_some_iff.mp h
    cases hv
    obtain ⟨rfl, hne⟩ := valuesTokens_of_readValues? hr
    exact ⟨_, rfl, .notAmong name values hne⟩
  next => cases h

/-- **What is read is spelled** by the tokens that were taken. -/
theorem spells_of_read? {fuel : Nat} {level : Level} {ts rest : List Token} {c : Condition}
    (h : read? fuel level ts = some (c, rest)) : ∃ us, ts = us ++ rest ∧ Spells level us c := by
  -- Every call of the reader spends one unit of fuel, at whatever level it is.
  induction fuel generalizing level ts rest c with
  | zero => cases h
  | succ fuel ih =>
    cases level with
    | choice =>
      rw [read?] at h
      obtain ⟨⟨c', mid⟩, hc, hmid⟩ := Option.bind_eq_some_iff.mp h
      obtain ⟨us, rfl, hs⟩ := ih hc
      simp only at hmid
      split at hmid
      next mid' =>
        obtain ⟨⟨d, rest'⟩, hd, hend⟩ := Option.bind_eq_some_iff.mp hmid
        cases hend
        obtain ⟨vs, rfl, ht⟩ := ih hd
        exact ⟨us ++ .word .or :: vs, by simp, .or hs ht⟩
      next =>
        cases hmid
        exact ⟨us, rfl, .conjunction hs⟩
    | conjunction =>
      rw [read?] at h
      obtain ⟨⟨c', mid⟩, hc, hmid⟩ := Option.bind_eq_some_iff.mp h
      obtain ⟨us, rfl, hs⟩ := ih hc
      simp only at hmid
      split at hmid
      next mid' =>
        obtain ⟨⟨d, rest'⟩, hd, hend⟩ := Option.bind_eq_some_iff.mp hmid
        cases hend
        obtain ⟨vs, rfl, ht⟩ := ih hd
        exact ⟨us ++ .word .and :: vs, by simp, .and hs ht⟩
      next =>
        cases hmid
        exact ⟨us, rfl, .single hs⟩
    | single =>
      unfold read? at h
      dsimp only at h
      split at h
      next ts' =>
        obtain ⟨⟨c', mid⟩, hc, hmid⟩ := Option.bind_eq_some_iff.mp h
        obtain ⟨us, rfl, hs⟩ := ih hc
        simp only at hmid
        split at hmid
        next rest' =>
          cases hmid
          exact ⟨.opening :: us ++ [.closing], by simp, .brackets hs⟩
        next => cases hmid
      next =>
        obtain ⟨us, rfl, ht⟩ := test_of_readTest? h
        exact ⟨us, rfl, .test ht⟩

/-- **The reader is the grammar**: it reads a condition exactly when the tokens spell it. -/
theorem ofTokens?_eq_some_iff {ts : List Token} {c : Condition} :
    Condition.ofTokens? ts = some c ↔ Spells .choice ts c := by
  constructor
  · intro h
    unfold Condition.ofTokens? at h
    split at h
    next hr =>
      cases h
      obtain ⟨us, rfl, hs⟩ := spells_of_read? hr
      rwa [List.append_nil]
    next => cases h
  · intro h
    have hend : Level.choice.EndsAt [] := by simp [Level.EndsAt]
    have hr := read?_of_spells h hend (Nat.le_refl _)
    rw [List.append_nil] at hr
    rw [Condition.ofTokens?, hr]

end GroupScope.Sql
