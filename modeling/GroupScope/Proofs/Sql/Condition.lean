/-!
# What a condition says about a row

A database evaluates a condition to one of three truth values: a comparison with a missing value is
neither true nor false, and `AND`, `OR` and `NOT` carry that third value along. A row is selected
only by a condition that is *true* of it.

The statements here turn truth in the three-valued sense into ordinary propositions, one for each
form of condition.
-/

namespace GroupScope.Sql

/-! ## §1. Three truth values. -/

/-- The truth of a condition. -/
inductive Truth where
  /-- It is false. -/
  | no
  /-- It compares a missing value. -/
  | unknown
  /-- It is true. -/
  | yes
  deriving DecidableEq, Repr

namespace Truth

/-- The truth of what can be decided. -/
def ofBool (b : Bool) : Truth := if b then .yes else .no

/-- Both are true. One false side decides. -/
def and : Truth → Truth → Truth
  | .yes, t => t
  | .no, _ => .no
  | .unknown, .no => .no
  | .unknown, _ => .unknown

/-- One of them is true. One true side decides. -/
def or : Truth → Truth → Truth
  | .no, t => t
  | .yes, _ => .yes
  | .unknown, .yes => .yes
  | .unknown, _ => .unknown

/-- The opposite; unknown has none. -/
def not : Truth → Truth
  | .no => .yes
  | .unknown => .unknown
  | .yes => .no

@[simp] theorem ofBool_eq_yes (b : Bool) : ofBool b = .yes ↔ b = true := by
  cases b <;> simp [ofBool]

@[simp] theorem ofBool_eq_no (b : Bool) : ofBool b = .no ↔ b = false := by
  cases b <;> simp [ofBool]

@[simp] theorem and_eq_yes (s t : Truth) : s.and t = .yes ↔ s = .yes ∧ t = .yes := by
  cases s <;> cases t <;> simp [Truth.and]

@[simp] theorem or_eq_yes (s t : Truth) : s.or t = .yes ↔ s = .yes ∨ t = .yes := by
  cases s <;> cases t <;> simp [Truth.or]

@[simp] theorem or_eq_no (s t : Truth) : s.or t = .no ↔ s = .no ∧ t = .no := by
  cases s <;> cases t <;> simp [Truth.or]

@[simp] theorem not_eq_yes (t : Truth) : t.not = .yes ↔ t = .no := by
  cases t <;> simp [Truth.not]

end Truth

/-! ## §2. Rows and conditions. -/

/-- The values of a row by column; a value may be missing. -/
abbrev Row := String → Option Int

/-- A condition on a row. -/
inductive Condition where
  | equals (column : String) (value : Nat)
  /-- The column has another value. -/
  | differs (column : String) (value : Nat)
  | isNull (column : String)
  | isNotNull (column : String)
  /-- The column has one of the values. -/
  | among (column : String) (values : List Nat)
  /-- The column has none of the values. -/
  | notAmong (column : String) (values : List Nat)
  | and (first second : Condition)
  | or (first second : Condition)
  deriving DecidableEq, Repr

/-- A column compared with a value. -/
def Row.compare (row : Row) (column : String) (value : Nat) : Truth :=
  match row column with
  | none => .unknown
  | some found => .ofBool (found = value)

/-- A column compared with each of the values in turn. -/
def Row.compareAny (row : Row) (column : String) (values : List Nat) : Truth :=
  values.foldr (fun value rest => (row.compare column value).or rest) .no

namespace Condition

/-- The truth of a condition for a row. -/
def eval (row : Row) : Condition → Truth
  | .equals column value => row.compare column value
  | .differs column value => (row.compare column value).not
  | .isNull column => .ofBool (row column).isNone
  | .isNotNull column => .ofBool (row column).isSome
  | .among column values => row.compareAny column values
  | .notAmong column values => (row.compareAny column values).not
  | .and first second => (first.eval row).and (second.eval row)
  | .or first second => (first.eval row).or (second.eval row)

/-- The condition selects the row: it is true of it. -/
def Holds (row : Row) (c : Condition) : Prop := c.eval row = .yes

/-! ## §3. When a row is selected. -/

variable (row : Row) (column : String)

/-- A comparison is true only of a value that is there. -/
theorem compare_eq_yes (value : Nat) :
    row.compare column value = .yes ↔ row column = some (value : Int) := by
  unfold Row.compare
  cases row column <;> simp

/-- A comparison is false only of another value that is there. -/
theorem compare_eq_no (value : Nat) :
    row.compare column value = .no ↔ ∃ found, row column = some found ∧ found ≠ value := by
  unfold Row.compare
  cases row column <;> simp

theorem compareAny_eq_yes (values : List Nat) :
    row.compareAny column values = .yes ↔ ∃ value ∈ values, row column = some (value : Int) := by
  induction values with
  | nil => simp [Row.compareAny]
  | cons value values ih =>
    show (row.compare column value).or (row.compareAny column values) = .yes ↔ _
    rw [Truth.or_eq_yes, ih, compare_eq_yes]
    simp

theorem compareAny_eq_no (values : List Nat) :
    row.compareAny column values = .no ↔
      ∀ value ∈ values, ∃ found, row column = some found ∧ found ≠ value := by
  induction values with
  | nil => simp [Row.compareAny]
  | cons value values ih =>
    show (row.compare column value).or (row.compareAny column values) = .no ↔ _
    rw [Truth.or_eq_no, ih, compare_eq_no]
    simp

@[simp] theorem holds_equals (value : Nat) :
    (equals column value).Holds row ↔ row column = some (value : Int) :=
  compare_eq_yes row column value

@[simp] theorem holds_differs (value : Nat) :
    (differs column value).Holds row ↔ ∃ found, row column = some found ∧ found ≠ value := by
  unfold Holds eval
  rw [Truth.not_eq_yes, compare_eq_no]

@[simp] theorem holds_isNull : (isNull column).Holds row ↔ row column = none := by
  unfold Holds eval
  simp

@[simp] theorem holds_isNotNull : (isNotNull column).Holds row ↔ row column ≠ none := by
  unfold Holds eval
  simp [Option.isSome_iff_ne_none]

@[simp] theorem holds_among (values : List Nat) :
    (among column values).Holds row ↔ ∃ value ∈ values, row column = some (value : Int) :=
  compareAny_eq_yes row column values

/-- A missing value is not outside of any list, unless the list is empty. -/
@[simp] theorem holds_notAmong (values : List Nat) :
    (notAmong column values).Holds row ↔
      ∀ value ∈ values, ∃ found, row column = some found ∧ found ≠ value := by
  unfold Holds eval
  rw [Truth.not_eq_yes, compareAny_eq_no]

@[simp] theorem holds_and (first second : Condition) :
    (first.and second).Holds row ↔ first.Holds row ∧ second.Holds row :=
  Truth.and_eq_yes ..

@[simp] theorem holds_or (first second : Condition) :
    (first.or second).Holds row ↔ first.Holds row ∨ second.Holds row :=
  Truth.or_eq_yes ..

end Condition

end GroupScope.Sql
