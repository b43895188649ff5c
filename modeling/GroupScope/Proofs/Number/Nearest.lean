import Mathlib
import GroupScope.Number.Binary64
/-!
# The nearest double

A double is *nearest* to a number if no other finite double is nearer and, should another one be as
near, its own mantissa is even. There is just one such value for every number:

    x nearest to q,  y nearest to q   →   x.value = y.value

Rounding a fraction yields the double nearest to it, unless the fraction is beyond the greatest
finite double. That one is then the nearest, and rounding yields nothing.
-/

namespace GroupScope.Binary64

/-! ## §1. Doubles as numbers. -/

/-- The number that a double stands for. -/
def value (x : Binary64) : ℚ := (if x.negative then -1 else 1) * x.mantissa * 2 ^ x.exponent

/-- The double is finite, and its mantissa has 53 bits unless its exponent is the least one. -/
structure IsFinite (x : Binary64) : Prop where
  mantissa_lt : x.mantissa < 2 ^ 53
  le_exponent : minExponent ≤ x.exponent
  exponent_le : x.exponent ≤ maxExponent
  full : 2 ^ 52 ≤ x.mantissa ∨ x.exponent = minExponent

/-- The double is nearest to the number; of two that are as near, it is the even one. -/
structure IsNearest (x : Binary64) (q : ℚ) : Prop where
  finite : x.IsFinite
  le : ∀ y : Binary64, y.IsFinite → |q - x.value| ≤ |q - y.value|
  even : ∀ y : Binary64, y.IsFinite → y.value ≠ x.value → |q - y.value| = |q - x.value| →
    x.mantissa % 2 = 0

/-- The mantissa under the sign. -/
def signedMantissa (x : Binary64) : ℤ := if x.negative then -x.mantissa else x.mantissa

theorem value_eq (x : Binary64) : x.value = x.signedMantissa * 2 ^ x.exponent := by
  unfold value signedMantissa
  cases x.negative <;> simp

theorem natAbs_signedMantissa (x : Binary64) : x.signedMantissa.natAbs = x.mantissa := by
  unfold signedMantissa
  split <;> simp

theorem value_neg (x : Binary64) : x.neg.value = -x.value := by
  unfold value neg
  cases x.negative <;> simp

theorem IsFinite.neg {x : Binary64} (h : x.IsFinite) : x.neg.IsFinite :=
  ⟨h.mantissa_lt, h.le_exponent, h.exponent_le, h.full⟩

/-- Rounding to nearest is symmetric. -/
theorem IsNearest.neg {x : Binary64} {q : ℚ} (h : x.IsNearest q) : x.neg.IsNearest (-q) where
  finite := h.finite.neg
  le := by
    intro y hy
    have hle := h.le y.neg hy.neg
    rw [value_neg] at hle ⊢
    rw [← abs_neg, ← abs_neg (-q - y.value)]
    convert hle using 2 <;> ring
  even := by
    intro y hy hne heq
    rw [value_neg] at hne heq
    refine h.even y.neg hy.neg ?_ ?_
    · rw [value_neg]
      exact fun hyx => hne (by linarith)
    · rw [value_neg, ← abs_neg, ← abs_neg (q - x.value)]
      convert heq using 2 <;> ring

/-- With an exponent that is no greater than the double's own, its value is a multiple of that power
of two, and an even one if its mantissa is even. -/
theorem exists_value_eq_mul (x : Binary64) {e : ℤ} (h : e ≤ x.exponent) :
    ∃ j : ℤ, x.value = j * 2 ^ e ∧ (x.mantissa % 2 = 0 → j % 2 = 0) := by
  obtain ⟨k, hk⟩ := Int.eq_ofNat_of_zero_le (sub_nonneg.mpr h)
  refine ⟨x.signedMantissa * 2 ^ k, ?_, fun heven => ?_⟩
  · have hexp : x.exponent = k + e := by omega
    rw [value_eq, hexp, zpow_add₀ two_ne_zero, zpow_natCast]
    push_cast
    ring
  · have habs := x.natAbs_signedMantissa
    have hsigned : x.signedMantissa % 2 = 0 := by omega
    rw [Int.mul_emod, hsigned, zero_mul, Int.zero_emod]

/-- The double with this signed mantissa. -/
def ofSigned (c e : ℤ) : Binary64 := ⟨decide (c < 0), c.natAbs, e⟩

theorem value_ofSigned (c e : ℤ) : (ofSigned c e).value = c * 2 ^ e := by
  by_cases hneg : c < 0
  · simp [value, ofSigned, hneg, abs_of_neg]
  · simp [value, ofSigned, hneg, abs_of_nonneg (not_lt.mp hneg)]

/-- Whatever has 53 bits is the value of a finite double, whose mantissa may have to be shifted. -/
theorem exists_isFinite_value_eq {c e : ℤ} (hc : c.natAbs < 2 ^ 53) (hmin : minExponent ≤ e)
    (hmax : e ≤ maxExponent) : ∃ y : Binary64, y.IsFinite ∧ y.value = c * 2 ^ e := by
  obtain ⟨k, hk⟩ := Int.eq_ofNat_of_zero_le (sub_nonneg.mpr hmin)
  -- The exponent sinks until the mantissa is full or the exponent is the least one.
  induction k generalizing c e with
  | zero => exact ⟨ofSigned c e, ⟨hc, hmin, hmax, .inr (by simp only [ofSigned]; omega)⟩,
      value_ofSigned c e⟩
  | succ k ih =>
    by_cases hfull : 2 ^ 52 ≤ c.natAbs
    · exact ⟨ofSigned c e, ⟨hc, hmin, hmax, .inl hfull⟩, value_ofSigned c e⟩
    · obtain ⟨y, hy, hvalue⟩ := ih (c := c * 2) (e := e - 1) (by omega) (by omega) (by omega)
        (by omega)
      refine ⟨y, hy, ?_⟩
      rw [hvalue, zpow_sub_one₀ two_ne_zero]
      push_cast
      ring

/-! ## §2. There is one nearest value. -/

/-- A double that is not beyond the number is not beyond the nearest one either. -/
theorem IsNearest.le_value {x y : Binary64} {q : ℚ} (h : x.IsNearest q) (hy : y.IsFinite)
    (hle : y.value ≤ q) : y.value ≤ x.value := by
  by_contra hlt
  have hnear := h.le y hy
  rw [abs_of_nonneg (by linarith), abs_of_nonneg (by linarith)] at hnear
  linarith

theorem IsNearest.value_le {x y : Binary64} {q : ℚ} (h : x.IsNearest q) (hy : y.IsFinite)
    (hle : q ≤ y.value) : x.value ≤ y.value := by
  by_contra hlt
  have hnear := h.le y hy
  rw [abs_of_nonpos (by linarith), abs_of_nonpos (by linarith)] at hnear
  linarith

/-- Two different doubles with even mantissas have another one between them. -/
theorem exists_between {x y : Binary64} (hx : x.IsFinite) (he : x.exponent ≤ y.exponent)
    (hxeven : x.mantissa % 2 = 0) (hyeven : y.mantissa % 2 = 0) (hne : x.value ≠ y.value) :
    ∃ z : Binary64, z.IsFinite ∧
      (x.value < z.value ∧ z.value < y.value ∨ y.value < z.value ∧ z.value < x.value) := by
  obtain ⟨j, hj, hjeven⟩ := y.exists_value_eq_mul he
  have habs := x.natAbs_signedMantissa
  have hmantissa := hx.mantissa_lt
  have hj2 := hjeven hyeven
  have hpos : (0 : ℚ) < 2 ^ x.exponent := by positivity
  have hmul : ∀ a b : ℤ, a < b → (a : ℚ) * 2 ^ x.exponent < b * 2 ^ x.exponent := by
    intro a b hab
    have hcast : (a : ℚ) < b := by exact_mod_cast hab
    gcongr
  have hneq : x.signedMantissa ≠ j := by
    rintro rfl
    exact hne (x.value_eq.trans hj.symm)
  -- On the grid of the smaller exponent both are even, so a neighbour of the first is between them.
  rw [value_eq x, hj]
  rcases lt_or_gt_of_ne hneq with hlt | hgt
  · obtain ⟨z, hz, hvalue⟩ := exists_isFinite_value_eq (c := x.signedMantissa + 1) (by omega)
      hx.le_exponent hx.exponent_le
    exact ⟨z, hz, .inl ⟨hvalue ▸ hmul _ _ (by omega), hvalue ▸ hmul _ _ (by omega)⟩⟩
  · obtain ⟨z, hz, hvalue⟩ := exists_isFinite_value_eq (c := x.signedMantissa - 1) (by omega)
      hx.le_exponent hx.exponent_le
    exact ⟨z, hz, .inr ⟨hvalue ▸ hmul _ _ (by omega), hvalue ▸ hmul _ _ (by omega)⟩⟩

/-- Between two numbers that are as near to `q`, every number is nearer to it. -/
theorem abs_sub_lt_of_between {q a b c : ℚ} (heq : |q - a| = |q - b|)
    (h : a < c ∧ c < b ∨ b < c ∧ c < a) : |q - c| < |q - a| := by
  have hmid : 2 * q = a + b := by
    rcases abs_eq_abs.mp heq with hab | hab
    · rcases h with ⟨h₁, h₂⟩ | ⟨h₁, h₂⟩ <;> linarith
    · linarith
  rcases h with ⟨h₁, h₂⟩ | ⟨h₁, h₂⟩
  · rw [abs_of_pos (show 0 < q - a by linarith), abs_lt]
    constructor <;> linarith
  · rw [abs_of_neg (show q - a < 0 by linarith), abs_lt]
    constructor <;> linarith

/-- **Rounding to nearest has one result.** -/
theorem IsNearest.value_unique {x y : Binary64} {q : ℚ} (hx : x.IsNearest q)
    (hy : y.IsNearest q) : x.value = y.value := by
  wlog he : x.exponent ≤ y.exponent generalizing x y
  · exact (this hy hx (le_of_not_ge he)).symm
  by_contra hne
  have heq : |q - x.value| = |q - y.value| :=
    le_antisymm (hx.le y hy.finite) (hy.le x hx.finite)
  have hxeven := hx.even y hy.finite (Ne.symm hne) heq.symm
  have hyeven := hy.even x hx.finite hne heq
  obtain ⟨z, hz, hbetween⟩ := exists_between hx.finite he hxeven hyeven hne
  exact absurd (hx.le z hz) (not_le.mpr (abs_sub_lt_of_between heq hbetween))

/-! ## §3. Fractions. -/

theorem snd_scale_pos {num den : Nat} (hden : 0 < den) (shift : Int) :
    0 < (scale num den shift).2 := by
  unfold scale
  split
  · exact hden
  · exact Nat.mul_pos hden (pow2_pos _)

/-- Scaling multiplies the fraction. -/
theorem scale_div {num den : Nat} (hden : 0 < den) (shift : Int) :
    ((scale num den shift).1 : ℚ) / (scale num den shift).2 = num / den * 2 ^ shift := by
  have hden' : (den : ℚ) ≠ 0 := by positivity
  unfold scale
  split
  next h =>
    obtain ⟨k, rfl⟩ := Int.eq_ofNat_of_zero_le h
    have hpow : ((pow2 k : ℕ) : ℚ) = 2 ^ k := by simp [pow2]
    simp only [Int.toNat_natCast, Nat.cast_mul, hpow, zpow_natCast]
    ring
  next h =>
    obtain ⟨k, rfl⟩ : ∃ k : ℕ, shift = -k := ⟨(-shift).toNat, by omega⟩
    have hpow : ((pow2 k : ℕ) : ℚ) = 2 ^ k := by simp [pow2]
    simp only [neg_neg, Int.toNat_natCast, Nat.cast_mul, hpow, zpow_neg, zpow_natCast]
    field_simp

/-- Up to a factor of two, the logarithms of numerator and denominator give that of the fraction. -/
theorem log2_bounds {num den : Nat} (hnum : 0 < num) (hden : 0 < den) :
    (2 : ℚ) ^ ((num.log2 : ℤ) - den.log2 - 1) < num / den
      ∧ (num : ℚ) / den < 2 ^ ((num.log2 : ℤ) - den.log2 + 1) := by
  have hn₁ : (2 : ℚ) ^ num.log2 ≤ num := by exact_mod_cast Nat.log2_self_le hnum.ne'
  have hn₂ : (num : ℚ) < 2 ^ (num.log2 + 1) := by exact_mod_cast Nat.lt_log2_self
  have hd₁ : (2 : ℚ) ^ den.log2 ≤ den := by exact_mod_cast Nat.log2_self_le hden.ne'
  have hd₂ : (den : ℚ) < 2 ^ (den.log2 + 1) := by exact_mod_cast Nat.lt_log2_self
  have hpos : (0 : ℚ) < den := by exact_mod_cast hden
  constructor
  · rw [lt_div_iff₀ hpos, show (num.log2 : ℤ) - den.log2 - 1 = num.log2 - (den.log2 + 1 : ℕ) by
      push_cast; ring, zpow_sub₀ two_ne_zero, zpow_natCast, zpow_natCast, div_mul_eq_mul_div,
      div_lt_iff₀ (by positivity)]
    exact mul_lt_mul_of_pos_of_nonneg hn₁ hd₂ (by positivity) (by positivity)
  · rw [div_lt_iff₀ hpos, show (num.log2 : ℤ) - den.log2 + 1 = (num.log2 + 1 : ℕ) - den.log2 by
      push_cast; ring, zpow_sub₀ two_ne_zero, zpow_natCast, zpow_natCast, div_mul_eq_mul_div,
      lt_div_iff₀ (by positivity)]
    exact mul_lt_mul_of_pos_of_nonneg' hn₂ hd₁ (by positivity) (by positivity)

/-- The fraction lies between two neighbouring powers of two. -/
theorem floorLog2_spec {num den : Nat} (hnum : 0 < num) (hden : 0 < den) :
    (2 : ℚ) ^ floorLog2 num den ≤ num / den ∧ (num : ℚ) / den < 2 ^ (floorLog2 num den + 1) := by
  obtain ⟨hlow, hhigh⟩ := log2_bounds hnum hden
  have hreach : ∀ guess : ℤ, (scale num den (-guess)).2 ≤ (scale num den (-guess)).1 ↔
      (2 : ℚ) ^ guess ≤ num / den := by
    intro guess
    have hpos : (0 : ℚ) < (scale num den (-guess)).2 := by exact_mod_cast snd_scale_pos hden _
    have hcast : ((scale num den (-guess)).2 : ℚ) ≤ (scale num den (-guess)).1 ↔
        (scale num den (-guess)).2 ≤ (scale num den (-guess)).1 := Nat.cast_le
    rw [← hcast, ← one_le_div hpos, scale_div hden, zpow_neg,
      le_mul_inv_iff₀ (by positivity), one_mul]
  generalize hguess : (num.log2 : ℤ) - den.log2 = guess at *
  have hlog : floorLog2 num den =
      if (scale num den (-guess)).2 ≤ (scale num den (-guess)).1 then guess else guess - 1 := by
    subst hguess
    rfl
  rw [hlog]
  split
  next h => exact ⟨(hreach _).mp h, hhigh⟩
  next h =>
    refine ⟨hlow.le, ?_⟩
    rw [sub_add_cancel]
    exact not_le.mp fun hle => h ((hreach _).mpr hle)

/-! ## §4. Rounding to an integer. -/

/-- `m` is the integer nearest to `r`, and even if `r` is a half. -/
structure IsRounded (r : ℚ) (m : ℕ) : Prop where
  le_half : |r - m| ≤ 1 / 2
  even : |r - m| = 1 / 2 → m % 2 = 0

theorem isRounded_roundHalfEven (num : Nat) {den : Nat} (hden : 0 < den) :
    IsRounded (num / den) (roundHalfEven num den) := by
  have hpos : (0 : ℚ) < den := by exact_mod_cast hden
  have hr : (num : ℚ) / den = (num / den : ℕ) + ((num % den : ℕ) : ℚ) / den := by
    rw [eq_comm, add_div' _ _ _ hpos.ne', mul_comm]
    congr 1
    exact_mod_cast Nat.div_add_mod num den
  have hmod := Nat.mod_lt num hden
  rw [hr]
  unfold roundHalfEven
  generalize num / den = quotient, num % den = remainder at *
  have hdown : (quotient : ℚ) + remainder / den - quotient = remainder / den := by ring
  have hup : (quotient : ℚ) + remainder / den - (quotient + 1 : ℕ)
      = -((den - remainder : ℕ) / den) := by
    rw [Nat.cast_sub hmod.le]
    field_simp
    push_cast
    ring
  simp only [Bool.or_eq_true, Bool.and_eq_true, decide_eq_true_eq, beq_iff_eq]
  split
  next h =>
    constructor
    · rw [hup, abs_neg, abs_of_nonneg (by positivity), div_le_div_iff₀ hpos two_pos]
      norm_cast
      omega
    · rw [hup, abs_neg, abs_of_nonneg (by positivity), div_eq_div_iff hpos.ne' two_ne_zero]
      norm_cast
      omega
  next h =>
    constructor
    · rw [hdown, abs_of_nonneg (by positivity), div_le_div_iff₀ hpos two_pos]
      norm_cast
      omega
    · rw [hdown, abs_of_nonneg (by positivity), div_eq_div_iff hpos.ne' two_ne_zero]
      norm_cast
      omega

/-- Rounding does not pass an integer. -/
theorem IsRounded.le_of_lt {r : ℚ} {m k : ℕ} (h : IsRounded r m) (hr : r < k) : m ≤ k := by
  have hhalf := (abs_le.mp h.le_half).1
  have hlt : (m : ℚ) < (k + 1 : ℕ) := by
    push_cast
    linarith
  exact Nat.lt_succ_iff.mp (Nat.cast_lt.mp hlt)

theorem IsRounded.le_of_le {r : ℚ} {m k : ℕ} (h : IsRounded r m) (hr : k ≤ r) : k ≤ m := by
  have hhalf := (abs_le.mp h.le_half).2
  have hlt : (k : ℚ) < (m + 1 : ℕ) := by
    push_cast
    linarith
  exact Nat.lt_succ_iff.mp (Nat.cast_lt.mp hlt)

/-- Any other integer is at least half a unit away. -/
theorem IsRounded.half_le {r : ℚ} {m : ℕ} (h : IsRounded r m) {j : ℤ} (hj : j ≠ m) :
    1 / 2 ≤ |r - j| := by
  have hone : (1 : ℚ) ≤ |(j : ℚ) - m| := by
    have hint : (1 : ℤ) ≤ |j - m| := Int.one_le_abs (sub_ne_zero.mpr hj)
    exact_mod_cast hint
  have htriangle : |(j : ℚ) - m| ≤ |r - j| + |r - m| := by
    rw [abs_sub_comm r j]
    exact abs_sub_le _ _ _
  have hhalf := h.le_half
  linarith

/-- No integer is nearer, and none is as near unless the rounded one is even. -/
theorem IsRounded.le {r : ℚ} {m : ℕ} (h : IsRounded r m) (j : ℤ) : |r - m| ≤ |r - j| := by
  by_cases hj : j = m
  · rw [hj, Int.cast_natCast]
  · exact h.le_half.trans (h.half_le hj)

theorem IsRounded.even_of_eq {r : ℚ} {m : ℕ} (h : IsRounded r m) {j : ℤ} (hj : j ≠ m)
    (heq : |r - j| = |r - m|) : m % 2 = 0 :=
  h.even (le_antisymm h.le_half (heq ▸ h.half_le hj))

/-! ## §5. Rounding to a double. -/

/-- The greatest finite double. -/
def greatest : Binary64 := ⟨false, 2 ^ 53 - 1, maxExponent⟩

theorem value_greatest : greatest.value = (2 ^ 53 - 1) * 2 ^ maxExponent := by
  have hmantissa : ((2 ^ 53 - 1 : ℕ) : ℚ) = 2 ^ 53 - 1 := by norm_num
  rw [value, greatest, hmantissa, if_neg Bool.false_ne_true, one_mul]

theorem isFinite_greatest : greatest.IsFinite := by
  constructor <;> decide

theorem isFinite_zero : zero.IsFinite := by
  constructor <;> decide

theorem value_zero : zero.value = 0 := by
  simp [value, zero]

theorem IsFinite.abs_value_lt {x : Binary64} (h : x.IsFinite) :
    |x.value| < 2 ^ 53 * 2 ^ x.exponent := by
  have hm : |(x.signedMantissa : ℚ)| < 2 ^ 53 := by
    have hint : |x.signedMantissa| < 2 ^ 53 := by
      rw [Int.abs_eq_natAbs, x.natAbs_signedMantissa]
      exact_mod_cast h.mantissa_lt
    exact_mod_cast hint
  rw [value_eq, abs_mul, abs_of_pos (show (0 : ℚ) < 2 ^ x.exponent by positivity)]
  gcongr

theorem IsFinite.value_le_greatest {x : Binary64} (h : x.IsFinite) : x.value ≤ greatest.value := by
  have hm : (x.signedMantissa : ℚ) ≤ 2 ^ 53 - 1 := by
    have hlt := h.mantissa_lt
    have habs := x.natAbs_signedMantissa
    have hint : x.signedMantissa ≤ 2 ^ 53 - 1 := by omega
    exact_mod_cast hint
  have hpow : (2 : ℚ) ^ x.exponent ≤ 2 ^ maxExponent :=
    zpow_le_zpow_right₀ one_le_two h.exponent_le
  calc x.value = x.signedMantissa * 2 ^ x.exponent := x.value_eq
    _ ≤ (2 ^ 53 - 1) * 2 ^ x.exponent := by gcongr
    _ ≤ (2 ^ 53 - 1) * 2 ^ maxExponent :=
        mul_le_mul_of_nonneg_left hpow (by norm_num)
    _ = greatest.value := value_greatest.symm

/-- Nothing finite is nearer to a number that is beyond all doubles. -/
theorem isNearest_greatest {q : ℚ} (h : greatest.value ≤ q) : greatest.IsNearest q where
  finite := isFinite_greatest
  le := by
    intro y hy
    have hle := hy.value_le_greatest
    rw [abs_of_nonneg (by linarith), abs_of_nonneg (by linarith)]
    linarith
  even := by
    intro y hy hne heq
    have hle := hy.value_le_greatest
    rw [abs_of_nonneg (by linarith), abs_of_nonneg (by linarith)] at heq
    exact absurd (by linarith) hne

/-- Distances scale with the grid. -/
theorem abs_sub_mul_two_zpow (q t : ℚ) (e : ℤ) :
    |q - t * 2 ^ e| = |q / 2 ^ e - t| * 2 ^ e := by
  have hpos : (0 : ℚ) < 2 ^ e := by positivity
  rw [← abs_of_pos hpos, ← abs_mul, abs_of_pos hpos, sub_mul, div_mul_cancel₀ _ hpos.ne']

/-- Doubles with a smaller exponent lie below the least number of 53 bits on the grid. -/
theorem IsFinite.value_div_lt {y : Binary64} (hy : y.IsFinite) {e : ℤ} (he : y.exponent < e) :
    y.value / 2 ^ e < 2 ^ 52 := by
  rw [div_lt_iff₀ (by positivity)]
  have hpow : (2 : ℚ) ^ y.exponent ≤ 2 ^ (e - 1) := zpow_le_zpow_right₀ one_le_two (by omega)
  calc y.value ≤ |y.value| := le_abs_self _
    _ < 2 ^ 53 * 2 ^ y.exponent := hy.abs_value_lt
    _ ≤ 2 ^ 53 * 2 ^ (e - 1) := by gcongr
    _ = 2 ^ 52 * 2 ^ e := by
      rw [zpow_sub_one₀ two_ne_zero]
      ring

/-- Whatever lies below an integer that is not beyond the number is farther away than the nearest
integer. -/
theorem IsRounded.abs_sub_lt {r t : ℚ} {m : ℕ} (h : IsRounded r m) {j : ℤ} (ht : t < j)
    (hr : j ≤ r) : |r - m| < |r - t| := by
  have hle := h.le j
  rw [abs_of_nonneg (sub_nonneg.mpr hr)] at hle
  rw [abs_of_pos (by linarith : 0 < r - t)]
  linarith

/-- **Rounding on a grid.** On the grid of multiples of `2 ^ e`, which is all there is near a number
of 53 bits or near a subnormal one, the nearest integer gives the nearest double. -/
theorem isNearest_of_isRounded {x : Binary64} {q : ℚ} {m : ℕ} {e : ℤ} (hx : x.IsFinite)
    (hvalue : x.value = m * 2 ^ e) (heven : m % 2 = 0 → x.mantissa % 2 = 0)
    (hround : IsRounded (q / 2 ^ e) m) (hfull : e = minExponent ∨ 2 ^ 52 ≤ q / 2 ^ e) :
    x.IsNearest q := by
  have hpos : (0 : ℚ) < 2 ^ e := by positivity
  have main : ∀ y : Binary64, y.IsFinite → y.value ≠ x.value →
      |q - x.value| ≤ |q - y.value| ∧ (|q - y.value| = |q - x.value| → m % 2 = 0) := by
    intro y hy hne
    rw [hvalue, abs_sub_mul_two_zpow]
    rcases le_or_gt e y.exponent with he | he
    · -- The other double lies on the grid.
      obtain ⟨j, hj, -⟩ := y.exists_value_eq_mul he
      have hjm : j ≠ m := by
        rintro rfl
        exact hne (hj.trans hvalue.symm)
      rw [hj, abs_sub_mul_two_zpow]
      have hle := hround.le j
      exact ⟨by gcongr, fun heq => hround.even_of_eq hjm (mul_right_cancel₀ hpos.ne' heq)⟩
    · -- The other double lies between two points of the grid, but below numbers of 53 bits.
      have hlow : 2 ^ 52 ≤ q / 2 ^ e := hfull.resolve_left (by have := hy.le_exponent; omega)
      have hlt : |q / 2 ^ e - m| < |q / 2 ^ e - y.value / 2 ^ e| :=
        hround.abs_sub_lt (j := 2 ^ 52) (by exact_mod_cast hy.value_div_lt he)
          (by exact_mod_cast hlow)
      have hfar : |q / 2 ^ e - m| * 2 ^ e < |q - y.value| := by
        rw [← div_mul_cancel₀ y.value hpos.ne', abs_sub_mul_two_zpow]
        gcongr
      exact ⟨hfar.le, fun heq => absurd heq hfar.ne'⟩
  refine ⟨hx, fun y hy => ?_, fun y hy hne heq => heven ((main y hy hne).2 heq)⟩
  by_cases hne : y.value = x.value
  · rw [hne]
  · exact (main y hy hne).1

/-- What rounding makes of a number that is not negative: the nearest double, or nothing if the
number is beyond the greatest double. -/
inductive Rounds (q : ℚ) : Option Binary64 → Prop
  | finite {x : Binary64} (nearest : x.IsNearest q) (positive : x.negative = false) :
      Rounds q (some x)
  | overflow (beyond : greatest.value ≤ q) : Rounds q none

/-- What is rounded has a nearest double in any case. -/
theorem Rounds.isNearest {q : ℚ} {result : Option Binary64} (h : Rounds q result) :
    (result.getD greatest).IsNearest q := by
  cases h with
  | finite nearest => exact nearest
  | overflow beyond => exact isNearest_greatest beyond

theorem rounds_zero {q : ℚ} (hq : 0 ≤ q) (hlt : q < 2 ^ minExponent / 2) :
    Rounds q (some zero) := by
  refine .finite (isNearest_of_isRounded (m := 0) (e := minExponent) isFinite_zero ?_ ?_ ?_ ?_) rfl
  · rw [value_zero, Nat.cast_zero, zero_mul]
  · exact fun _ => rfl
  · have hpos : (0 : ℚ) < 2 ^ minExponent := by positivity
    have hdiv : q / 2 ^ minExponent < 1 / 2 := by
      rw [div_lt_iff₀ hpos]
      linarith
    have habs : |q / 2 ^ minExponent - (0 : ℕ)| = q / 2 ^ minExponent := by
      rw [Nat.cast_zero, sub_zero, abs_of_nonneg (by positivity)]
    exact ⟨by rw [habs]; exact hdiv.le, fun _ => rfl⟩
  · exact .inl rfl

/-- The exponent that leaves 53 bits before the point, or fewer if the number is subnormal. -/
theorem exponent_spec {num den : Nat} {e : ℤ} (hnum : 0 < num) (hden : 0 < den)
    (he : e = max (floorLog2 num den - 52) minExponent) :
    (num : ℚ) / den / 2 ^ e < 2 ^ 53
      ∧ (e = minExponent ∨ 2 ^ 52 ≤ (num : ℚ) / den / 2 ^ e) := by
  obtain ⟨hlow, hhigh⟩ := floorLog2_spec hnum hden
  have hpos : (0 : ℚ) < 2 ^ e := by positivity
  rw [div_lt_iff₀ hpos, le_div_iff₀ hpos, ← zpow_natCast, ← zpow_natCast, ← zpow_add₀ two_ne_zero,
    ← zpow_add₀ two_ne_zero]
  refine ⟨hhigh.trans_le (zpow_le_zpow_right₀ one_le_two (by push_cast; omega)), ?_⟩
  by_cases hmin : e = minExponent
  · exact .inl hmin
  · have hexact : ((52 : ℕ) : ℤ) + e = floorLog2 num den := by push_cast; omega
    exact .inr (hexact ▸ hlow)

/-- The double with a rounded mantissa, which may have carried into a 54th bit. -/
def carry (m : ℕ) (e : ℤ) : Binary64 :=
  if m = pow2 53 then ⟨false, pow2 52, e + 1⟩ else ⟨false, m, e⟩

theorem value_carry (m : ℕ) (e : ℤ) : (carry m e).value = m * 2 ^ e := by
  unfold carry
  split
  next h =>
    have hpow : ((pow2 52 : ℕ) : ℚ) * 2 = m := by
      rw [h]
      norm_num [pow2]
    rw [value, if_neg Bool.false_ne_true, one_mul, zpow_add_one₀ two_ne_zero, ← hpow]
    ring
  next => rw [value, if_neg Bool.false_ne_true, one_mul]

theorem negative_carry (m : ℕ) (e : ℤ) : (carry m e).negative = false := by
  unfold carry
  split <;> rfl

theorem even_carry {m : ℕ} {e : ℤ} (h : m % 2 = 0) : (carry m e).mantissa % 2 = 0 := by
  unfold carry
  split
  · show pow2 52 % 2 = 0
    decide
  · exact h

theorem isFinite_carry {m : ℕ} {e : ℤ} (hm : m ≤ 2 ^ 53) (hfull : e = minExponent ∨ 2 ^ 52 ≤ m)
    (hmin : minExponent ≤ e) (hmax : (carry m e).exponent ≤ maxExponent) :
    (carry m e).IsFinite := by
  have h53 : pow2 53 = 2 ^ 53 := rfl
  unfold carry at hmax ⊢
  split at hmax
  next h =>
    rw [if_pos h]
    have h52 : pow2 52 < 2 ^ 53 ∧ 2 ^ 52 ≤ pow2 52 := by decide
    exact ⟨h52.1, hmin.trans (Int.le_add_one le_rfl), hmax, .inl h52.2⟩
  next h =>
    rw [if_neg h]
    exact ⟨lt_of_le_of_ne hm (h53 ▸ h), hmin, hmax, hfull.symm⟩

/-- If the rounded number has no double, then the number itself is beyond them all. -/
theorem greatest_le_of_carry {q : ℚ} {m : ℕ} {e : ℤ} (hround : IsRounded (q / 2 ^ e) m)
    (hfull : e = minExponent ∨ 2 ^ 52 ≤ q / 2 ^ e) (hmax : maxExponent < (carry m e).exponent) :
    greatest.value ≤ q := by
  have hpos : (0 : ℚ) < 2 ^ e := by positivity
  rw [value_greatest]
  rcases lt_or_ge maxExponent e with he | he
  · have hrange : minExponent < maxExponent := by decide
    have hlow : 2 ^ 52 ≤ q / 2 ^ e := hfull.resolve_left (hrange.trans he).ne'
    calc (2 ^ 53 - 1) * (2 : ℚ) ^ maxExponent ≤ 2 ^ 52 * 2 ^ (maxExponent + 1) := by
          rw [zpow_add_one₀ two_ne_zero]
          have hpos : (0 : ℚ) < 2 ^ maxExponent := by positivity
          linarith
      _ ≤ 2 ^ 52 * 2 ^ e := by
          have hpow : (2 : ℚ) ^ (maxExponent + 1) ≤ 2 ^ e :=
            zpow_le_zpow_right₀ one_le_two (by omega)
          gcongr
      _ ≤ q := (le_div_iff₀ hpos).mp hlow
  · -- The carry alone went too far, so the mantissa was within a half of its 54th bit.
    have hm : m = pow2 53 := by
      by_contra h
      rw [carry, if_neg h] at hmax
      exact absurd hmax (not_lt.mpr he)
    rw [carry, if_pos hm] at hmax
    have hexp : e = maxExponent := le_antisymm he (Int.lt_add_one_iff.mp hmax)
    subst hexp
    have hhalf := (abs_le.mp hround.le_half).1
    have hmq : (m : ℚ) = 2 ^ 53 := by
      rw [hm]
      norm_num [pow2]
    exact (le_div_iff₀ hpos).mp (by linarith)

/-- **Rounding a fraction** yields the nearest double. -/
theorem rounds_ofFraction (num : Nat) {den : Nat} (hden : 0 < den) :
    Rounds (num / den) (ofFraction num den) := by
  by_cases hzero : num = 0
  · subst hzero
    rw [Nat.cast_zero, zero_div]
    exact rounds_zero le_rfl (by positivity)
  · generalize he : max (floorLog2 num den - 52) minExponent = e
    obtain ⟨hhigh, hfull⟩ := exponent_spec (Nat.pos_of_ne_zero hzero) hden he.symm
    generalize hm : roundHalfEven (scale num den (-e)).1 (scale num den (-e)).2 = m
    have hround : IsRounded ((num : ℚ) / den / 2 ^ e) m := by
      rw [← hm, div_eq_mul_inv _ ((2 : ℚ) ^ e), ← zpow_neg, ← scale_div hden]
      exact isRounded_roundHalfEven _ (snd_scale_pos hden _)
    have heq : ofFraction num den =
        if maxExponent < (carry m e).exponent then none else some (carry m e) := by
      subst hm he
      exact if_neg hzero
    have hm_le : m ≤ 2 ^ 53 := hround.le_of_lt (by exact_mod_cast hhigh)
    have hm_full : e = minExponent ∨ 2 ^ 52 ≤ m :=
      hfull.imp_right fun hlow => hround.le_of_le (by exact_mod_cast hlow)
    rw [heq]
    split
    next hmax => exact .overflow (greatest_le_of_carry hround hfull hmax)
    next hmax =>
      have hfinite := isFinite_carry hm_le hm_full (he ▸ le_max_right _ _) (not_lt.mp hmax)
      exact .finite (isNearest_of_isRounded hfinite (value_carry m e) even_carry hround hfull)
        (negative_carry m e)

/-! ## §6. The whole part. -/

/-- The whole part of a double that is not negative. -/
theorem truncate_eq {x : Binary64} (h : x.negative = false) : (x.truncate : ℤ) = ⌊x.value⌋ := by
  have hvalue : x.value = (x.toFraction.1 : ℚ) / x.toFraction.2 := by
    rw [toFraction, scale_div one_pos, value, h, if_neg Bool.false_ne_true, one_mul, Nat.cast_one,
      div_one]
  rw [hvalue]
  exact (Rat.floor_intCast_div_natCast x.toFraction.1 x.toFraction.2).symm

end GroupScope.Binary64
