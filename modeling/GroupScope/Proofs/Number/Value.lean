import Mathlib
import GroupScope.Proofs.Number.Digits
/-!
# The number that a numeral spells

A mantissa spells a fraction over a power of ten, an exponent moves its point, and a sign may stand
in front of both:

    value  =  sign · (whole + fraction / 10 ^ length) · 10 ^ power

Reading a numeral takes the digits without the point and counts the point into the exponent. All of
this is exact, but for an exponent beyond a bound, of which only the first digits are read.
-/

namespace GroupScope

/-! ## §1. The value of digits. -/

namespace Numeral

theorem digitsValue_append (first second : List Char) :
    digitsValue (first ++ second) =
      digitsValue first * 10 ^ second.length + digitsValue second := by
  have happend := Nat.ofDigitChars_append (b := 10) (l := first) (m := second) 0
  rw [Nat.ofDigitChars_eq_ofDigitChars_zero (l := second), mul_comm] at happend
  exact happend

theorem digitsValue_concat (digits : List Char) (c : Char) :
    digitsValue (digits ++ [c]) = 10 * digitsValue digits + (c.toNat - 48) :=
  List.foldl_append

theorem digitsValue_lt {digits : List Char} (h : ∀ c ∈ digits, c.isDigit = true) :
    digitsValue digits < 10 ^ digits.length := by
  induction digits using List.reverseRecOn with
  | nil => decide
  | append_singleton digits c ih =>
    have hlt := ih fun d hd => h d (List.mem_append_left _ hd)
    obtain ⟨hlow, hhigh⟩ := bounds_of_isDigit (h c (List.mem_append_right _ List.mem_cons_self))
    rw [digitsValue_concat, List.length_append, List.length_singleton, pow_succ]
    omega

theorem digitsValue_toDigits (n : ℕ) : digitsValue (Nat.toDigits 10 n) = n :=
  Nat.ofDigitChars_ten_toDigits

/-- A positive number has as many digits as its size says. -/
theorem pow_le_of_toDigits {n : ℕ} (hn : 0 < n) :
    10 ^ ((Nat.toDigits 10 n).length - 1) ≤ n ∧ n < 10 ^ (Nat.toDigits 10 n).length := by
  constructor
  · by_contra hlt
    have hne := Nat.toDigits_ne_nil (b := 10) (n := n)
    have hlength := List.length_pos_iff.mpr hne
    by_cases hone : (Nat.toDigits 10 n).length - 1 = 0
    · rw [hone] at hlt
      omega
    · have hle := Nat.toDigits_length 10 n _ (Nat.pos_of_ne_zero hone) (not_le.mp hlt)
      omega
  · have hlt := digitsValue_lt fun c hc => Nat.isDigit_of_mem_toDigits (b := 10) (n := n)
      (by decide) (by decide) hc
    rwa [digitsValue_toDigits] at hlt

theorem exponentDigits_concat (digits : List Char) (c : Char) :
    exponentDigits (digits ++ [c]) =
      if exponentDigits digits < exponentBound then 10 * exponentDigits digits + (c.toNat - 48)
      else exponentDigits digits :=
  List.foldl_append

/-- The digits of an exponent are read to the end, or the reading stops beyond the bound. -/
theorem exponentDigits_spec (digits : List Char) :
    exponentDigits digits = digitsValue digits
      ∨ exponentBound ≤ exponentDigits digits ∧ exponentBound ≤ digitsValue digits := by
  induction digits using List.reverseRecOn with
  | nil => exact .inl rfl
  | append_singleton digits c ih =>
    rw [digitsValue_concat, exponentDigits_concat]
    split <;> omega

end Numeral

/-! ## §2. What a numeral says. -/

namespace Numeral

/-- A sign as a factor. -/
def Sign.factor : Sign → ℤ
  | .none | .plus => 1
  | .minus => -1

theorem Sign.factor_eq_one {sign : Sign} (h : sign ≠ .minus) : sign.factor = 1 := by
  cases sign with
  | none | plus => rfl
  | minus => exact absurd rfl h

namespace Spelling

variable (n : Spelling)

/-- The digits after the point. -/
def fractionDigits : List Char := n.fraction.getD []

/-- The number that the mantissa spells. -/
def mantissaValue : ℚ :=
  digitsValue n.whole + digitsValue n.fractionDigits / 10 ^ n.fractionDigits.length

/-- The power of ten that the exponent spells. -/
def power : ℤ := (n.exponent.map fun e => e.sign.factor * (digitsValue e.digits : ℤ)).getD 0

/-- **The exact number that a numeral spells.** -/
def value : ℚ := n.sign.factor * (n.mantissaValue * 10 ^ n.power)

/-- The power of ten as far as the exponent is read. -/
def readPower : ℤ := (n.exponent.map fun e => e.sign.factor * (exponentDigits e.digits : ℤ)).getD 0

/-- The number that a numeral spells if its exponent goes only as far as it is read. -/
def readValue : ℚ := n.sign.factor * (n.mantissaValue * 10 ^ n.readPower)

/-- Digits alone, with no other sign than a plus. -/
def IsPlain : Prop := n.sign ≠ .minus ∧ n.fraction = none ∧ n.exponent = none

/-- The exponent is read to its end, or the mantissa has too few digits to make up for it. -/
def IsShort : Prop :=
  n.power.natAbs < exponentBound ∨ (n.whole ++ n.fractionDigits).length + 330 ≤ exponentBound

theorem mantissaValue_nonneg : 0 ≤ n.mantissaValue := by
  unfold mantissaValue
  positivity

/-- The point is put back by a power of ten. -/
theorem mantissaValue_eq :
    n.mantissaValue =
      digitsValue (n.whole ++ n.fractionDigits) * 10 ^ (-n.fractionDigits.length : ℤ) := by
  rw [mantissaValue, digitsValue_append, zpow_neg, zpow_natCast]
  push_cast
  field_simp

/-- As digits times a power of ten, which puts the point back. -/
theorem mantissaValue_mul (power : ℤ) :
    n.mantissaValue * 10 ^ power =
      digitsValue (n.whole ++ n.fractionDigits) * 10 ^ (power - n.fractionDigits.length) := by
  rw [mantissaValue_eq, mul_assoc, ← zpow_add₀ (by norm_num), neg_add_eq_sub]

/-- Digits hold no point. -/
theorem filter_point {digits : List Char} (h : ∀ c ∈ digits, c.isDigit = true) :
    digits.filter (· != '.') = digits :=
  List.filter_eq_self.mpr fun c hc => bne_iff_ne.mpr (ne_point_of_isDigit (h c hc))

theorem isDigit_of_mem_whole {c : Char} (h : c ∈ n.whole) : c.isDigit = true :=
  n.isDigit c (List.mem_append_left _ h)

theorem isDigit_of_mem_fractionDigits {c : Char} (h : c ∈ n.fractionDigits) : c.isDigit = true :=
  n.isDigit c (List.mem_append_right _ h)

/-- The digits of the mantissa without its point. -/
theorem filter_mantissa : n.mantissa.filter (· != '.') = n.whole ++ n.fractionDigits := by
  have hwhole := filter_point fun c hc => n.isDigit_of_mem_whole hc
  have hfraction := filter_point fun c hc => n.isDigit_of_mem_fractionDigits hc
  rw [mantissa, List.filter_append, hwhole]
  unfold fractionDigits at hfraction ⊢
  cases hn : n.fraction with
  | none => rfl
  | some digits =>
    rw [hn] at hfraction
    have hpoint : (fractionText (some digits)).filter (· != '.') = digits.filter (· != '.') :=
      List.filter_cons_of_neg (by decide)
    rw [hpoint]
    exact congrArg (n.whole ++ ·) hfraction

/-- The digits of the mantissa behind its point. -/
theorem drop_mantissa : (n.mantissa.dropWhile (· != '.')).drop 1 = n.fractionDigits := by
  have hwhole : ∀ c ∈ n.whole, (c != '.') = true :=
    fun c hc => bne_iff_ne.mpr (ne_point_of_isDigit (n.isDigit_of_mem_whole hc))
  rw [mantissa, List.dropWhile_append_of_pos hwhole]
  unfold fractionDigits
  cases n.fraction with
  | none => rfl
  | some digits => rfl

theorem exponentValue_append (sign : Sign) {digits : List Char}
    (h : ∀ c ∈ digits, c.isDigit = true) :
    exponentValue (sign.text ++ digits) = sign.factor * (exponentDigits digits : ℤ) := by
  have hunsigned := unsigned_of_isDigit h
  cases sign with
  | none =>
    rw [Sign.factor, one_mul]
    show exponentValue digits = _
    unfold exponentValue
    split
    next rest => exact absurd rfl (hunsigned rest).2
    next => rw [dropSign_of_unsigned hunsigned]
  | plus => exact (one_mul _).symm
  | minus => exact (neg_one_mul _).symm

theorem exponentValue_afterMark : (n.afterMark.map exponentValue).getD 0 = n.readPower := by
  unfold afterMark readPower
  cases n.exponent with
  | none => rfl
  | some exponent => exact exponentValue_append exponent.sign exponent.isDigit

theorem head?_text : (n.text.head? == some '-') = decide (n.sign = .minus) := by
  have hunsigned := n.unsigned_mantissa_append (exponentText n.exponent)
  unfold text
  cases n.sign with
  | none =>
    generalize n.mantissa ++ exponentText n.exponent = rest at *
    cases rest with
    | nil => rfl
    | cons c rest =>
      have hc : c ≠ '-' := by
        rintro rfl
        exact (hunsigned rest).2 rfl
      simp [Sign.text, hc]
  | plus => rfl
  | minus => rfl

/-- A spelling is read as its sign, its digits and its powers of ten. -/
theorem decimal_text :
    decimal n.text =
      { negative := decide (n.sign = .minus)
        digits := digitsValue (n.whole ++ n.fractionDigits)
        exponent := n.readPower - n.fractionDigits.length } := by
  unfold decimal
  rw [n.splitExponent_text]
  simp only [n.head?_text, n.filter_mantissa, n.drop_mantissa, n.exponentValue_afterMark]

theorem dropPlus_text (h : n.sign ≠ .minus) :
    dropPlus n.text = n.mantissa ++ exponentText n.exponent := by
  have hunsigned := n.unsigned_mantissa_append (exponentText n.exponent)
  unfold text
  cases hsign : n.sign with
  | none =>
    show dropPlus (n.mantissa ++ exponentText n.exponent) = _
    unfold dropPlus
    split
    next rest heq => exact absurd heq (hunsigned rest).1
    next => rfl
  | plus => rfl
  | minus => exact absurd hsign h

/-- Only a plain numeral has nothing but digits after its plus sign. -/
theorem isPlain_iff : n.IsPlain ↔ (dropPlus n.text).all Char.isDigit = true := by
  rw [List.all_eq_true]
  constructor
  · rintro ⟨hsign, hfraction, hexponent⟩ c hc
    rw [n.dropPlus_text hsign, mantissa, hfraction, hexponent] at hc
    simp only [fractionText, exponentText, List.append_nil] at hc
    exact n.isDigit_of_mem_whole hc
  · intro hall
    have hsign : n.sign ≠ .minus := by
      intro hminus
      rw [text, hminus] at hall
      exact absurd (hall '-' List.mem_cons_self) (by decide)
    rw [n.dropPlus_text hsign, mantissa] at hall
    refine ⟨hsign, Option.eq_none_iff_forall_ne_some.mpr fun digits hsome => ?_,
      Option.eq_none_iff_forall_ne_some.mpr fun exponent hsome => ?_⟩
    · have hpoint := hall '.' (by simp [hsome, fractionText])
      exact absurd hpoint (by decide)
    · have hmark := hall exponent.mark (by simp [hsome, exponentText, Exponent.text])
      rcases exponent.mark_eq with h | h <;> exact absurd (h ▸ hmark) (by decide)

/-- Digits alone spell their own value. -/
theorem value_of_isPlain (h : n.IsPlain) : n.value = digitsValue n.whole := by
  obtain ⟨hsign, hfraction, hexponent⟩ := h
  simp [value, power, mantissaValue, fractionDigits, Sign.factor_eq_one hsign, hfraction,
    hexponent, digitsValue]

/-- The mantissa has no more digits than it is long, on either side of the point. -/
theorem mantissaValue_bounds :
    n.mantissaValue < 10 ^ ((n.whole ++ n.fractionDigits).length : ℤ)
      ∧ (n.mantissaValue ≠ 0 →
          10 ^ (-(n.whole ++ n.fractionDigits).length : ℤ) ≤ n.mantissaValue) := by
  have hlt := digitsValue_lt n.isDigit
  have hlength : n.fractionDigits.length ≤ (n.whole ++ n.fractionDigits).length := by
    rw [List.length_append]
    omega
  rw [n.mantissaValue_eq]
  change digitsValue (n.whole ++ n.fractionDigits) < 10 ^ (n.whole ++ n.fractionDigits).length
    at hlt
  generalize digitsValue (n.whole ++ n.fractionDigits) = digits,
    (n.whole ++ n.fractionDigits).length = length, n.fractionDigits.length = point at *
  constructor
  · calc (digits : ℚ) * 10 ^ (-point : ℤ) ≤ digits * 10 ^ (0 : ℤ) := by
          gcongr
          · norm_num
          · omega
      _ = digits := by rw [zpow_zero, mul_one]
      _ < 10 ^ (length : ℤ) := by exact_mod_cast hlt
  · intro hne
    have hone : (1 : ℚ) ≤ digits := by
      have hpos : digits ≠ 0 := by
        rintro rfl
        exact hne (by simp)
      exact_mod_cast Nat.one_le_iff_ne_zero.mpr hpos
    calc (10 : ℚ) ^ (-length : ℤ) ≤ 10 ^ (-point : ℤ) :=
          zpow_le_zpow_right₀ (by norm_num) (by omega)
      _ ≤ digits * 10 ^ (-point : ℤ) := le_mul_of_one_le_left (by positivity) hone

/-- An exponent is read to its end, or both it and what is read of it are beyond the bound. -/
theorem readPower_spec :
    n.readPower = n.power
      ∨ exponentBound ≤ n.power.natAbs
        ∧ ((exponentBound : ℤ) ≤ n.readPower ∧ (exponentBound : ℤ) ≤ n.power
          ∨ n.readPower ≤ -exponentBound ∧ n.power ≤ -exponentBound) := by
  unfold readPower power
  cases n.exponent with
  | none => exact .inl rfl
  | some exponent =>
    simp only [Option.map_some, Option.getD_some]
    rcases exponentDigits_spec exponent.digits with heq | hbounds
    · exact .inl (by rw [heq])
    · cases exponent.sign with
      | none | plus | minus =>
        simp only [Sign.factor]
        omega

end Spelling

end Numeral

end GroupScope
