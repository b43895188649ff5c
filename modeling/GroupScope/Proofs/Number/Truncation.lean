import Mathlib
import GroupScope.Proofs.Number.Nearest
import GroupScope.Proofs.Number.Value
/-!
# Numbers cut off at the point

A numeral spells a rational number and is meant to name the id that is left when that number is cut
off at the point. Digits alone do. Any other numeral is read as the nearest double first, and the
double is cut off:

    digits alone:   the number  →  cut off
    all others:     the number  →  the nearest double  →  cut off

So the second kind goes wrong exactly where the nearest double has another whole part, just below
the next integer and among the large numbers that no double represents.
-/

namespace GroupScope

/-! ## §1. Decimal numbers as doubles. -/

namespace Binary64

theorem ten_pow_bounds : 2 ^ 1075 ≤ 10 ^ 330 ∧ 2 ^ 1024 ≤ 10 ^ 330 := by
  decide +kernel

/-- A number this small is nearest to zero. -/
theorem rounds_of_lt {q : ℚ} (hq : 0 ≤ q) (hlt : q < 10 ^ (-330 : ℤ)) : Rounds q (some zero) := by
  refine rounds_zero hq (hlt.trans_le ?_)
  have hpow : (2 : ℚ) ^ 1075 ≤ 10 ^ 330 := by exact_mod_cast ten_pow_bounds.1
  have hhalf : (2 : ℚ) ^ minExponent / 2 = (2 ^ 1075)⁻¹ := by
    rw [div_eq_mul_inv, ← zpow_sub_one₀ two_ne_zero, ← zpow_natCast, ← zpow_neg]
    rfl
  rw [hhalf, zpow_neg]
  exact inv_anti₀ (by positivity) hpow

/-- A number this great is beyond all doubles. -/
theorem rounds_of_le {q : ℚ} (hle : 10 ^ (330 : ℤ) ≤ q) : Rounds q none := by
  refine .overflow (le_trans ?_ hle)
  have hpow : (2 : ℚ) ^ 1024 ≤ 10 ^ 330 := by exact_mod_cast ten_pow_bounds.2
  have hpos : (0 : ℚ) < 2 ^ maxExponent := by positivity
  calc greatest.value ≤ 2 ^ 53 * 2 ^ maxExponent := by rw [value_greatest]; linarith
    _ = 2 ^ 1024 := by
      rw [← zpow_natCast, ← zpow_natCast, ← zpow_add₀ two_ne_zero]
      rfl
    _ ≤ 10 ^ (330 : ℤ) := hpow

/-- **Reading a decimal number** yields the nearest double. -/
theorem rounds_ofDecimal (digits : ℕ) (exponent : ℤ) :
    Rounds (digits * 10 ^ exponent) (ofDecimal digits exponent) := by
  have hten : ∀ k : ℕ, ((pow10 k : ℕ) : ℚ) = 10 ^ k := by
    intro k
    simp [pow10]
  unfold ofDecimal
  rcases Nat.eq_zero_or_pos digits with rfl | hpos
  · rw [Nat.cast_zero, zero_mul]
    exact rounds_of_lt le_rfl (by positivity)
  obtain ⟨hlow, hhigh⟩ := Numeral.pow_le_of_toDigits hpos
  have hsize := List.length_pos_iff.mpr (Nat.toDigits_ne_nil (b := 10) (n := digits))
  generalize (Nat.toDigits 10 digits).length = size at *
  simp only [hpos.ne', decide_false, Bool.false_or, decide_eq_true_eq]
  split
  next htiny =>
    refine rounds_of_lt (by positivity) ?_
    calc (digits : ℚ) * 10 ^ exponent < 10 ^ size * 10 ^ exponent := by
          gcongr
          exact_mod_cast hhigh
      _ = 10 ^ (size + exponent) := by rw [← zpow_natCast, zpow_add₀ (by norm_num)]
      _ ≤ 10 ^ (-330 : ℤ) := zpow_le_zpow_right₀ (by norm_num) htiny.le
  split
  next hhuge =>
    refine rounds_of_le ?_
    calc (10 : ℚ) ^ (330 : ℤ) ≤ 10 ^ ((size - 1 : ℕ) + exponent) :=
          zpow_le_zpow_right₀ (by norm_num) (by omega)
      _ = 10 ^ (size - 1) * 10 ^ exponent := by rw [zpow_add₀ (by norm_num), zpow_natCast]
      _ ≤ digits * 10 ^ exponent := by
          gcongr
          exact_mod_cast hlow
  split
  next hexp =>
    obtain ⟨k, rfl⟩ := Int.eq_ofNat_of_zero_le hexp
    have hround := rounds_ofFraction (digits * pow10 k) one_pos
    rwa [Nat.cast_one, div_one, Nat.cast_mul, hten, ← zpow_natCast] at hround
  next hexp =>
    obtain ⟨k, rfl⟩ : ∃ k : ℕ, exponent = -k := ⟨(-exponent).toNat, by omega⟩
    have hround := rounds_ofFraction digits (pow10_pos k)
    rw [neg_neg, Int.toNat_natCast, zpow_neg, zpow_natCast, ← hten, ← div_eq_mul_inv]
    exact hround

end Binary64

/-! ## §2. Ids. -/

/-- A number cut off at the point. -/
def truncated (x : ℚ) : ℤ := if 0 ≤ x then ⌊x⌋ else ⌈x⌉

/-- The id that a number names: its whole part, if that is usable. -/
def GroupId.ofRational? (x : ℚ) : Option GroupId :=
  if 1 ≤ truncated x ∧ truncated x ≤ maxStored then some (UInt64.ofNat (truncated x).toNat)
  else none

namespace GroupId

theorem ofRational?_of_nonneg {x : ℚ} (h : 0 ≤ x) : ofRational? x = ofNat? ⌊x⌋.toNat := by
  have hfloor : 0 ≤ ⌊x⌋ := Int.floor_nonneg.mpr h
  have htruncated : truncated x = ⌊x⌋ := if_pos h
  unfold ofRational? ofNat?
  rw [htruncated]
  congr 1
  rw [eq_iff_iff]
  omega

/-- What is below one is cut off to nothing usable. -/
theorem ofRational?_of_lt_one {x : ℚ} (h : x < 1) : ofRational? x = none := by
  have htruncated : truncated x < 1 := by
    unfold truncated
    split
    next => exact Int.floor_lt.mpr (by exact_mod_cast h)
    next hneg =>
      have hceil : ⌈x⌉ ≤ 0 := Int.ceil_le.mpr (by exact_mod_cast (not_le.mp hneg).le)
      omega
  exact if_neg fun hbounds => absurd hbounds.1 (not_le.mpr htruncated)

/-- What no signed word holds is not usable. -/
theorem ofRational?_of_le {x : ℚ} (h : 2 ^ 63 ≤ x) : ofRational? x = none := by
  have hnonneg : 0 ≤ x := le_trans (by positivity) h
  have hfloor : 2 ^ 63 ≤ ⌊x⌋ := Int.le_floor.mpr (by exact_mod_cast h)
  rw [ofRational?_of_nonneg hnonneg]
  refine if_neg fun hbounds => ?_
  have hmax := hbounds.2
  rw [maxStored, pow2_63] at hmax
  omega

theorem ofRational?_natCast (n : ℕ) : ofRational? n = ofNat? n := by
  rw [ofRational?_of_nonneg (Nat.cast_nonneg n), Int.floor_natCast, Int.toNat_natCast]

/-- In the range of a signed word, only numbers below one name nothing. -/
theorem lt_one_of_ofRational? {x : ℚ} (hx : 0 ≤ x) (hlt : x < 2 ^ 63)
    (h : ofRational? x = none) : x < 1 := by
  by_contra hone
  have hlow : 1 ≤ ⌊x⌋ := Int.le_floor.mpr (by exact_mod_cast not_lt.mp hone)
  have hhigh : ⌊x⌋ < 2 ^ 63 := Int.floor_lt.mpr (by exact_mod_cast hlt)
  rw [ofRational?_of_nonneg hx, ofNat?, maxStored, pow2_63, if_pos (by omega)] at h
  cases h

/-- A usable id has one whole part. -/
theorem floor_eq_of_ofRational?_eq {x y : ℚ} {id : GroupId} (hx : 0 ≤ x) (hy : 0 ≤ y)
    (hxid : ofRational? x = some id) (hyid : ofRational? y = some id) : ⌊x⌋ = ⌊y⌋ := by
  rw [ofRational?_of_nonneg hx] at hxid
  rw [ofRational?_of_nonneg hy] at hyid
  have hxfloor := Int.floor_nonneg.mpr hx
  have hyfloor := Int.floor_nonneg.mpr hy
  have hxnat := (toNat_of_ofNat? hxid).1
  have hynat := (toNat_of_ofNat? hyid).1
  omega

end GroupId

namespace Binary64

theorem value_nonneg {x : Binary64} (h : x.negative = false) : 0 ≤ x.value := by
  rw [value, if_neg (by simp [h]), one_mul]
  positivity

/-- Cutting off a double gives the id that its value names. -/
theorem ofNat?_truncate {x : Binary64} (h : x.negative = false) :
    GroupId.ofNat? x.truncate = GroupId.ofRational? x.value := by
  rw [GroupId.ofRational?_of_nonneg (value_nonneg h), ← truncate_eq h, Int.toNat_natCast]

/-- Whole numbers below `2 ^ 53` are doubles. -/
theorem exists_isFinite_natCast {k : ℕ} (h : k < 2 ^ 53) :
    ∃ y : Binary64, y.IsFinite ∧ y.value = k := by
  obtain ⟨y, hy, hvalue⟩ := exists_isFinite_value_eq (c := k) (e := 0) (by omega) (by decide)
    (by decide)
  exact ⟨y, hy, by rw [hvalue, zpow_zero, mul_one, Int.cast_natCast]⟩

/-- So is the bound of a signed word. -/
theorem exists_isFinite_two_pow : ∃ y : Binary64, y.IsFinite ∧ y.value = 2 ^ 63 := by
  obtain ⟨y, hy, hvalue⟩ := exists_isFinite_value_eq (c := 1) (e := 63) (by decide) (by decide)
    (by decide)
  exact ⟨y, hy, by rw [hvalue, Int.cast_one, one_mul]; rfl⟩

/-- The id of a rounded number is that of any nearest double. -/
theorem Rounds.bind_ofNat? {q : ℚ} {result : Option Binary64} (h : Rounds q result) {d : Binary64}
    (hd : d.IsNearest q) :
    (result.bind fun x => GroupId.ofNat? x.truncate) = GroupId.ofRational? d.value := by
  cases h with
  | finite nearest positive =>
    rw [hd.value_unique nearest]
    exact ofNat?_truncate positive
  | overflow beyond =>
    rw [hd.value_unique (isNearest_greatest beyond)]
    obtain ⟨y, hy, hvalue⟩ := exists_isFinite_two_pow
    exact (GroupId.ofRational?_of_le (hvalue ▸ hy.value_le_greatest)).symm

theorem IsNearest.nonneg {x : Binary64} {q : ℚ} (h : x.IsNearest q) (hq : 0 ≤ q) : 0 ≤ x.value :=
  value_zero ▸ h.le_value isFinite_zero (value_zero ▸ hq)

theorem IsNearest.nonpos {x : Binary64} {q : ℚ} (h : x.IsNearest q) (hq : q ≤ 0) : x.value ≤ 0 :=
  value_zero ▸ h.value_le isFinite_zero (value_zero ▸ hq)

/-- **A double and the number it is nearest to** name the same id if and only if they have the same
whole part or the number is out of range anyway. -/
theorem IsNearest.ofRational?_eq_iff {x : Binary64} {q : ℚ} (h : x.IsNearest q) :
    GroupId.ofRational? x.value = GroupId.ofRational? q ↔
      q < 0 ∨ 2 ^ 63 ≤ q ∨ ⌊x.value⌋ = ⌊q⌋ := by
  rcases lt_or_ge q 0 with hneg | hnonneg
  · have hx := h.nonpos hneg.le
    rw [GroupId.ofRational?_of_lt_one (by linarith), GroupId.ofRational?_of_lt_one (by linarith)]
    exact iff_of_true rfl (.inl hneg)
  have hx := h.nonneg hnonneg
  rcases le_or_gt (2 ^ 63) q with hhuge | hsmall
  · obtain ⟨y, hy, hvalue⟩ := exists_isFinite_two_pow
    have hle := h.le_value hy (hvalue ▸ hhuge)
    rw [GroupId.ofRational?_of_le (hvalue ▸ hle), GroupId.ofRational?_of_le hhuge]
    exact iff_of_true rfl (.inr (.inl hhuge))
  constructor
  · intro heq
    refine .inr (.inr ?_)
    cases hid : GroupId.ofRational? q with
    | some id => exact GroupId.floor_eq_of_ofRational?_eq hx hnonneg (heq.trans hid) hid
    | none =>
      -- The number is below one, and its double is at most one, where it would name the id one.
      obtain ⟨y, hy, hvalue⟩ := exists_isFinite_natCast (k := 1) (by decide)
      rw [Nat.cast_one] at hvalue
      have hlt := GroupId.lt_one_of_ofRational? hnonneg hsmall hid
      have hle := h.value_le hy (hvalue ▸ hlt.le)
      have hxlt := GroupId.lt_one_of_ofRational? hx (by linarith) (heq.trans hid)
      rw [Int.floor_eq_zero_iff.mpr ⟨hx, hxlt⟩, Int.floor_eq_zero_iff.mpr ⟨hnonneg, hlt⟩]
  · rintro (hneg | hhuge | hfloor)
    · exact absurd hneg (not_lt.mpr hnonneg)
    · exact absurd hhuge (not_le.mpr hsmall)
    · rw [GroupId.ofRational?_of_nonneg hx, GroupId.ofRational?_of_nonneg hnonneg, hfloor]

end Binary64

namespace Numeral.Spelling

variable (n : Spelling)

/-- **Digits alone** name the number that they spell. -/
theorem groupId?_of_isPlain (h : n.IsPlain) :
    groupId? n.text = GroupId.ofRational? n.value := by
  have hdigits : dropPlus n.text = n.whole := by
    obtain ⟨hsign, hfraction, hexponent⟩ := h
    rw [n.dropPlus_text hsign, mantissa, hfraction, hexponent]
    simp [fractionText, exponentText]
  rw [n.value_of_isPlain h, GroupId.ofRational?_natCast]
  unfold groupId?
  rw [if_pos (n.isPlain_iff.mp h), hdigits]

/-- **All other numerals** name what is left of the nearest double. -/
theorem groupId?_of_not_isPlain (h : ¬n.IsPlain) {d : Binary64} (hd : d.IsNearest n.readValue) :
    groupId? n.text = GroupId.ofRational? d.value := by
  unfold groupId?
  rw [if_neg (mt n.isPlain_iff.mpr h), n.decimal_text]
  simp only [decide_eq_true_eq]
  split
  next hsign =>
    have hnonpos : n.readValue ≤ 0 := by
      have hmantissa := n.mantissaValue_nonneg
      rw [readValue, hsign, Sign.factor, Int.cast_neg, Int.cast_one, neg_one_mul]
      exact neg_nonpos.mpr (by positivity)
    exact (GroupId.ofRational?_of_lt_one ((hd.nonpos hnonpos).trans_lt one_pos)).symm
  next hsign =>
    have hround := Binary64.rounds_ofDecimal (digitsValue (n.whole ++ n.fractionDigits))
      (n.readPower - n.fractionDigits.length)
    have hvalue : n.readValue = digitsValue (n.whole ++ n.fractionDigits) *
        10 ^ (n.readPower - n.fractionDigits.length) := by
      rw [readValue, Sign.factor_eq_one hsign, Int.cast_one, one_mul, mantissaValue_mul]
    exact (hvalue ▸ hround).bind_ofNat? hd

end Numeral.Spelling

/-! ## §3. Long exponents. -/

namespace Numeral

/-- A double under a sign. -/
def Sign.apply : Sign → Binary64 → Binary64
  | .minus, x => x.neg
  | .none, x | .plus, x => x

theorem Sign.isNearest_apply (sign : Sign) {x : Binary64} {q : ℚ} (h : x.IsNearest q) :
    (sign.apply x).IsNearest (sign.factor * q) := by
  cases sign with
  | none | plus => rwa [factor, Int.cast_one, one_mul]
  | minus =>
    rw [factor, Int.cast_neg, Int.cast_one, neg_one_mul]
    exact h.neg

namespace Spelling

variable (n : Spelling)

/-- Beyond the bound, an exponent puts a short mantissa out of the range of doubles. -/
theorem rounds_of_bound_le (hlength : (n.whole ++ n.fractionDigits).length + 330 ≤ exponentBound)
    (hne : n.mantissaValue ≠ 0) {power : ℤ} (hpower : exponentBound ≤ power) :
    Binary64.Rounds (n.mantissaValue * 10 ^ power) none := by
  refine Binary64.rounds_of_le ?_
  have hlow := n.mantissaValue_bounds.2 hne
  calc (10 : ℚ) ^ (330 : ℤ) ≤ 10 ^ (-(n.whole ++ n.fractionDigits).length + power : ℤ) :=
        zpow_le_zpow_right₀ (by norm_num) (by omega)
    _ = 10 ^ (-(n.whole ++ n.fractionDigits).length : ℤ) * 10 ^ power := zpow_add₀ (by norm_num) _ _
    _ ≤ n.mantissaValue * 10 ^ power := by gcongr

theorem rounds_of_le_neg_bound
    (hlength : (n.whole ++ n.fractionDigits).length + 330 ≤ exponentBound) {power : ℤ}
    (hpower : power ≤ -exponentBound) :
    Binary64.Rounds (n.mantissaValue * 10 ^ power) (some .zero) := by
  have hnonneg := n.mantissaValue_nonneg
  refine Binary64.rounds_of_lt (by positivity) ?_
  have hhigh := n.mantissaValue_bounds.1
  calc n.mantissaValue * 10 ^ power
      < 10 ^ ((n.whole ++ n.fractionDigits).length : ℤ) * 10 ^ power := by gcongr
    _ = 10 ^ ((n.whole ++ n.fractionDigits).length + power : ℤ) :=
        (zpow_add₀ (by norm_num) _ _).symm
    _ ≤ 10 ^ (-330 : ℤ) := zpow_le_zpow_right₀ (by norm_num) (by omega)

/-- A short numeral is rounded as if its exponent were read to its end. -/
theorem exists_rounds :
    ∃ result, Binary64.Rounds (n.mantissaValue * 10 ^ n.readPower) result
      ∧ (n.IsShort → Binary64.Rounds (n.mantissaValue * 10 ^ n.power) result) := by
  have hread : Binary64.Rounds (n.mantissaValue * 10 ^ n.readPower)
      (Binary64.ofDecimal (digitsValue (n.whole ++ n.fractionDigits))
        (n.readPower - n.fractionDigits.length)) := by
    have hround := Binary64.rounds_ofDecimal (digitsValue (n.whole ++ n.fractionDigits))
      (n.readPower - n.fractionDigits.length)
    rwa [← n.mantissaValue_mul] at hround
  by_cases hzero : n.mantissaValue = 0
  · rw [hzero, zero_mul] at hread ⊢
    exact ⟨_, hread, fun _ => by rwa [zero_mul]⟩
  rcases n.readPower_spec with heq | ⟨hlong, hbeyond⟩
  · exact ⟨_, hread, fun _ => heq ▸ hread⟩
  by_cases hshort : n.IsShort
  · have hlength := hshort.resolve_left (not_lt.mpr hlong)
    rcases hbeyond with ⟨hgreat, hgreat'⟩ | ⟨hsmall, hsmall'⟩
    · exact ⟨none, n.rounds_of_bound_le hlength hzero hgreat,
        fun _ => n.rounds_of_bound_le hlength hzero hgreat'⟩
    · exact ⟨some .zero, n.rounds_of_le_neg_bound hlength hsmall,
        fun _ => n.rounds_of_le_neg_bound hlength hsmall'⟩
  · exact ⟨_, hread, fun h => absurd h hshort⟩

/-- **The double that a numeral is read as** is nearest to the number that it spells, too, if it is
short. -/
theorem exists_isNearest :
    ∃ d : Binary64, d.IsNearest n.readValue ∧ (n.IsShort → d.IsNearest n.value) := by
  obtain ⟨result, hread, hshort⟩ := n.exists_rounds
  exact ⟨n.sign.apply (result.getD .greatest), n.sign.isNearest_apply hread.isNearest,
    fun h => n.sign.isNearest_apply (hshort h).isNearest⟩

end Spelling

end Numeral

/-! ## §4. Exact numerals. -/

/-- A whole part of `b` bits survives rounding, unless the fraction comes so near to the next
integer that the other bits cannot tell them apart. -/
theorem Binary64.IsNearest.floor_eq {x : Binary64} {q : ℚ} (h : x.IsNearest q) {b : ℕ}
    (hb : b ≤ 53) (hq : 0 ≤ q) (hbits : ⌊q⌋ < 2 ^ b)
    (hfraction : q ≤ ⌊q⌋ + 1 - 2 ^ ((b : ℤ) - 53)) : ⌊x.value⌋ = ⌊q⌋ := by
  obtain ⟨k, hk⟩ := Int.eq_ofNat_of_zero_le (Int.floor_nonneg.mpr hq)
  obtain ⟨rest, hrest⟩ : ∃ rest, b + rest = 53 := ⟨53 - b, by omega⟩
  rw [hk] at hbits hfraction ⊢
  have hk_lt : k < 2 ^ b := by exact_mod_cast hbits
  have hcount : (k + 1) * 2 ^ rest ≤ 2 ^ 53 := by
    rw [← hrest, pow_add]
    exact Nat.mul_le_mul_right _ hk_lt
  have hone : 1 ≤ (k + 1) * 2 ^ rest := Nat.mul_pos (Nat.succ_pos k) (by positivity)
  -- The whole part is a double, and so is the last number on the grid below the next integer.
  obtain ⟨y, hy, hyvalue⟩ := exists_isFinite_natCast (k := k)
    (hk_lt.trans_le (Nat.pow_le_pow_right two_pos hb))
  obtain ⟨z, hz, hzvalue⟩ := exists_isFinite_value_eq (c := ((k + 1) * 2 ^ rest - 1 : ℕ))
    (e := (b : ℤ) - 53) (by omega) (by simp only [minExponent]; omega)
    (by simp only [maxExponent]; omega)
  have hgrid : z.value = k + 1 - 2 ^ ((b : ℤ) - 53) := by
    have hunit : (2 : ℚ) ^ rest * 2 ^ ((b : ℤ) - 53) = 1 := by
      rw [← zpow_natCast, ← zpow_add₀ two_ne_zero, show (rest : ℤ) + (b - 53) = 0 by omega,
        zpow_zero]
    rw [hzvalue, Int.cast_natCast, Nat.cast_sub hone]
    push_cast
    rw [sub_mul, mul_assoc, hunit, mul_one, one_mul]
  have hlow : (k : ℚ) ≤ x.value := hyvalue ▸ h.le_value hy (by
    rw [hyvalue]
    have hfloor := Int.floor_le q
    rwa [hk, Int.cast_natCast] at hfloor)
  have hhigh : x.value ≤ k + 1 - 2 ^ ((b : ℤ) - 53) := hgrid ▸ h.value_le hz (by
    rw [hgrid]
    exact_mod_cast hfraction)
  have hpos : (0 : ℚ) < 2 ^ ((b : ℤ) - 53) := by positivity
  rw [Int.floor_eq_iff, Int.cast_natCast]
  exact ⟨hlow, by linarith⟩

/-- **Numerals are cut off at the point.** Every numeral has a spelling. Digits alone name the id
that is left of their number, and any other numeral names what is left of the nearest double. So a
short numeral is cut off exactly if and only if it has digits alone, its number is out of range, or
the double has the whole part of the number. The last is the case if the whole part has `b ≤ 53`
bits and the fraction stays `2 ^ (b - 53)` below the next integer. Two short spellings of one
number, both with digits alone or both not, name the same id. -/
theorem numeral_truncated_iff {text : List Char} (h : Numeral.isNumeral text = true) :
    (∃ n : Numeral.Spelling, n.text = text)
      ∧ ∀ n : Numeral.Spelling, n.text = text → ∃ d : Binary64,
          d.IsNearest n.readValue ∧ (n.IsShort → d.IsNearest n.value)
            ∧ (n.IsPlain → Numeral.groupId? text = GroupId.ofRational? n.value)
            ∧ (¬n.IsPlain → Numeral.groupId? text = GroupId.ofRational? d.value)
            ∧ (n.IsShort →
                (Numeral.groupId? text = GroupId.ofRational? n.value ↔
                    n.IsPlain ∨ n.value < 0 ∨ 2 ^ 63 ≤ n.value ∨ ⌊d.value⌋ = ⌊n.value⌋)
                  ∧ (∀ b : ℕ, b ≤ 53 → 0 ≤ n.value → ⌊n.value⌋ < 2 ^ b →
                      n.value ≤ ⌊n.value⌋ + 1 - 2 ^ ((b : ℤ) - 53) →
                        Numeral.groupId? text = GroupId.ofRational? n.value)
                  ∧ ∀ m : Numeral.Spelling, m.IsShort → m.value = n.value →
                      (m.IsPlain ↔ n.IsPlain) →
                        Numeral.groupId? m.text = Numeral.groupId? text) := by
  refine ⟨Numeral.exists_spelling h, ?_⟩
  rintro n rfl
  obtain ⟨d, hread, hvalue⟩ := n.exists_isNearest
  refine ⟨d, hread, hvalue, n.groupId?_of_isPlain, fun h => n.groupId?_of_not_isPlain h hread,
    fun hshort => ?_⟩
  have hiff : Numeral.groupId? n.text = GroupId.ofRational? n.value ↔
      n.IsPlain ∨ n.value < 0 ∨ 2 ^ 63 ≤ n.value ∨ ⌊d.value⌋ = ⌊n.value⌋ := by
    by_cases hplain : n.IsPlain
    · exact iff_of_true (n.groupId?_of_isPlain hplain) (.inl hplain)
    · rw [n.groupId?_of_not_isPlain hplain hread, (hvalue hshort).ofRational?_eq_iff,
        or_iff_right hplain]
  refine ⟨hiff, fun b hb hnonneg hbits hfraction => ?_, fun m hmshort heq hplain => ?_⟩
  · exact hiff.mpr (.inr (.inr (.inr ((hvalue hshort).floor_eq hb hnonneg hbits hfraction))))
  · by_cases hn : n.IsPlain
    · rw [n.groupId?_of_isPlain hn, m.groupId?_of_isPlain (hplain.mpr hn), heq]
    · -- Both numerals are read as doubles that are nearest to the same number.
      obtain ⟨d', hread', hvalue'⟩ := m.exists_isNearest
      have hnear : d'.IsNearest n.value := heq ▸ hvalue' hmshort
      rw [n.groupId?_of_not_isPlain hn hread, m.groupId?_of_not_isPlain (mt hplain.mp hn) hread',
        hnear.value_unique (hvalue hshort)]

/-- Three bits of whole part, and a fraction that no double represents but that stays below the next
integer. -/
theorem numeral_truncated_of_five_point_nine :
    ∃ n : Numeral.Spelling, n.text = "5.9".toList ∧ n.value = 59 / 10
      ∧ Numeral.groupId? "5.9".toList = GroupId.ofRational? n.value
      ∧ Numeral.groupId? "5.9".toList = some 5 := by
  let n : Numeral.Spelling :=
    { sign := .none, whole := ['5'], fraction := some ['9'], exponent := none
      isDigit := List.all_eq_true.mp (by decide), ne_nil := by decide }
  have hvalue : n.value = 59 / 10 := by
    have hwhole : Numeral.digitsValue ['5'] = 5 := by decide
    have hfraction : Numeral.digitsValue ['9'] = 9 := by decide
    simp only [n, Numeral.Spelling.value, Numeral.Spelling.mantissaValue, Numeral.Spelling.power,
      Numeral.Spelling.fractionDigits, Numeral.Sign.factor, Option.getD_some, hwhole, hfraction]
    norm_num
  have hfloor : ⌊n.value⌋ = 5 := by
    rw [hvalue]
    norm_num
  have hshort : n.IsShort := .inl (by decide)
  have hnumeral : Numeral.isNumeral "5.9".toList = true := by decide
  obtain ⟨d, -, -, -, -, hexact⟩ := (numeral_truncated_iff hnumeral).2 n rfl
  have hbits := (hexact hshort).2.1 3 (by decide)
  rw [hfloor, hvalue] at hbits
  refine ⟨n, rfl, hvalue, ?_, by decide +kernel⟩
  rw [hvalue]
  exact hbits (by norm_num) (by norm_num) (by norm_num)

/-- The first whole number that no double represents names its neighbour once it is written with a
point, and itself without. -/
theorem numeral_names_neighbour :
    ∃ n : Numeral.Spelling, n.text = "9007199254740993.0".toList
      ∧ Numeral.isNumeral n.text = true ∧ n.value = 9007199254740993
      ∧ GroupId.ofRational? n.value = some 9007199254740993
      ∧ Numeral.groupId? n.text = some 9007199254740992
      ∧ Numeral.groupId? "9007199254740993".toList = some 9007199254740993 := by
  let n : Numeral.Spelling :=
    { sign := .none, whole := "9007199254740993".toList, fraction := some ['0'], exponent := none
      isDigit := List.all_eq_true.mp (by decide), ne_nil := by decide }
  have hmantissa : n.mantissaValue = 9007199254740993 := by
    have hwhole : Numeral.digitsValue n.whole = 9007199254740993 := by decide
    have hfraction : Numeral.digitsValue n.fractionDigits = 0 := by decide
    rw [Numeral.Spelling.mantissaValue, hwhole, hfraction]
    norm_num
  have hvalue : n.value = (9007199254740993 : ℕ) := by
    show ((1 : ℤ) : ℚ) * (n.mantissaValue * 10 ^ (0 : ℤ)) = (9007199254740993 : ℕ)
    rw [hmantissa]
    norm_num
  refine ⟨n, by decide, by decide +kernel, hvalue, ?_, by decide +kernel, by decide +kernel⟩
  rw [hvalue, GroupId.ofRational?_natCast]
  decide +kernel

end GroupScope
