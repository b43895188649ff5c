/-!
# Powers of two and ten

The bounds of machine words and the scales of numerals.
-/

namespace GroupScope

/-- A power of two. -/
def pow2 (exponent : Nat) : Nat := Nat.pow 2 exponent

/-- A power of ten. -/
def pow10 (exponent : Nat) : Nat := Nat.pow 10 exponent

/-- Powers of two are positive. -/
theorem pow2_pos (exponent : Nat) : 0 < pow2 exponent := Nat.pow_pos (by decide)

/-- Powers of ten are positive. -/
theorem pow10_pos (exponent : Nat) : 0 < pow10 exponent := Nat.pow_pos (by decide)

/-- The bound of a signed 64-bit word. -/
theorem pow2_63 : pow2 63 = 9223372036854775808 := rfl

/-- The bound of an unsigned 64-bit word. -/
theorem pow2_64 : pow2 64 = 18446744073709551616 := rfl

end GroupScope
