import GroupScope.Number.Power
/-!
# Binary floating point, exactly

A finite double is a sign, a mantissa below `2 ^ 53` and an exponent from `-1074` to `971`; its
value is `mantissa * 2 ^ exponent`. Rounding to nearest, ties to the even mantissa, is done on
fractions of natural numbers, so that every result is exact and nothing depends on machine
arithmetic.
-/

namespace GroupScope

/-- A finite double: `(-1) ^ negative * mantissa * 2 ^ exponent`. -/
structure Binary64 where
  /-- The sign; zero has one too. -/
  negative : Bool
  /-- Below `2 ^ 53`, and at least `2 ^ 52` unless the exponent is the least one. -/
  mantissa : Nat
  /-- The exponent of two. -/
  exponent : Int
  deriving DecidableEq, Repr

namespace Binary64

/-- The least exponent of a double; numbers below `2 ^ 52` times this power are subnormal. -/
def minExponent : Int := -1074

/-- The greatest exponent of a finite double. -/
def maxExponent : Int := 971

/-- Positive zero. -/
def zero : Binary64 := ⟨false, 0, minExponent⟩

/-- The magnitude is zero, whatever the sign. -/
def isZero (x : Binary64) : Bool := x.mantissa == 0

/-- The same magnitude with the other sign. -/
def neg (x : Binary64) : Binary64 := { x with negative := !x.negative }

/-- Multiplies the fraction `num / den` by `2 ^ shift`. -/
def scale (num den : Nat) (shift : Int) : Nat × Nat :=
  if 0 ≤ shift then (num * pow2 shift.toNat, den) else (num, den * pow2 (-shift).toNat)

/-- The integer nearest to `num / den`; a half goes to the even neighbour. -/
def roundHalfEven (num den : Nat) : Nat :=
  let quotient := num / den
  let remainder := num % den
  if den < 2 * remainder || (2 * remainder == den && quotient % 2 == 1) then quotient + 1
  else quotient

/-- The exponent `k` with `2 ^ k ≤ num / den < 2 ^ (k + 1)`. -/
def floorLog2 (num den : Nat) : Int :=
  let guess : Int := (num.log2 : Int) - (den.log2 : Int)
  let (n, d) := scale num den (-guess)
  if d ≤ n then guess else guess - 1

/-- The double nearest to `num / den`, or nothing when that is beyond the greatest finite double. -/
def ofFraction (num den : Nat) : Option Binary64 :=
  if num = 0 then some zero
  else
    -- The mantissa gets 53 bits, or fewer where the numbers are subnormal.
    let exponent := max (floorLog2 num den - 52) minExponent
    let (n, d) := scale num den (-exponent)
    let mantissa := roundHalfEven n d
    -- Rounding up may carry into a 54th bit; the mantissa is then a power of two.
    let rounded : Binary64 :=
      if mantissa = pow2 53 then ⟨false, pow2 52, exponent + 1⟩ else ⟨false, mantissa, exponent⟩
    if maxExponent < rounded.exponent then none else some rounded

/-- The magnitude as a fraction. -/
def toFraction (x : Binary64) : Nat × Nat := scale x.mantissa 1 x.exponent

/-- The product of two magnitudes, rounded; nothing on overflow. -/
def mul (x y : Binary64) : Option Binary64 :=
  let (n, d) := scale (x.mantissa * y.mantissa) 1 (x.exponent + y.exponent)
  ofFraction n d

/-- The quotient of two magnitudes, rounded; nothing on overflow. The divisor is not zero. -/
def div (x y : Binary64) : Option Binary64 :=
  let (n, d) := scale x.mantissa y.mantissa (x.exponent - y.exponent)
  ofFraction n d

/-- The whole part of the magnitude. -/
def truncate (x : Binary64) : Nat :=
  let (n, d) := x.toFraction
  n / d

/-- The double nearest to `digits * 10 ^ exponent`, or nothing on overflow. Powers of ten that put
the value outside the range of doubles are never computed: with `size` decimal digits the value lies
below `10 ^ (size + exponent)` and not below a tenth of that. -/
def ofDecimal (digits : Nat) (exponent : Int) : Option Binary64 :=
  let size : Int := (Nat.toDigits 10 digits).length
  if digits = 0 || size + exponent < -330 then some zero
  else if 330 < size + exponent then none
  else if 0 ≤ exponent then ofFraction (digits * pow10 exponent.toNat) 1
  else ofFraction digits (pow10 (-exponent).toNat)

end Binary64

end GroupScope
