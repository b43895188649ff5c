import GroupScope.Number.Binary64
/-!
# The shortest text of a double

A double is written with the fewest decimal digits that read back to it, and of those with the
digits nearest to its value. The numbers that round to a double form an interval around it, whose
ends belong to it when its mantissa is even. For one digit, two digits and so on, the double's two
neighbours on that decimal grid are tested against the interval; the first grid with a hit gives the
digits.
-/

namespace GroupScope.Binary64

/-- Digits and a power of ten: the number `digits * 10 ^ exponent`. -/
structure Digits where
  /-- The decimal digits, without trailing zeros unless the number is zero. -/
  digits : Nat
  /-- The power of ten of the last digit. -/
  exponent : Int
  deriving DecidableEq, Repr

/-- The half-open or closed interval of numbers that round to a double, over a common denominator.
-/
structure Interval where
  low : Nat
  middle : Nat
  high : Nat
  /-- The denominator of all three. -/
  den : Nat
  /-- Both ends belong to the interval. -/
  closed : Bool

/-- The interval of a double that is not zero. Below a power of two the doubles lie twice as dense.
-/
def interval (x : Binary64) : Interval :=
  let quarter (mantissa : Nat) : Nat × Nat := scale mantissa 1 (x.exponent - 2)
  -- All ends are multiples of a quarter of the last place, so the fractions stay exact.
  let narrow := x.mantissa == pow2 52 && minExponent < x.exponent
  let (low, den) := quarter (4 * x.mantissa - (if narrow then 1 else 2))
  { low, den
    middle := (quarter (4 * x.mantissa)).1
    high := (quarter (4 * x.mantissa + 2)).1
    closed := x.mantissa % 2 == 0 }

/-- The number `num / den` lies in the interval. -/
def Interval.contains (i : Interval) (num den : Nat) : Bool :=
  let below := i.low * den
  let here := num * i.den
  let above := i.high * den
  if i.closed then below ≤ here && here ≤ above else below < here && here < above

/-- Tests the neighbours of the middle on the grid of multiples of `10 ^ exponent`. Of two hits the
nearer one is taken, and the even one when both are equally near. -/
def Interval.hit? (i : Interval) (exponent : Int) : Option Nat :=
  -- The middle over one step of the grid; its floor and the next integer are the neighbours.
  let den := if 0 ≤ exponent then i.den * pow10 exponent.toNat else i.den
  let num := if 0 ≤ exponent then i.middle else i.middle * pow10 (-exponent).toNat
  let lower := num / den
  let remainder := num % den
  let inside (n : Nat) : Bool :=
    if 0 ≤ exponent then i.contains (n * pow10 exponent.toNat) 1
    else i.contains n (pow10 (-exponent).toNat)
  match inside lower, inside (lower + 1) with
  | true, true =>
    if 2 * remainder < den || (2 * remainder == den && lower % 2 == 0) then some lower
    else some (lower + 1)
  | true, false => some lower
  | false, true => some (lower + 1)
  | false, false => none

/-- The exponent `k` with `10 ^ k ≤ num / den < 10 ^ (k + 1)`, found from an estimate that may be
one too small. -/
def floorLog10 (num den : Nat) : Int :=
  let estimate : Int := floorLog2 num den * 30103 / 100000
  let reaches (k : Int) : Bool :=
    if 0 ≤ k then den * pow10 k.toNat ≤ num else den ≤ num * pow10 (-k).toNat
  if reaches (estimate + 1) then estimate + 1
  else if reaches estimate then estimate
  else estimate - 1

/-- Tries the grids from `exponent` downwards, at most `count` of them. -/
def Interval.search (i : Interval) : (count : Nat) → (exponent : Int) → Option Digits
  | 0, _ => none
  | count + 1, exponent =>
    match i.hit? exponent with
    | some digits => some ⟨digits, exponent⟩
    | none => i.search count (exponent - 1)

/-- Removes trailing zeros, at most `count` of them. -/
def Digits.strip : (count : Nat) → Digits → Digits
  | 0, d => d
  | count + 1, d =>
    if d.digits ≠ 0 ∧ d.digits % 10 = 0 then strip count ⟨d.digits / 10, d.exponent + 1⟩ else d

/-- The shortest digits that read back to the double; seventeen digits always suffice. -/
def shortest (x : Binary64) : Digits :=
  if x.isZero then ⟨0, 0⟩
  else
    let i := x.interval
    let top := floorLog10 i.middle i.den
    ((i.search 18 top).getD ⟨i.middle / i.den, 0⟩).strip 18

/-- How far the point may lie from the first digit before an exponent is written. -/
structure Layout where
  /-- The least power of ten of the first digit that is written positionally. -/
  leastPositional : Int
  /-- The greatest one. -/
  greatestPositional : Int

/-- Numbers are written positionally from `0.00001` up to sixteen digits before the point. -/
def layout : Layout := ⟨-5, 15⟩

/-- Zeros. -/
private def zeros (count : Nat) : String := String.ofList (List.replicate count '0')

/-- The text of a double. Positional text always shows a fraction; an exponent has its sign and no
leading zeros. -/
def text (x : Binary64) : String :=
  let d := x.shortest
  let digits := Nat.toDigits 10 d.digits
  let lead : Int := d.exponent + digits.length - 1
  let magnitude :=
    if layout.leastPositional ≤ lead ∧ lead ≤ layout.greatestPositional then
      if 0 ≤ d.exponent then String.ofList digits ++ zeros d.exponent.toNat ++ ".0"
      else if 0 ≤ lead then
        let whole := digits.take (lead.toNat + 1)
        String.ofList whole ++ "." ++ String.ofList (digits.drop (lead.toNat + 1))
      else "0." ++ zeros (-lead - 1).toNat ++ String.ofList digits
    else
      let fraction := digits.drop 1
      let mantissa := String.ofList (digits.take 1) ++
        (if fraction.isEmpty then "" else "." ++ String.ofList fraction)
      let sign := if lead < 0 then "-" else "+"
      mantissa ++ "e" ++ sign ++ toString lead.natAbs
  if x.negative then "-" ++ magnitude else magnitude

end GroupScope.Binary64
