/-!
# Binary floating-point formats

A finite non-negative value of a binary interchange format is `m · 2 ^ q` with a bounded
significand and a bounded exponent. Its bit pattern without the sign is a natural number, and the
patterns are ordered like the values, so rounding can be stated on patterns alone. All arithmetic
here is exact and on `Nat`.

## Main definitions

- `Numeric.Format` — precision and exponent width of a binary format
- `Format.significand`, `Format.exponent` — the value `m · 2 ^ q` that a pattern stands for
- `Format.nearest` — the pattern nearest to a scaled quotient, ties to the even pattern
- `Numeric.divEven` — division rounded to nearest, ties to even
-/

namespace Whiteboard.Numeric

/-- The quotient rounded to the nearest natural number, an exact half going to the even neighbour.
-/
def divEven (num den : Nat) : Nat :=
  let quotient := num / den
  let twice := 2 * (num % den)
  if twice < den then quotient
  else if den < twice then quotient + 1
  else quotient + quotient % 2

/-- The exponent of two below a positive quotient: `2 ^ k ≤ num / den < 2 ^ (k + 1)`. -/
def floorLog2 (num den : Nat) : Int :=
  let estimate : Int := (Nat.log2 num : Int) - (Nat.log2 den : Int)
  if num <<< (-estimate).toNat < den <<< estimate.toNat then estimate - 1 else estimate

/-- A binary interchange format, given by the bits of its significand (the hidden one included)
and the bits of its exponent field. -/
structure Format where
  /-- Bits of the significand, the hidden bit included. -/
  precision : Nat
  /-- Bits of the exponent field. -/
  exponentBits : Nat
  deriving DecidableEq, Repr

namespace Format

/-- The 32-bit format. -/
def single : Format := ⟨24, 8⟩

/-- The 64-bit format. -/
def double : Format := ⟨53, 11⟩

variable (f : Format)

/-- The least normal significand, which is also the number of patterns that share one exponent. -/
def binade : Nat := Nat.pow 2 (f.precision - 1)

/-- The exponent of the subnormal values. -/
def minExponent : Int := 3 - (Nat.pow 2 (f.exponentBits - 1) : Nat) - (f.precision : Int)

/-- The pattern of infinity; the patterns below it are the finite values. -/
def infinity : Nat := (Nat.pow 2 f.exponentBits - 1) * f.binade

/-- The significand `m` of the value `m · 2 ^ q` of a finite pattern. -/
def significand (pattern : Nat) : Nat :=
  if pattern < f.binade then pattern else pattern % f.binade + f.binade

/-- The exponent `q` of the value `m · 2 ^ q` of a finite pattern. -/
def exponent (pattern : Nat) : Int :=
  if pattern < f.binade then f.minExponent else f.minExponent + (pattern / f.binade : Nat) - 1

/-- The pattern nearest to `num / den · 2 ^ scale`, an exact half going to the even pattern. A
value at or past the midpoint above the largest finite value gives `infinity`. -/
def nearest (num den : Nat) (scale : Int) : Nat :=
  if num = 0 then 0
  else
    let lead := floorLog2 num den + scale
    let q := max f.minExponent (lead - ((f.precision : Int) - 1))
    let shift := scale - q
    let m := divEven (num <<< shift.toNat) (den <<< (-shift).toNat)
    min f.infinity ((q - f.minExponent).toNat * f.binade + m)

/-- The product of two finite patterns, rounded. -/
def mul (a b : Nat) : Nat :=
  f.nearest (f.significand a * f.significand b) 1 (f.exponent a + f.exponent b)

/-- The quotient of two finite patterns, the second not zero, rounded. -/
def div (a b : Nat) : Nat :=
  f.nearest (f.significand a) (f.significand b) (f.exponent a - f.exponent b)

/-- The same value in another format, rounded. Infinity stays infinity. -/
def convert (g : Format) (pattern : Nat) : Nat :=
  if pattern < f.infinity then g.nearest (f.significand pattern) 1 (f.exponent pattern)
  else g.infinity

end Format

end Whiteboard.Numeric
