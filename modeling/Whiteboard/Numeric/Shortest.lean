import Whiteboard.Numeric.Binary

/-!
# Shortest decimal digits

The decimal numbers that round to a finite pattern form an interval around its value. This module
finds the fewest digits with which a decimal lies in that interval, and among the decimals with so
few digits the one nearest to the value. The value may lie halfway between two of them; which one
is taken then is left to the caller. Everything is decided by comparing natural numbers.
-/

namespace Whiteboard.Numeric

/-- A positive decimal: its digits from the first that is not zero, and the decimal exponent of
that digit. -/
structure Decimal where
  /-- Digits, most significant first. -/
  digits : List Nat
  /-- Decimal exponent of the first digit. -/
  exponent : Int
  deriving DecidableEq, Repr

/-- Which of two neighbouring decimals is taken for a value halfway between them. -/
inductive Tie
  /-- The one whose last digit is even. -/
  | even
  /-- The one farther from zero. -/
  | away
  deriving DecidableEq, Repr

/-- The reals that round to a value, in units of `2 ^ scale`: from `low` to `high` around `value`.
The ends belong to the interval when `closed` holds. -/
structure Interval where
  /-- Lower end. -/
  low : Nat
  /-- The value itself. -/
  value : Nat
  /-- Upper end. -/
  high : Nat
  /-- Exponent of the unit in which the three are counted. -/
  scale : Int
  /-- Whether a number at one of the ends still rounds to the value. -/
  closed : Bool
  deriving DecidableEq, Repr

/-- The interval of a positive finite pattern. The gap below a power of two is half the gap above
it, except at the least exponent; the ends round to the value when its significand is even. -/
def Format.interval (f : Format) (pattern : Nat) : Interval :=
  let m := f.significand pattern
  let narrow := m = f.binade ∧ f.minExponent < f.exponent pattern
  { low := if narrow then 4 * m - 1 else 4 * m - 2
    value := 4 * m
    high := 4 * m + 2
    scale := f.exponent pattern - 2
    closed := m % 2 = 0 }

/-- Whether `a / b` counted in the interval's unit lies in the interval. -/
def Interval.contains (i : Interval) (a b : Nat) : Bool :=
  if i.closed then i.low * b ≤ a && a ≤ i.high * b else i.low * b < a && a < i.high * b

/-- The largest `e` with `10 ^ e ≤ num / den`, searched downwards from `start` for at most the
given number of steps. -/
def floorLog10From (num den : Nat) : Nat → Int → Int
  | 0, start => start
  | steps + 1, start =>
    if den * Nat.pow 10 start.toNat ≤ num * Nat.pow 10 (-start).toNat then start
    else floorLog10From num den steps (start - 1)

/-- The exponent of ten below a positive quotient. The common logarithm of two is just below
`0.30103`, so the search starts at an upper bound that is at most two too large. -/
def floorLog10 (num den : Nat) : Int :=
  floorLog10From num den 4 ((floorLog2 num den + 1) * 30103 / 100000 + 1)

/-- The digits of a number without its trailing zeros. -/
def significantDigits (n : Nat) : List Nat :=
  (((Nat.toDigits 10 n).map fun c => c.toNat - '0'.toNat).reverse.dropWhile (· = 0)).reverse

/-- The decimal with value `n · 10 ^ place`. -/
def Decimal.ofScaled (n : Nat) (place : Int) : Decimal :=
  { digits := significantDigits n
    exponent := place + ((Nat.toDigits 10 n).length : Int) - 1 }

/-- Whether a value halfway between `n` and `n + 1` goes to the latter. -/
def Tie.goesUp (tie : Tie) (n : Nat) : Bool :=
  match tie with
  | .even => n % 2 = 1
  | .away => true

/-- The decimal of an interval on the grid of multiples of `10 ^ place`, if one of the two grid
points next to the value lies in the interval: the nearer one if both do, and of two equally near
ones the one that the tie rule takes. -/
def Interval.onGrid? (tie : Tie) (i : Interval) (place : Int) : Option Decimal :=
  -- One grid step is `stepNum / stepDen` units of the interval.
  let stepNum := Nat.pow 10 place.toNat * Nat.pow 2 (-i.scale).toNat
  let stepDen := Nat.pow 10 (-place).toNat * Nat.pow 2 i.scale.toNat
  let scaled := i.value * stepDen
  let below := scaled / stepNum
  let within (n : Nat) : Bool := i.contains (n * stepNum) stepDen
  let twice := 2 * (scaled % stepNum)
  if within below && within (below + 1) then
    let up := stepNum < twice ∨ (twice = stepNum ∧ tie.goesUp below)
    some (.ofScaled (if up then below + 1 else below) place)
  else if within below then some (.ofScaled below place)
  else if within (below + 1) then some (.ofScaled (below + 1) place)
  else none

/-- The first hit on the grids of multiples of `10 ^ place`, `10 ^ (place - 1)`, …. -/
def Interval.firstHit (tie : Tie) (i : Interval) : Nat → Int → Decimal
  | 0, place => .ofScaled i.value place
  | attempts + 1, place =>
    match i.onGrid? tie place with
    | some d => d
    | none => i.firstHit tie attempts (place - 1)

/-- The shortest decimal that rounds to a positive finite pattern. Seventeen digits are enough for
every pattern of 53 bits. -/
def Format.shortest (f : Format) (tie : Tie) (pattern : Nat) : Decimal :=
  let i := f.interval pattern
  let exponent := floorLog10 (i.value * Nat.pow 2 i.scale.toNat) (Nat.pow 2 (-i.scale).toNat)
  i.firstHit tie 17 exponent

end Whiteboard.Numeric
