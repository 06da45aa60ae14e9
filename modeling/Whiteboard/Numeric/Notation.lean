import Whiteboard.Numeric.Shortest

/-!
# Written forms of floating-point numbers

A decimal is written positionally while its exponent is moderate and with an exponent part
otherwise. Where the change happens, whether a positive exponent carries a sign and which way a
tie goes are choices of each text format, so they are fields of the record `Layout`.
-/

namespace Whiteboard.Numeric

/-- How a format writes decimals. -/
structure Layout where
  /-- Least exponent written positionally. -/
  lowest : Int
  /-- Greatest exponent written positionally. -/
  highest : Int
  /-- Whether an exponent that is not negative is written with a plus sign. -/
  plusSign : Bool
  /-- Which of two equally near decimals is written. -/
  tie : Tie
  deriving DecidableEq, Repr

/-- The digits as characters. -/
def digitChars (ds : List Nat) : List Char := ds.map Nat.digitChar

/-- Positional form, always with a point and at least one digit on either side of it. -/
def Decimal.positional (d : Decimal) : List Char :=
  let chars := digitChars d.digits
  if d.exponent < 0 then
    '0' :: '.' :: (List.replicate (-d.exponent - 1).toNat '0' ++ chars)
  else
    let whole := d.exponent.toNat + 1
    let fraction := chars.drop whole
    chars.take whole ++ List.replicate (whole - chars.length) '0' ++
      '.' :: (if fraction.isEmpty then ['0'] else fraction)

/-- Form with an exponent part: one digit, a point if more digits follow, and the exponent. -/
def Decimal.exponential (d : Decimal) (plusSign : Bool) : List Char :=
  let mantissa :=
    match digitChars d.digits with
    | [] => ['0']
    | [c] => [c]
    | c :: rest => c :: '.' :: rest
  let sign := if d.exponent < 0 then ['-'] else if plusSign then ['+'] else []
  mantissa ++ 'e' :: (sign ++ Nat.toDigits 10 d.exponent.natAbs)

/-- A positive decimal in the given layout. -/
def Decimal.render (d : Decimal) (layout : Layout) : List Char :=
  if layout.lowest ≤ d.exponent ∧ d.exponent ≤ layout.highest then d.positional
  else d.exponential layout.plusSign

/-- A finite pattern with its sign, by its shortest decimal. Zero is written `0.0` and keeps its
sign. -/
def Format.render (f : Format) (layout : Layout) (negative : Bool) (pattern : Nat) : List Char :=
  (if negative then ['-'] else []) ++
    if pattern = 0 then ['0', '.', '0'] else (f.shortest layout.tie pattern).render layout

end Whiteboard.Numeric
