import Whiteboard.Numeric.Notation

/-!
# Single-precision numbers

Coordinates and numeric properties are 32-bit floating-point numbers. They are kept as their bits,
so that two of them are equal exactly when they are the same on the wire: signed zeros and the
payloads of NaNs count.
-/

namespace Whiteboard

/-- A 32-bit floating-point number, given by its bits. -/
structure Single where
  /-- Sign, exponent and fraction, from the highest bit down. -/
  bits : UInt32
  deriving DecidableEq, Repr, Inhabited

namespace Single

open Numeric

/-- The value of the sign bit. -/
def signPlace : Nat := 0x80000000

/-- Whether the sign bit is set. -/
def negative (x : Single) : Bool := signPlace ≤ x.bits.toNat

/-- The bits below the sign. -/
def magnitude (x : Single) : Nat := x.bits.toNat % signPlace

/-- Whether the number is neither infinite nor NaN. -/
def isFinite (x : Single) : Bool := x.magnitude < Format.single.infinity

/-- Whether the number is a NaN. -/
def isNaN (x : Single) : Bool := Format.single.infinity < x.magnitude

/-- The number with the given sign and pattern. -/
def ofPattern (negative : Bool) (pattern : Nat) : Single :=
  ⟨UInt32.ofNat (pattern + if negative then signPlace else 0)⟩

/-- The number nearest to a signed natural number. -/
def ofNatural (negative : Bool) (n : Nat) : Single :=
  ofPattern negative (Format.single.nearest n 1 0)

/-- The number nearest to a finite 64-bit number given by sign and pattern. -/
def ofDouble (negative : Bool) (pattern : Nat) : Single :=
  ofPattern negative (Format.double.convert Format.single pattern)

/-- A finite number in a layout. -/
def render (layout : Layout) (x : Single) : List Char :=
  Format.single.render layout x.negative x.magnitude

end Single

end Whiteboard
