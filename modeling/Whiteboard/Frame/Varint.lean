import Whiteboard.Frame.Basic

/-!
# Variable-length integers

A number up to 250 is its own byte. A larger number is a marker byte followed by 2, 4, 8 or 16
bytes, least significant first. Writing picks the shortest form; reading also accepts a longer
one, as long as it is not wider than the type that is read.
-/

namespace Whiteboard.Frame

/-- The low bytes of a number, least significant first. -/
def littleEndian : Nat → Nat → List UInt8
  | 0, _ => []
  | count + 1, n => UInt8.ofNat n :: littleEndian count (n / 256)

/-- The number with the given bytes, least significant first. -/
def ofLittleEndian : List UInt8 → Nat
  | [] => 0
  | b :: rest => b.toNat + 256 * ofLittleEndian rest

namespace Varint

/-- The shortest form of a number. -/
def write (n : Nat) : List UInt8 :=
  if n < 251 then [UInt8.ofNat n]
  else if n < 0x10000 then 251 :: littleEndian 2 n
  else if n < 0x100000000 then 252 :: littleEndian 4 n
  else if n < 0x10000000000000000 then 253 :: littleEndian 8 n
  else 254 :: littleEndian 16 n

/-- Whether a width leaves room for four bytes. -/
def fits32 : Width → Bool
  | .word16 => false
  | .word32 | .word64 | .count => true

/-- Whether a width leaves room for eight bytes. -/
def fits64 : Width → Bool
  | .word16 | .word32 => false
  | .word64 | .count => true

/-- The width that an error names for what is read, given the bytes after the marker. The length
of a byte string goes by the name of a 32-bit number where eight more bytes could be looked at. -/
def namedWidth (width : Width) (following : List UInt8) : Width :=
  match width with
  | .word64 => if (following.take 8).length = 8 then .word32 else .word64
  | .word16 | .word32 | .count => width

/-- What a marker byte asks for: its own value, a number of bytes, or more than the width allows,
which then is an error that names the width by the second argument. -/
def payload (width named : Width) (marker : UInt8) : Except Error (Nat ⊕ Nat) :=
  if marker < 251 then .ok (.inl marker.toNat)
  else if marker = 251 then .ok (.inr 2)
  else if marker = 252 then
    if fits32 width then .ok (.inr 4) else .error (.integerTooWide named .word32)
  else if marker = 253 then
    if fits64 width then .ok (.inr 8) else .error (.integerTooWide named .word64)
  else .error (.integerTooWide named (if marker = 254 then .word128 else .reserved))

/-- A number in any form that is not wider than the given width. -/
def read (width : Width) : Reader Nat := do
  let marker ← byte
  match ← payload width (namedWidth width (← get)) marker with
  | .inl n => return n
  | .inr count => return ofLittleEndian (← take count)

end Varint

end Whiteboard.Frame
