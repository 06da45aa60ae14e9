import Whiteboard.Frame.Varint
import Whiteboard.Shape

/-!
# The frame format

A value is written by its shape: numbers as variable-length integers, floating-point numbers as
four bytes, strings and identifiers as a length and bytes, lists as a length and elements,
optional values after a byte zero or one, records as their fields in order, and choices as the
number of the case followed by what it carries.
-/

namespace Whiteboard

open Whiteboard.Frame

/-- The length of a byte string and the bytes. -/
def Frame.writeBytes (bytes : List UInt8) : List UInt8 := Varint.write bytes.length ++ bytes

/-- A byte string after its length. -/
def Frame.readBytes : Reader (List UInt8) := do take (← Varint.read .word64)

/-- The bytes of a string after their length, for which there must be a buffer before they are
read. -/
def Frame.readBuffer : Reader (List UInt8) := do
  let length ← Varint.read .word64
  if memoryLimit ≤ length then throw .overlong
  take length

mutual

/-- The bytes of a value. -/
def Shape.write : (s : Shape) → s.Value → List UInt8
  | .word16, (n : UInt16) => Varint.write n.toNat
  | .word32, (n : UInt32) => Varint.write n.toNat
  | .single, (x : Single) => littleEndian 4 x.bits.toNat
  | .text, (t : String) => writeBytes (Text.utf8Bytes t)
  | .uuid, (id : Uuid) => writeBytes id.bytes
  | .optional _, (none : Option _) => [0]
  | .optional s, some v => 1 :: s.write v
  | .list s, (vs : List _) => Varint.write vs.length ++ vs.flatMap s.write
  | .record _ fields, v => fields.write v
  | .choice cases, v => cases.write 0 v

/-- The bytes of all fields, in order. -/
def Fields.write : (fields : Fields) → fields.Value → List UInt8
  | .nil, _ => []
  | .cons _ _ s rest, (v, vs) => s.write v ++ rest.write vs

/-- The number of a case and the bytes of what it carries. The first case of the list has the
given number. -/
def Cases.write : (cases : Cases) → Nat → cases.Value → List UInt8
  | .bare _ _, index, .inl () => Varint.write index
  | .bare _ rest, index, .inr v => rest.write (index + 1) v
  | .carrying _ s _, index, .inl v => Varint.write index ++ s.write v
  | .carrying _ _ rest, index, .inr v => rest.write (index + 1) v

end

mutual

/-- The value at the front of the bytes. -/
def Shape.read : (s : Shape) → Reader s.Value
  | .word16 => do return UInt16.ofNat (← Varint.read .word16)
  | .word32 => do return UInt32.ofNat (← Varint.read .word32)
  | .single => do return Single.mk (UInt32.ofNat (ofLittleEndian (← take 4)))
  | .text => do
    match Text.ofUtf8 (← readBuffer) with
    | .ok t => return (t : String)
    | .error fault => throw (.utf8 fault)
  | .uuid => do
    let bytes ← readBytes
    match Uuid.ofBytes? bytes with
    | some id => return (id : Uuid)
    | none => throw (.badUuid bytes.length)
  | .optional s => do
    let presence ← byte
    if presence = 0 then return (none : Option _)
    else if presence = 1 then return some (← s.read)
    else throw (.badPresence presence)
  | .list s => do times s.read (← Varint.read .count)
  | .record _ fields => fields.read
  | .choice cases => do
    let index ← Varint.read .word32
    cases.read (.unknownCase index cases.names.length) index

/-- All fields, in order. -/
def Fields.read : (fields : Fields) → Reader fields.Value
  | .nil => pure ()
  | .cons _ _ s rest => do return (← s.read, ← rest.read)

/-- What the case with the given number carries, or the given error if there is no such case. -/
def Cases.read : (cases : Cases) → Error → Nat → Reader cases.Value
  | .nil, unknown, _ => throw unknown
  | .bare _ _, _, 0 => pure (.inl ())
  | .bare _ rest, unknown, index + 1 => do return .inr (← rest.read unknown index)
  | .carrying _ s _, _, 0 => do return .inl (← s.read)
  | .carrying _ _ rest, unknown, index + 1 => do return .inr (← rest.read unknown index)

end

namespace Frame

variable {α : Type} [HasShape α]

/-- The frame of a message. -/
def encode (a : α) : Frame := (HasShape.shape α).write (HasShape.toValue a)

/-- The message of a frame. -/
def decode (frame : Frame) : Except Error α := do
  return HasShape.ofValue (← readAll (HasShape.shape α).read frame)

end Frame

end Whiteboard
