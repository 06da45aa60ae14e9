import Whiteboard.Fault
import Whiteboard.Text.Utf8

/-!
# Frames and how reading them fails

A frame is a byte string that holds one message. Reading goes from left to right, and the first
problem met is the one reported.
-/

namespace Whiteboard

/-- The bytes of one message. -/
abbrev Frame := List UInt8

namespace Frame

/-- What a variable-length integer is read for. -/
inductive Width
  /-- A 16-bit number. -/
  | word16
  /-- A 32-bit number, also the number of a case. -/
  | word32
  /-- The length of a byte string. -/
  | word64
  /-- The length of a list. -/
  | count
  deriving DecidableEq, Repr

/-- The name of a width in messages. -/
def Width.name : Width → String
  | .word16 => "U16"
  | .word32 => "U32"
  | .word64 => "U64"
  | .count => "Usize"

/-- A length marker that is too wide for what is read. -/
inductive Marker
  /-- Four bytes follow. -/
  | word32
  /-- Eight bytes follow. -/
  | word64
  /-- Sixteen bytes follow. -/
  | word128
  /-- The marker without a meaning. -/
  | reserved
  deriving DecidableEq, Repr

/-- The name of a marker in messages. -/
def Marker.name : Marker → String
  | .word32 => "U32"
  | .word64 => "U64"
  | .word128 => "U128"
  | .reserved => "Reserved"

/-- Why a frame cannot be read. -/
inductive Error
  /-- A read needed more bytes than were left. -/
  | unexpectedEnd (additional : Nat)
  /-- An integer is written wider than its type. -/
  | integerTooWide (expected : Width) (found : Marker)
  /-- The bytes of a string are not UTF-8. -/
  | utf8 (fault : Text.Utf8Fault)
  /-- The byte before an optional value is neither zero nor one. -/
  | badPresence (found : UInt8)
  /-- A choice has no case with this number. -/
  | unknownCase (index count : Nat)
  /-- The bytes of an identifier are not sixteen but so many. -/
  | badUuid (found : Nat)
  /-- A string is said to be longer than any buffer. -/
  | overlong
  /-- Bytes follow the message. -/
  | trailing (count : Nat)
  deriving DecidableEq, Repr

/-- The wording of an error. -/
def Error.message : Error → String
  | .unexpectedEnd additional => "UnexpectedEnd \x7b additional: " ++ toString additional ++ " \x7d"
  | .integerTooWide expected found =>
    "InvalidIntegerType \x7b expected: " ++ expected.name ++ ", found: " ++ found.name ++ " \x7d"
  | .utf8 fault =>
    let length :=
      match fault.length? with
      | some n => "Some(" ++ toString n ++ ")"
      | none => "None"
    "Utf8 \x7b inner: Utf8Error \x7b valid_up_to: " ++ toString fault.validUpTo ++
      ", error_len: " ++ length ++ " \x7d \x7d"
  | .badPresence found =>
    "UnexpectedVariant \x7b type_name: \"Option<T>\", allowed: Range \x7b min: 0, max: 1 \x7d" ++
      ", found: " ++ toString found.toNat ++ " \x7d"
  | .unknownCase index count =>
    "OtherString(\"invalid value: integer `" ++ toString index ++
      "`, expected variant index 0 <= i < " ++ toString count ++ "\")"
  | .badUuid found =>
    "OtherString(\"UUID parsing failed: invalid length: expected 16 bytes, found " ++
      toString found ++ "\")"
  | .overlong => Fault.overflow.message
  | .trailing count => toString count ++ " trailing bytes after frame"

/-- A step of reading: from the bytes left to a value and the bytes that follow it. -/
abbrev Reader := StateT (List UInt8) (Except Error)

/-- The next `n` bytes, taken together or not at all. -/
def take (n : Nat) : Reader (List UInt8) := fun bytes =>
  let taken := bytes.take n
  if taken.length = n then .ok (taken, bytes.drop n)
  else .error (.unexpectedEnd (n - taken.length))

/-- The next byte. -/
def byte : Reader UInt8
  | [] => .error (.unexpectedEnd 1)
  | b :: rest => .ok (b, rest)

/-- The same reading step a number of times. -/
def times {α : Type} (item : Reader α) : Nat → Reader (List α)
  | 0 => pure []
  | n + 1 => do return (← item) :: (← times item n)

/-- Reads a whole frame: nothing may follow the value. -/
def readAll {α : Type} (item : Reader α) (frame : Frame) : Except Error α := do
  match ← item.run frame with
  | (a, []) => return a
  | (_, rest) => throw (.trailing rest.length)

end Frame

end Whiteboard
