/-!
# UTF-8

A string travels as its UTF-8 bytes. Reading them back either gives the string or the place of the
first fault: how many bytes before it are well formed, and how long the ill-formed part is, which
is the longest run of bytes that could still have begun a character. The run has no length if the
bytes end inside a character.
-/

namespace Whiteboard.Text

/-- The UTF-8 bytes of a string. -/
def utf8Bytes (s : String) : List UInt8 := s.toUTF8.data.toList

/-- The place where bytes stop being well formed. -/
structure Utf8Fault where
  /-- Number of well-formed bytes before the fault. -/
  validUpTo : Nat
  /-- Length of the ill-formed part, or nothing if the bytes end inside a character. -/
  length? : Option Nat
  deriving DecidableEq, Repr

/-- The bounds of the bytes that must follow a first byte, or nothing if no character begins with
it. The narrower second-byte bounds keep out overlong forms, surrogates and numbers past the last
code point. -/
def continuations? (lead : UInt8) : Option (List (UInt8 × UInt8)) :=
  if lead < 0x80 then some []
  else if lead < 0xC2 then none
  else if lead < 0xE0 then some [(0x80, 0xBF)]
  else if lead = 0xE0 then some [(0xA0, 0xBF), (0x80, 0xBF)]
  else if lead = 0xED then some [(0x80, 0x9F), (0x80, 0xBF)]
  else if lead < 0xF0 then some [(0x80, 0xBF), (0x80, 0xBF)]
  else if lead = 0xF0 then some [(0x90, 0xBF), (0x80, 0xBF), (0x80, 0xBF)]
  else if lead < 0xF4 then some [(0x80, 0xBF), (0x80, 0xBF), (0x80, 0xBF)]
  else if lead = 0xF4 then some [(0x80, 0x8F), (0x80, 0xBF), (0x80, 0xBF)]
  else none

/-- The first fault of a byte string. `start` counts the well-formed bytes so far, `seen` the
bytes of the character being read, and `expected` holds the bounds of the bytes it still needs. -/
def scanUtf8 (start seen : Nat) (expected : List (UInt8 × UInt8)) : List UInt8 → Utf8Fault
  | [] => ⟨start, none⟩
  | b :: rest =>
    match expected with
    | [] =>
      match continuations? b with
      | none => ⟨start, some 1⟩
      | some [] => scanUtf8 (start + 1) 0 [] rest
      | some bounds => scanUtf8 start 1 bounds rest
    | (low, high) :: more =>
      if low ≤ b ∧ b ≤ high then
        if more.isEmpty then scanUtf8 (start + seen + 1) 0 [] rest
        else scanUtf8 start (seen + 1) more rest
      else ⟨start, some seen⟩

/-- The string with the given UTF-8 bytes, or the first fault in them. -/
def ofUtf8 (bytes : List UInt8) : Except Utf8Fault String :=
  match String.fromUTF8? ⟨bytes.toArray⟩ with
  | some s => .ok s
  | none => .error (scanUtf8 0 0 [] bytes)

/-- Reading the bytes of a string gives the string back. -/
theorem ofUtf8_utf8Bytes (s : String) : ofUtf8 (utf8Bytes s) = .ok s := by
  have h : (⟨(utf8Bytes s).toArray⟩ : ByteArray) = s.toUTF8 := by simp [utf8Bytes]
  simp only [ofUtf8, h, String.fromUTF8?, String.toUTF8]
  rw [dif_pos s.isValidUTF8]
  rfl

/-- Bytes that read as a string are the bytes of that string. -/
theorem utf8Bytes_of_ofUtf8 {bytes : List UInt8} {s : String} (h : ofUtf8 bytes = .ok s) :
    utf8Bytes s = bytes := by
  unfold ofUtf8 at h
  split at h
  · rename_i t ht
    obtain rfl : t = s := by simpa using h
    unfold String.fromUTF8? at ht
    split at ht
    · simp only [Option.some.injEq] at ht
      subst ht
      rfl
    · simp at ht
  · simp at h

end Whiteboard.Text
