/-!
# Identifiers of 128 bits

Transactions, and objects that are created without a name, are told apart by 128-bit identifiers.
They are written as 32 hexadecimal digits in five groups joined by hyphens.
-/

namespace Whiteboard

/-- An identifier of sixteen bytes. -/
structure Uuid where
  /-- The bytes in the order in which they are written. -/
  bytes : List UInt8
  /-- There are sixteen of them. -/
  size : bytes.length = 16
  deriving DecidableEq

namespace Uuid

/-- The two lower-case hexadecimal digits of a byte. -/
def hexByte (b : UInt8) : List Char := [Nat.digitChar (b.toNat / 16), Nat.digitChar (b.toNat % 16)]

/-- The lengths in bytes of the groups of the hyphenated form. -/
def groups : List Nat := [4, 2, 2, 2, 6]

/-- The digits of bytes in groups of the given lengths, a hyphen between two groups. -/
def groupedDigits : List Nat → List UInt8 → List Char
  | [], _ => []
  | [n], bytes => (bytes.take n).flatMap hexByte
  | n :: more, bytes => (bytes.take n).flatMap hexByte ++ '-' :: groupedDigits more (bytes.drop n)

/-- The hyphenated form in lower case. -/
def toText (id : Uuid) : String := String.ofList (groupedDigits groups id.bytes)

/-- The value of a hexadecimal digit of either case. -/
def hexValue? (c : Char) : Option Nat :=
  if '0' ≤ c ∧ c ≤ '9' then some (c.toNat - '0'.toNat)
  else if 'a' ≤ c ∧ c ≤ 'f' then some (c.toNat - 'a'.toNat + 10)
  else if 'A' ≤ c ∧ c ≤ 'F' then some (c.toNat - 'A'.toNat + 10)
  else none

/-- The first `count` bytes of a text of hexadecimal digits, and what follows them. -/
def readBytes? : Nat → List Char → Option (List UInt8 × List Char)
  | 0, cs => some ([], cs)
  | count + 1, high :: low :: rest => do
    let h ← hexValue? high
    let l ← hexValue? low
    let (bytes, rest) ← readBytes? count rest
    return (UInt8.ofNat (16 * h + l) :: bytes, rest)
  | _ + 1, _ => none

/-- Bytes in groups, a hyphen between two groups. -/
def readGroups? : List Nat → List Char → Option (List UInt8 × List Char)
  | [], cs => some ([], cs)
  | [n], cs => readBytes? n cs
  | n :: more, cs => do
    let (bytes, rest) ← readBytes? n cs
    match rest with
    | '-' :: rest =>
      let (others, rest) ← readGroups? more rest
      return (bytes ++ others, rest)
    | _ => none

/-- The identifier with the given bytes, if there are sixteen. -/
def ofBytes? (bytes : List UInt8) : Option Uuid :=
  if h : bytes.length = 16 then some ⟨bytes, h⟩ else none

/-- Sixteen bytes read in the given groups, with nothing after them. -/
def ofGroups? (groups : List Nat) (cs : List Char) : Option Uuid :=
  match readGroups? groups cs with
  | some (bytes, []) => ofBytes? bytes
  | _ => none

/-- The name under which identifiers go as resource names, in lower case. -/
def urnPrefix : List Char := ['u', 'r', 'n', ':', 'u', 'u', 'i', 'd', ':']

/-- What stands in braces or after the name of identifiers in either case. -/
def enclosed? (cs : List Char) : Option (List Char) :=
  if (cs.take 9).map Char.toLower = urnPrefix then some (cs.drop 9)
  else
    match cs with
    | '{' :: rest => if rest.getLast? = some '}' then some rest.dropLast else none
    | _ => none

/-- The identifier that a text stands for: 32 digits with or without hyphens between the groups,
in either case. The hyphenated form may also stand in braces or after `urn:uuid:`. -/
def ofText? (text : String) : Option Uuid :=
  match enclosed? text.toList with
  | some inner => ofGroups? groups inner
  | none => (ofGroups? groups text.toList).orElse fun _ => ofGroups? [16] text.toList

/-- The `n`-th identifier of a numbered supply with the given label: the label, fixed version and
variant bits, and the low 48 bits of the number. -/
def numbered (label : UInt32) (n : Nat) : Uuid where
  bytes :=
    [.ofNat (label.toNat >>> 24), .ofNat (label.toNat >>> 16), .ofNat (label.toNat >>> 8),
      .ofNat label.toNat, 0, 0, 0x40, 0, 0x80, 0, .ofNat (n >>> 40), .ofNat (n >>> 32),
      .ofNat (n >>> 24), .ofNat (n >>> 16), .ofNat (n >>> 8), .ofNat n]
  size := rfl

end Uuid

/-- A supply of identifiers: a stream of them and how many were drawn. -/
structure IdSource where
  /-- The identifiers in the order in which they are handed out. -/
  stream : Nat → Uuid
  /-- How many were handed out. -/
  drawn : Nat

namespace IdSource

/-- The next identifier, and the supply without it. -/
def draw (ids : IdSource) : Uuid × IdSource :=
  (ids.stream ids.drawn, { ids with drawn := ids.drawn + 1 })

/-- The numbered supply with the given label, from number one. -/
def labelled (label : UInt32) : IdSource := ⟨fun k => Uuid.numbered label (k + 1), 0⟩

end IdSource

end Whiteboard
