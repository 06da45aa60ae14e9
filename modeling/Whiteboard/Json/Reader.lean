import Whiteboard.Json.Skip

/-!
# Reading JSON by shape

A text is read from left to right straight into the values of a shape; the first problem met
decides the error. Records with named fields may be written as objects, whose unknown fields are
skipped, or as arrays of their fields in order.

## Main definitions

- `Json.Reader` — a step of reading: a value and the text that follows it
- `Json.nextElement`, `Json.nextKey` — the separators of arrays and objects
- `Fields.Slots` — the fields of a record found so far
- `Shape.readJson` — the value at the front of a text
- `Json.parse` — a whole text of a type that has a shape
-/

namespace Whiteboard

namespace Json

/-- A step of reading: from the text left to a value and the text that follows it. -/
abbrev Reader := StateT (List Char) (Except Error)

/-- The text is malformed here. -/
def malformed {α : Type} : Reader α := throw .malformed

/-- A step given by what it reads at the front of the text. -/
def reading {α : Type} (token? : List Char → Option (α × List Char)) : Reader α := fun cs =>
  match token? cs with
  | some result => .ok result
  | none => .error .malformed

/-- A step given by what it leaves of the text. -/
def skipping (rest? : List Char → Option (List Char)) : Reader Unit :=
  reading fun cs => (rest? cs).map fun rest => ((), rest)

/-- The next character that is not blank, which stays where it is. -/
def peek : Reader (Option Char) := fun cs => .ok ((skipBlanks cs).head?, skipBlanks cs)

/-- Passes the next character. -/
def advance : Reader Unit := modify List.tail

/-- Passes blanks and the given character. -/
def symbol (c : Char) : Reader Unit := do
  if (← peek) = some c then advance else malformed

/-- A string at whose opening quote the text stands. -/
def readString : Reader String := do
  advance
  return String.ofList (← reading stringBody?)

/-- A literal word. -/
def word (w : String) : Reader Unit := skipping (afterWord? w.toList)

/-- Whether a character can begin a number. -/
def startsNumber (c : Char) : Bool := c = '-' || c.isDigit

/-- Refuses the value that comes next, which is read to its end if it is a string, a number or a
word. -/
def unexpected {α : Type} (expected : String) : Reader α := do
  match ← peek with
  | none => malformed
  | some c =>
    if c = 'n' then
      word "null"
      throw (.invalidType .null expected)
    else if c = 't' then
      word "true"
      throw (.invalidType (.boolean true) expected)
    else if c = 'f' then
      word "false"
      throw (.invalidType (.boolean false) expected)
    else if startsNumber c then
      let n ← reading number?
      throw (.invalidType (.number n) expected)
    else if c = '"' then
      let s ← readString
      throw (.invalidType (.text s) expected)
    else if c = '[' then throw (.invalidType .sequence expected)
    else if c = '{' then throw (.invalidType .map expected)
    else malformed

/-- A number. -/
def readNumber (expected : String) : Reader Number := do
  match ← peek with
  | some c => if startsNumber c then reading number? else unexpected expected
  | none => malformed

/-- A natural number below a bound. -/
def readNatural (bound : Nat) (expected : String) : Reader Nat := do
  match ← readNumber expected with
  | .integer negative n =>
    if negative || bound ≤ n then throw (.outOfRange negative n expected) else return n
  | .float negative pattern => throw (.invalidType (.number (.float negative pattern)) expected)

/-- A 32-bit floating-point number: the one nearest to an integer, or to the 64-bit number read.
-/
def readSingle (expected : String) : Reader Single := do
  match ← readNumber expected with
  | .integer negative n => return .ofNatural negative n
  | .float negative pattern => return .ofDouble negative pattern

/-- A string, refused with the given expectation if something else stands there. -/
def readText (expected : String) : Reader String := do
  if (← peek) = some '"' then readString else unexpected expected

/-- Whether another element follows in an array. The closing bracket stays where it is. -/
def nextElement (first : Bool) : Reader Bool := do
  match ← peek with
  | none => malformed
  | some c =>
    if c = ']' then return false
    else if first then return true
    else if c = ',' then
      advance
      match ← peek with
      | none => malformed
      | some c => if c = ']' then malformed else return true
    else malformed

/-- All elements of an array up to its closing bracket, of which there are fewer than the given
number. -/
def elements {α : Type} (item : Reader α) : Nat → Bool → Reader (List α)
  | 0, _ => malformed
  | limit + 1, first => do
    if ← nextElement first then
      let a ← item
      return a :: (← elements item limit false)
    else
      advance
      return []

/-- The key of the next entry of an object, if another one follows. The closing brace stays where
it is. -/
def nextKey (first : Bool) : Reader (Option String) := do
  match ← peek with
  | none => malformed
  | some c =>
    if c = '}' then return none
    else if first then
      if c = '"' then return some (← readString) else malformed
    else if c = ',' then
      advance
      if (← peek) = some '"' then return some (← readString) else malformed
    else malformed

/-- All entries of an object up to its closing brace, of which there are fewer than the given
number. -/
def entries {σ : Type} (entry : String → σ → Reader σ) : Nat → Bool → σ → Reader σ
  | 0, _, _ => malformed
  | limit + 1, first, found => do
    match ← nextKey first with
    | none =>
      advance
      return found
    | some key => entries entry limit false (← entry key found)

/-- A bound for the number of elements or entries that the text left can hold. -/
def limit : Reader Nat := fun cs => .ok (cs.length + 1, cs)

end Json

open Json (Reader)

/-- What kind of contents the cases with a value of the shape have. -/
def Shape.contents : Shape → String
  | .record (.keyedCase _ _) _ => "struct variant"
  | .record (.positionalCase _ _) _ => "tuple variant"
  | _ => "newtype variant"

/-- The fields of a record found so far. -/
def Fields.Slots : Fields → Type
  | .nil => Unit
  | .cons _ _ s rest => Option s.Value × rest.Slots

/-- No field found yet. -/
def Fields.noSlots : (fields : Fields) → fields.Slots
  | .nil => ()
  | .cons _ _ _ rest => (none, rest.noSlots)

/-- The record with the fields found, once no more follow. -/
def Fields.complete : (fields : Fields) → fields.Slots → Except Json.Error fields.Value
  | .nil, () => .ok ()
  | .cons name omittable s rest, (slot, slots) => do
    match slot.orElse fun _ => s.absent? omittable with
    | some v => return (v, ← rest.complete slots)
    | none => throw (.missingField name)

/-- What a name that stands alone stands for, if it is the name of a case that carries nothing. -/
def Cases.ofName : (cases : Cases) → Json.Error → String → Except Json.Error cases.Value
  | .nil, unknown, _ => throw unknown
  | .bare name rest, unknown, found =>
    if found = name then return .inl () else return .inr (← rest.ofName unknown found)
  | .carrying name s rest, unknown, found =>
    if found = name then throw (.bareCase s.contents)
    else return .inr (← rest.ofName unknown found)

mutual

/-- The value at the front of the text. -/
def Shape.readJson : (s : Shape) → Reader s.Value
  | .word16 => do return UInt16.ofNat (← Json.readNatural 0x10000 "u16")
  | .word32 => do return UInt32.ofNat (← Json.readNatural 0x100000000 "u32")
  | .single => Json.readSingle "f32"
  | .text => Json.readText "a string"
  | .uuid => do
    match Uuid.ofText? (← Json.readText "a formatted UUID string") with
    | some id => return (id : Uuid)
    | none => throw .badUuid
  | .optional s => do
    if (← Json.peek) = some 'n' then
      Json.word "null"
      return (none : Option _)
    else return some (← s.readJson)
  | .list s => do
    if (← Json.peek) = some '[' then
      Json.advance
      Json.elements s.readJson (← Json.limit) true
    else Json.unexpected "a sequence"
  | .record title fields => do
    let next ← Json.peek
    if next = some '[' then
      Json.advance
      let v ← fields.readElements (fun index => .tooShort index title fields.count) 0 true
      Json.symbol ']'
      return v
    else if next = some '{' ∧ title.byName then
      Json.advance
      let entry := fun key slots => fields.readEntry key slots
      let slots ← Json.entries entry (← Json.limit) true fields.noSlots
      fields.complete slots
    else Json.unexpected title.text
  | .choice cases => do
    let next ← Json.peek
    if next = some '{' then
      Json.advance
      if (← Json.peek) = some '"' then
        let name ← Json.readString
        let v ← cases.readJson (.unknownCase name cases.names) name
        Json.symbol '}'
        return v
      else Json.malformed
    else if next = some '"' then
      let name ← Json.readString
      cases.ofName (.unknownCase name cases.names) name
    else Json.malformed

/-- The fields of a record written as an array, up to its closing bracket. The error is for an
array that ends before the field with the given index. -/
def Fields.readElements :
    (fields : Fields) → (Nat → Json.Error) → Nat → Bool → Reader fields.Value
  | .nil, _, _, _ => pure ()
  | .cons _ omittable s rest, tooShort, index, first => do
    if ← Json.nextElement first then
      let v ← s.readJson
      return (v, ← rest.readElements tooShort (index + 1) false)
    else
      match if omittable then s.empty? else none with
      | some v => return (v, ← rest.readElements tooShort (index + 1) first)
      | none => throw (tooShort index)

/-- The rest of an entry whose key was read: the value of a field that was not found before, or
any value if no field has this name. -/
def Fields.readEntry : (fields : Fields) → String → fields.Slots → Reader fields.Slots
  | .nil, _, () => do
    Json.symbol ':'
    Json.skipping Json.skipValue?
  | .cons name _ s rest, key, (slot, slots) => do
    if key = name then
      if slot.isSome then throw (.duplicateField name)
      else
        Json.symbol ':'
        return (some (← s.readJson), slots)
    else return (slot, ← rest.readEntry key slots)

/-- What the case with the given name carries. -/
def Cases.readJson : (cases : Cases) → Json.Error → String → Reader cases.Value
  | .nil, unknown, _ => throw unknown
  | .bare name rest, unknown, found => do
    if found = name then
      Json.symbol ':'
      if (← Json.peek) = some 'n' then
        Json.word "null"
        return .inl ()
      else Json.unexpected "unit"
    else return .inr (← rest.readJson unknown found)
  | .carrying name s rest, unknown, found => do
    if found = name then
      Json.symbol ':'
      return .inl (← s.readJson)
    else return .inr (← rest.readJson unknown found)

end

namespace Json

variable {α : Type} [HasShape α]

/-- Reads a whole text: only blanks may follow the value. -/
def readAll {β : Type} (item : Reader β) (text : String) : Except Error β := do
  let (b, rest) ← item.run text.toList
  if (skipBlanks rest).isEmpty then return b else throw .malformed

/-- The message of a JSON text. -/
def parse (text : String) : Except Error α := do
  return HasShape.ofValue (← readAll (HasShape.shape α).readJson text)

end Json

end Whiteboard
