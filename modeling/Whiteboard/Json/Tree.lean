import Whiteboard.Numeric.Single

/-!
# JSON values and their texts

The JSON view of a message is a tree, which is written without spaces or, for people, with two
spaces per level. Objects keep the order of their entries.
-/

namespace Whiteboard

/-- A JSON value. Numbers are natural numbers or finite floating-point numbers. -/
inductive Json
  /-- The null value. -/
  | null
  /-- A truth value. -/
  | boolean (b : Bool)
  /-- A natural number. -/
  | natural (n : Nat)
  /-- A floating-point number. -/
  | single (x : Single)
  /-- A string. -/
  | text (s : String)
  /-- An array. -/
  | array (items : List Json)
  /-- An object, with its entries in order. -/
  | object (entries : List (String × Json))

namespace Json

/-- Floating-point numbers are written positionally from the millionths up to twelve digits after
the first, and a tie goes to the even digit. -/
def layout : Numeric.Layout := ⟨-6, 12, true, .even⟩

/-- One character as it stands between quotes. -/
def escapedChar (c : Char) : List Char :=
  if c = '"' ∨ c = '\\' then ['\\', c]
  else if c = '\x08' then ['\\', 'b']
  else if c = '\t' then ['\\', 't']
  else if c = '\n' then ['\\', 'n']
  else if c = '\x0c' then ['\\', 'f']
  else if c = '\r' then ['\\', 'r']
  else if c.toNat < 32 then
    ['\\', 'u', '0', '0', Nat.digitChar (c.toNat / 16), Nat.digitChar (c.toNat % 16)]
  else [c]

/-- A string as it stands between quotes. -/
def escaped (s : String) : List Char := s.toList.flatMap escapedChar

/-- A truth value as a word. -/
def booleanText (b : Bool) : List Char :=
  if b then ['t', 'r', 'u', 'e'] else ['f', 'a', 'l', 's', 'e']

/-- A string with its quotes. -/
def quotedText (s : String) : List Char := '"' :: (escaped s ++ ['"'])

mutual

/-- The text without spaces. -/
def compact : Json → List Char
  | .null => ['n', 'u', 'l', 'l']
  | .boolean b => booleanText b
  | .natural n => Nat.toDigits 10 n
  | .single x => x.render layout
  | .text s => quotedText s
  | .array items => '[' :: compactItems items
  | .object entries => '{' :: compactEntries entries

/-- The items of an array up to its closing bracket. -/
def compactItems : List Json → List Char
  | [] => [']']
  | [item] => item.compact ++ [']']
  | item :: rest => item.compact ++ ',' :: compactItems rest

/-- The entries of an object up to its closing brace. -/
def compactEntries : List (String × Json) → List Char
  | [] => ['}']
  | [(key, value)] => quotedText key ++ ':' :: (value.compact ++ ['}'])
  | (key, value) :: rest => quotedText key ++ ':' :: (value.compact ++ ',' :: compactEntries rest)

end

/-- A new line, indented to the given level. -/
def newLine (level : Nat) : List Char := '\n' :: List.replicate (2 * level) ' '

mutual

/-- The text on several lines, inside the given number of brackets. An empty array or object stays
on its line. -/
def indented (level : Nat) : Json → List Char
  | .array [] => ['[', ']']
  | .array items => '[' :: indentedItems level items
  | .object [] => ['{', '}']
  | .object entries => '{' :: indentedEntries level entries
  | .null => ['n', 'u', 'l', 'l']
  | .boolean b => booleanText b
  | .natural n => Nat.toDigits 10 n
  | .single x => x.render layout
  | .text s => quotedText s

/-- The items of an array, each on its own line, up to its closing bracket. -/
def indentedItems (level : Nat) : List Json → List Char
  | [] => newLine level ++ [']']
  | [item] => newLine (level + 1) ++ item.indented (level + 1) ++ newLine level ++ [']']
  | item :: rest =>
    newLine (level + 1) ++ item.indented (level + 1) ++ ',' :: indentedItems level rest

/-- The entries of an object, each on its own line, up to its closing brace. -/
def indentedEntries (level : Nat) : List (String × Json) → List Char
  | [] => newLine level ++ ['}']
  | [(key, value)] =>
    newLine (level + 1) ++ quotedText key ++
      ':' :: ' ' :: (value.indented (level + 1) ++ newLine level ++ ['}'])
  | (key, value) :: rest =>
    newLine (level + 1) ++ quotedText key ++
      ':' :: ' ' :: (value.indented (level + 1) ++ ',' :: indentedEntries level rest)

end

end Json

end Whiteboard
