import Whiteboard.Text.Unprinted

/-!
# Quoted text

Messages show a string between double quotes, with a backslash before quotes and backslashes,
short escapes for the common controls, and the number of every other character that would not be
seen.
-/

namespace Whiteboard.Text

/-- One character as it stands inside quotes. -/
def quotedChar (c : Char) : List Char :=
  if c = '\x00' then ['\\', '0']
  else if c = '\t' then ['\\', 't']
  else if c = '\r' then ['\\', 'r']
  else if c = '\n' then ['\\', 'n']
  else if c = '"' ∨ c = '\\' then ['\\', c]
  else if isUnprinted c then ['\\', 'u', '{'] ++ Nat.toDigits 16 c.toNat ++ ['}']
  else [c]

/-- A string between double quotes. -/
def quoted (s : String) : String :=
  String.ofList ('"' :: (s.toList.flatMap quotedChar ++ ['"']))

end Whiteboard.Text
