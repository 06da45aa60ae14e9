import Whiteboard.Json.Lexer

/-!
# Skipping a value

Fields that a record does not know are passed over: their values have to be JSON, but may nest to
any depth, and neither the size of their numbers nor the pairing of their surrogates is looked at.
The open brackets are kept in a list, innermost first, so that skipping is a loop.
-/

namespace Whiteboard.Json

/-- What follows the closing quote of a string whose opening quote was read. -/
def skipString? : List Char → Option (List Char)
  | [] => none
  | '"' :: rest => some rest
  | '\\' :: 'u' :: a :: b :: c :: d :: rest =>
    if (codeUnit? a b c d).isSome then skipString? rest else none
  | '\\' :: c :: rest => if (shortEscape? c).isSome then skipString? rest else none
  | c :: rest => if c.toNat < 32 ∨ c = '\\' then none else skipString? rest

/-- What follows at least one digit. -/
def skipDigits? (cs : List Char) : Option (List Char) :=
  if (cs.takeWhile Char.isDigit).isEmpty then none else some (cs.dropWhile Char.isDigit)

/-- What follows an exponent part, if there is one. -/
def skipExponent? : List Char → Option (List Char)
  | 'e' :: rest | 'E' :: rest =>
    match rest with
    | '+' :: rest | '-' :: rest => skipDigits? rest
    | _ => skipDigits? rest
  | cs => some cs

/-- What follows a number. -/
def skipNumber? (cs : List Char) : Option (List Char) :=
  let unsigned :=
    match cs with
    | '-' :: rest => rest
    | _ => cs
  match unsigned.takeWhile Char.isDigit with
  | [] => none
  | '0' :: _ :: _ => none
  | _ =>
    match unsigned.dropWhile Char.isDigit with
    | '.' :: rest => skipDigits? rest >>= skipExponent?
    | rest => skipExponent? rest

/-- What follows a value that is not an array or object. -/
def skipScalar? : List Char → Option (List Char)
  | '"' :: rest => skipString? rest
  | 'n' :: rest => afterWord? ['u', 'l', 'l'] rest
  | 't' :: rest => afterWord? ['r', 'u', 'e'] rest
  | 'f' :: rest => afterWord? ['a', 'l', 's', 'e'] rest
  | cs => skipNumber? cs

/-- The kinds of brackets. -/
inductive Bracket
  /-- Square brackets. -/
  | array
  /-- Braces. -/
  | object
  deriving DecidableEq, Repr

/-- What follows the key of an entry and its colon. -/
def skipKey? (cs : List Char) : Option (List Char) :=
  match skipBlanks cs with
  | '"' :: rest => do
    match skipBlanks (← skipString? rest) with
    | ':' :: rest => some rest
    | _ => none
  | _ => none

/-- The place where skipping stands. -/
inductive SkipState
  /-- A value comes next. -/
  | value
  /-- A value has just ended. -/
  | ended
  deriving DecidableEq, Repr

/-- One step of skipping with the given brackets open, or the rest of the text when the outermost
value has ended. -/
def skipStep? (state : SkipState) (opened : List Bracket) (cs : List Char) :
    Option (List Char ⊕ (SkipState × List Bracket × List Char)) :=
  match state, opened with
  | .ended, [] => some (.inl cs)
  | .ended, .array :: outer =>
    match skipBlanks cs with
    | ',' :: rest => some (.inr (.value, opened, rest))
    | ']' :: rest => some (.inr (.ended, outer, rest))
    | _ => none
  | .ended, .object :: outer =>
    match skipBlanks cs with
    | ',' :: rest => (skipKey? rest).map fun rest => .inr (.value, opened, rest)
    | '}' :: rest => some (.inr (.ended, outer, rest))
    | _ => none
  | .value, _ =>
    match skipBlanks cs with
    | '[' :: rest =>
      match skipBlanks rest with
      | ']' :: rest => some (.inr (.ended, opened, rest))
      | _ => some (.inr (.value, .array :: opened, rest))
    | '{' :: rest =>
      match skipBlanks rest with
      | '}' :: rest => some (.inr (.ended, opened, rest))
      | _ => (skipKey? rest).map fun rest => .inr (.value, .object :: opened, rest)
    | cs => (skipScalar? cs).map fun rest => .inr (.ended, opened, rest)

/-- Repeats `skipStep?` until the outermost value has ended. -/
def skipSteps? : Nat → SkipState → List Bracket → List Char → Option (List Char)
  | 0, _, _, _ => none
  | steps + 1, state, opened, cs => do
    match ← skipStep? state opened cs with
    | .inl rest => some rest
    | .inr (state, opened, rest) => skipSteps? steps state opened rest

/-- What follows the value at the front of the text. Every step but the last takes a character. -/
def skipValue? (cs : List Char) : Option (List Char) := skipSteps? (cs.length + 1) .value [] cs

end Whiteboard.Json
