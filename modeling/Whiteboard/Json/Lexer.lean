import Whiteboard.Json.Error

/-!
# Tokens of JSON

The pieces of a JSON text: blanks, literal words, strings and numbers. Each function takes the
characters left and gives the piece at their front together with the characters that follow it, or
nothing if the text is malformed there.
-/

namespace Whiteboard.Json

/-- The characters that may stand between tokens. -/
def isBlank (c : Char) : Bool := c = ' ' || c = '\n' || c = '\t' || c = '\r'

/-- The text without the blanks at its front. -/
def skipBlanks (cs : List Char) : List Char := cs.dropWhile isBlank

/-- What follows a literal word at the front of the text. -/
def afterWord? : List Char → List Char → Option (List Char)
  | [], cs => some cs
  | w :: word, c :: cs => if w = c then afterWord? word cs else none
  | _ :: _, [] => none

/-! ### Strings -/

/-- The character that a short escape stands for. -/
def shortEscape? (c : Char) : Option Char :=
  match c with
  | '"' => some '"'
  | '\\' => some '\\'
  | '/' => some '/'
  | 'b' => some '\x08'
  | 'f' => some '\x0c'
  | 'n' => some '\n'
  | 'r' => some '\r'
  | 't' => some '\t'
  | _ => none

/-- The code unit with four hexadecimal digits. -/
def codeUnit? (a b c d : Char) : Option Nat := do
  let a ← Uuid.hexValue? a
  let b ← Uuid.hexValue? b
  let c ← Uuid.hexValue? c
  let d ← Uuid.hexValue? d
  return 4096 * a + 256 * b + 16 * c + d

/-- Whether a code unit begins a surrogate pair. -/
def isHighSurrogate (u : Nat) : Bool := 0xD800 ≤ u && u < 0xDC00

/-- Whether a code unit ends a surrogate pair. -/
def isLowSurrogate (u : Nat) : Bool := 0xDC00 ≤ u && u < 0xE000

/-- The character that a surrogate pair stands for. -/
def ofSurrogates (high low : Nat) : Char :=
  Char.ofNat (0x10000 + (high - 0xD800) * 1024 + (low - 0xDC00))

/-- Adds a character in front of what was read. -/
def withChar (c : Char) (read : Option (List Char × List Char)) :
    Option (List Char × List Char) :=
  read.map fun (body, rest) => (c :: body, rest)

/-- The contents of a string after its opening quote, and what follows its closing quote.
Surrogates must come in pairs, and controls must be escaped. -/
def stringBody? : List Char → Option (List Char × List Char)
  | [] => none
  | '"' :: rest => some ([], rest)
  | '\\' :: 'u' :: a :: b :: c :: d :: rest =>
    match codeUnit? a b c d with
    | none => none
    | some u =>
      if isHighSurrogate u then
        match rest with
        | '\\' :: 'u' :: e :: f :: g :: h :: rest =>
          match codeUnit? e f g h with
          | none => none
          | some v =>
            if isLowSurrogate v then withChar (ofSurrogates u v) (stringBody? rest) else none
        | _ => none
      else if isLowSurrogate u then none
      else withChar (Char.ofNat u) (stringBody? rest)
  | '\\' :: c :: rest =>
    match shortEscape? c with
    | none => none
    | some c => withChar c (stringBody? rest)
  | c :: rest => if c.toNat < 32 ∨ c = '\\' then none else withChar c (stringBody? rest)

/-! ### Numbers -/

/-- The largest number of 64 bits. -/
def maxWord64 : Nat := 0xFFFFFFFFFFFFFFFF

/-- The largest exponent that is told apart from a larger one. -/
def maxExponent : Nat := 0x7FFFFFFF

/-- The digits at the front of the text and what follows them. -/
def digitRun (cs : List Char) : List Nat × List Char :=
  ((cs.takeWhile Char.isDigit).map fun c => c.toNat - '0'.toNat, cs.dropWhile Char.isDigit)

/-- Appends decimal digits to a significand as long as it fits 64 bits, and gives the digits left
over. -/
def appendDigits (significand : Nat) : List Nat → Nat × List Nat
  | [] => (significand, [])
  | d :: ds =>
    if 10 * significand + d ≤ maxWord64 then appendDigits (10 * significand + d) ds
    else (significand, d :: ds)

/-- The number with the given decimal digits. -/
def ofDigits (ds : List Nat) : Nat := ds.foldl (fun n d => 10 * n + d) 0

/-- The 64-bit number nearest to a power of ten. -/
def powerOfTen (k : Nat) : Nat := Numeric.Format.double.nearest (Nat.pow 10 k) 1 0

/-- Multiplies a 64-bit number by a power of ten, rounding after every step; the powers up to 308
are taken in one step. There is no result if it would be too large. -/
def scaleByTen? : Nat → Nat → Int → Option Nat
  | 0, _, _ => none
  | steps + 1, pattern, exponent =>
    if exponent.natAbs ≤ 308 then
      if 0 ≤ exponent then
        let product := Numeric.Format.double.mul pattern (powerOfTen exponent.natAbs)
        if product < Numeric.Format.double.infinity then some product else none
      else some (Numeric.Format.double.div pattern (powerOfTen exponent.natAbs))
    else if pattern = 0 then some 0
    else if 0 ≤ exponent then none
    else scaleByTen? steps (Numeric.Format.double.div pattern (powerOfTen 308)) (exponent + 308)

/-- The 64-bit number that a significand of 64 bits and a power of ten stand for, if it is not too
large. Three steps bring every significand to zero. -/
def doubleOfParts? (significand : Nat) (exponent : Int) : Option Nat :=
  scaleByTen? 4 (Numeric.Format.double.nearest significand 1 0) exponent

/-- A floating-point number from its parts. -/
def floatOfParts? (negative : Bool) (significand : Nat) (exponent : Int) : Option Number :=
  (doubleOfParts? significand exponent).map (.float negative)

/-- An exponent part, whose letter was read, ends the number. An exponent past every bound makes
the number zero if it is negative or the significand is zero. -/
def exponentPart? (negative : Bool) (significand : Nat) (start : Int) (cs : List Char) :
    Option (Number × List Char) :=
  let (below, cs) :=
    match cs with
    | '+' :: rest => (false, rest)
    | '-' :: rest => (true, rest)
    | _ => (false, cs)
  let (digits, rest) := digitRun cs
  if digits.isEmpty then none
  else
    let size := ofDigits digits
    let value :=
      if maxExponent < size then
        if below || significand = 0 then some (.float negative 0) else none
      else floatOfParts? negative significand (if below then start - size else start + size)
    value.map fun n => (n, rest)

/-- What may follow the digits of a number: an exponent part or nothing. -/
def afterDigits? (negative : Bool) (significand : Nat) (exponent : Int) (cs : List Char) :
    Option (Number × List Char) :=
  match cs with
  | 'e' :: rest | 'E' :: rest => exponentPart? negative significand exponent rest
  | _ => (floatOfParts? negative significand exponent).map fun n => (n, cs)

/-- A number written without fraction and exponent, if it fits 64 bits. Minus zero, and a negative
number below the least signed one, are floating-point numbers. -/
def wholeNumber (negative : Bool) (n : Nat) : Number :=
  if negative && (n = 0 || 0x8000000000000000 < n) then
    .float true (Numeric.Format.double.nearest n 1 0)
  else .integer negative n

/-- A number without its sign. Digits that no longer fit the significand only count for the
exponent. -/
def unsignedNumber? (negative : Bool) (cs : List Char) : Option (Number × List Char) :=
  let (whole, rest) := digitRun cs
  match whole with
  | [] => none
  | 0 :: _ :: _ => none
  | _ =>
    let (significand, extra) := appendDigits 0 whole
    match rest with
    | '.' :: rest =>
      let (fraction, rest) := digitRun rest
      if fraction.isEmpty then none
      else
        let (significand, unused) := appendDigits significand fraction
        let used := fraction.length - unused.length
        let exponent : Int := (extra.length : Int) - (used : Int)
        afterDigits? negative significand exponent rest
    | 'e' :: _ | 'E' :: _ => afterDigits? negative significand extra.length rest
    | _ =>
      if extra.isEmpty then some (wholeNumber negative significand, rest)
      else afterDigits? negative significand extra.length rest

/-- A number. -/
def number? : List Char → Option (Number × List Char)
  | '-' :: cs => unsignedNumber? true cs
  | cs => unsignedNumber? false cs

end Whiteboard.Json
