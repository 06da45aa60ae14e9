import Whiteboard.Shape
import Whiteboard.Text.Quoted

/-!
# How reading JSON fails

A text that is not JSON, or not of the kind that the protocol admits at all, is malformed. A text
that is JSON but does not fit the expected shape is refused with a description of the first
misfit.
-/

namespace Whiteboard.Json

/-- A number as it is read: an integer if it is written as one and fits 64 bits, otherwise a
64-bit floating-point number given by sign and pattern. -/
inductive Number
  /-- An integer. -/
  | integer (negative : Bool) (n : Nat)
  /-- A floating-point number. -/
  | float (negative : Bool) (pattern : Nat)
  deriving DecidableEq, Repr

/-- What stands where something else was expected. -/
inductive Found
  /-- The null value. -/
  | null
  /-- A truth value. -/
  | boolean (b : Bool)
  /-- A number. -/
  | number (n : Number)
  /-- A string. -/
  | text (s : String)
  /-- An array. -/
  | sequence
  /-- An object. -/
  | map
  deriving DecidableEq

/-- Floating-point numbers in messages are written positionally from the hundred-thousandths up to
sixteen digits before the point, and a tie goes to the even digit. -/
def messageLayout : Numeric.Layout := ⟨-5, 15, true, .even⟩

/-- An integer with its sign. -/
def integerText (negative : Bool) (n : Nat) : String := (if negative then "-" else "") ++ toString n

/-- What was found, as it stands in a message. -/
def Found.describe : Found → String
  | .null => "null"
  | .boolean b => "boolean `" ++ (if b then "true" else "false") ++ "`"
  | .number (.integer negative n) => "integer `" ++ integerText negative n ++ "`"
  | .number (.float negative pattern) =>
    let digits := Numeric.Format.double.render messageLayout negative pattern
    "floating point `" ++ String.ofList digits ++ "`"
  | .text s => "string " ++ Text.quoted s
  | .sequence => "sequence"
  | .map => "map"

/-- Why a text cannot be read. -/
inductive Error
  /-- The text is not JSON, or a choice is not written as a name or as an object with one entry.
  -/
  | malformed
  /-- A choice has no case of this name. -/
  | unknownCase (name : String) (known : List String)
  /-- A name stands alone, but its case carries something of this kind. -/
  | bareCase (kind : String)
  /-- A value has the wrong type. -/
  | invalidType (found : Found) (expected : String)
  /-- An integer does not fit its type. -/
  | outOfRange (negative : Bool) (n : Nat) (expected : String)
  /-- A field does not occur. -/
  | missingField (name : String)
  /-- A field occurs twice. -/
  | duplicateField (name : String)
  /-- An array ends before all fields of a record were read. -/
  | tooShort (length : Nat) (title : Title) (count : Nat)
  /-- A string is no written form of an identifier. -/
  | badUuid
  deriving DecidableEq

/-- A name between backquotes. -/
def ticked (name : String) : String := "`" ++ name ++ "`"

/-- A list of admitted names. -/
def oneOf : List String → String
  | [] => "there are no variants"
  | [a] => "expected " ++ ticked a
  | [a, b] => "expected " ++ ticked a ++ " or " ++ ticked b
  | names => "expected one of " ++ String.intercalate ", " (names.map ticked)

/-- The length that an array should have had. -/
def fullLength (title : Title) (count : Nat) : String :=
  match title with
  | .pair => title.text
  | _ => title.text ++ " with " ++ toString count ++ (if count = 1 then " element" else " elements")

/-- The wording of an error. -/
def Error.message : Error → String
  | .malformed => "malformed"
  | .unknownCase name known => "unknown variant `" ++ name ++ "`, " ++ oneOf known
  | .bareCase kind => "invalid type: unit variant, expected " ++ kind
  | .invalidType found expected => "invalid type: " ++ found.describe ++ ", expected " ++ expected
  | .outOfRange negative n expected =>
    "invalid value: integer `" ++ integerText negative n ++ "`, expected " ++ expected
  | .missingField name => "missing field `" ++ name ++ "`"
  | .duplicateField name => "duplicate field `" ++ name ++ "`"
  | .tooShort length title count =>
    "invalid length " ++ toString length ++ ", expected " ++ fullLength title count
  | .badUuid => "UUID parsing failed"

end Whiteboard.Json
