import Whiteboard.Numeric.Single
import Whiteboard.Uuid

/-!
# Shapes of messages

Every message is built from a few kinds of parts: numbers, text, identifiers, optional values,
lists, records and choices between named cases. A `Shape` describes such a construction, and
`Shape.Value` is the type of the values that it describes. The frame format and the JSON view are
each defined once, by recursion on shapes.
-/

namespace Whiteboard

/-- How a record is called when something is wrong with it. -/
inductive Title
  /-- A record with named fields. -/
  | keyed (name : String)
  /-- A record whose fields have only their place. -/
  | positional (name : String)
  /-- A pair without a name of its own. -/
  | pair
  /-- The named fields of one case of a choice. -/
  | keyedCase (choice case : String)
  /-- The placed values of one case of a choice. -/
  | positionalCase (choice case : String)
  deriving DecidableEq, Repr

/-- Whether the fields of a record go by name. -/
def Title.byName : Title → Bool
  | .keyed _ | .keyedCase _ _ => true
  | .positional _ | .pair | .positionalCase _ _ => false

/-- The title as it stands in a message. -/
def Title.text : Title → String
  | .keyed name => "struct " ++ name
  | .positional name => "tuple struct " ++ name
  | .pair => "a tuple of size 2"
  | .keyedCase choice case => "struct variant " ++ choice ++ "::" ++ case
  | .positionalCase choice case => "tuple variant " ++ choice ++ "::" ++ case

mutual

/-- A description of values. -/
inductive Shape
  /-- A 16-bit natural number. -/
  | word16
  /-- A 32-bit natural number. -/
  | word32
  /-- A 32-bit floating-point number. -/
  | single
  /-- A string. -/
  | text
  /-- An identifier of 128 bits. -/
  | uuid
  /-- A value that may be missing. -/
  | optional (s : Shape)
  /-- A list of values. -/
  | list (s : Shape)
  /-- Several values together. -/
  | record (title : Title) (fields : Fields)
  /-- One of several cases. -/
  | choice (cases : Cases)

/-- The fields of a record, in order. -/
inductive Fields
  /-- No more fields. -/
  | nil
  /-- A field with its name. An omittable field may be left out when it has its empty value. -/
  | cons (name : String) (omittable : Bool) (s : Shape) (rest : Fields)

/-- The cases of a choice, in order. -/
inductive Cases
  /-- No more cases. -/
  | nil
  /-- A case that is only a name. -/
  | bare (name : String) (rest : Cases)
  /-- A case that carries a value. -/
  | carrying (name : String) (s : Shape) (rest : Cases)

end

mutual

/-- The values of a shape. -/
def Shape.Value : Shape → Type
  | .word16 => UInt16
  | .word32 => UInt32
  | .single => Single
  | .text => String
  | .uuid => Uuid
  | .optional s => Option s.Value
  | .list s => List s.Value
  | .record _ fields => fields.Value
  | .choice cases => cases.Value

/-- The values of all fields, in order. -/
def Fields.Value : Fields → Type
  | .nil => Unit
  | .cons _ _ s rest => s.Value × rest.Value

/-- A case and what it carries. -/
def Cases.Value : Cases → Type
  | .nil => Empty
  | .bare _ rest => Unit ⊕ rest.Value
  | .carrying _ s rest => s.Value ⊕ rest.Value

end

/-- The number of fields. -/
def Fields.count : Fields → Nat
  | .nil => 0
  | .cons _ _ _ rest => rest.count + 1

/-- The names of the cases, in order. -/
def Cases.names : Cases → List String
  | .nil => []
  | .bare name rest => name :: rest.names
  | .carrying name _ rest => name :: rest.names

mutual

/-- The value without content, for shapes that have one. -/
def Shape.empty? : (s : Shape) → Option s.Value
  | .optional _ => some (none : Option _)
  | .list _ => some ([] : List _)
  | .record _ fields => fields.empty?
  | .word16 | .word32 | .single | .text | .uuid | .choice _ => none

/-- The fields all without content, if each has such a value. -/
def Fields.empty? : (fields : Fields) → Option fields.Value
  | .nil => some ()
  | .cons _ _ s rest => do return (← s.empty?, ← rest.empty?)

end

/-- What a field stands for when its name does not occur: nothing if it is optional, its empty
value if it is omittable. -/
def Shape.absent? (s : Shape) (omittable : Bool) : Option s.Value :=
  if omittable then s.empty?
  else
    match s with
    | .optional _ => some (none : Option _)
    | _ => none

/-- A type whose values are exactly the values of a shape. -/
class HasShape (α : Type) where
  /-- The shape. -/
  shape : Shape
  /-- The value of the shape that stands for an element. -/
  toValue : α → shape.Value
  /-- The element that a value of the shape stands for. -/
  ofValue : shape.Value → α
  /-- An element is found again from its value. -/
  ofValue_toValue : ∀ a, ofValue (toValue a) = a
  /-- A value is found again from its element. -/
  toValue_ofValue : ∀ v, toValue (ofValue v) = v

end Whiteboard
