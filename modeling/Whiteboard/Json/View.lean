import Whiteboard.Json.Tree
import Whiteboard.Shape

/-!
# The JSON view of messages

A message becomes JSON by its shape: records with named fields become objects, other records
arrays, a case without contents its name, a case with contents an object with the name as only
key. A missing value, and a number that is not finite, become null.
-/

namespace Whiteboard

mutual

/-- The JSON value of a value. -/
def Shape.toJson : (s : Shape) → s.Value → Json
  | .word16, (n : UInt16) => .natural n.toNat
  | .word32, (n : UInt32) => .natural n.toNat
  | .single, (x : Single) => if x.isFinite then .single x else .null
  | .text, (t : String) => .text t
  | .uuid, (id : Uuid) => .text id.toText
  | .optional _, (none : Option _) => .null
  | .optional s, some v => s.toJson v
  | .list s, (vs : List _) => .array (vs.map s.toJson)
  | .record title fields, v =>
    if title.byName then .object (fields.toEntries v) else .array (fields.toItems v)
  | .choice cases, v => cases.toJson v

/-- The fields of a record with their names. -/
def Fields.toEntries : (fields : Fields) → fields.Value → List (String × Json)
  | .nil, _ => []
  | .cons name _ s rest, (v, vs) => (name, s.toJson v) :: rest.toEntries vs

/-- The fields of a record without their names. -/
def Fields.toItems : (fields : Fields) → fields.Value → List Json
  | .nil, _ => []
  | .cons _ _ s rest, (v, vs) => s.toJson v :: rest.toItems vs

/-- A case with what it carries. -/
def Cases.toJson : (cases : Cases) → cases.Value → Json
  | .bare name _, .inl () => .text name
  | .bare _ rest, .inr v => rest.toJson v
  | .carrying name s _, .inl v => .object [(name, s.toJson v)]
  | .carrying _ _ rest, .inr v => rest.toJson v

end

namespace Json

variable {α : Type} [HasShape α]

/-- The JSON value of a message. -/
def ofMessage (a : α) : Json := (HasShape.shape α).toJson (HasShape.toValue a)

/-- The JSON text of a message, without spaces. -/
def write (a : α) : String := String.ofList (ofMessage a).compact

/-- The JSON text of a message on several lines. -/
def writeIndented (a : α) : String := String.ofList ((ofMessage a).indented 0)

end Json

end Whiteboard
