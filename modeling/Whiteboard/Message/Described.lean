import Whiteboard.Message.Basic
import Whiteboard.Text.Quoted

/-!
# Events in words

The log names an event by its constructor and its contents. Records show their fields between
braces, strings are quoted, identifiers and numbers stand by themselves.
-/

namespace Whiteboard

/-- Numbers in the log are written positionally from the ten-thousandths up to sixteen digits
before the point, and a tie goes away from zero. -/
def logLayout : Numeric.Layout := ⟨-4, 15, false, .away⟩

/-- A floating-point number in the log, also one that is not finite. -/
def Single.describe (x : Single) : String :=
  if x.isFinite then String.ofList (x.render logLayout)
  else if x.isNaN then "NaN"
  else if x.negative then "-inf"
  else "inf"

/-- A list in the log. -/
def describeList {α : Type} (item : α → String) (items : List α) : String :=
  "[" ++ String.intercalate ", " (items.map item) ++ "]"

/-- A record in the log, by the name of its type and its fields. -/
def describeRecord (name : String) (fields : List (String × String)) : String :=
  let shown := fields.map fun (field, value) => field ++ ": " ++ value
  name ++ " \x7b " ++ String.intercalate ", " shown ++ " \x7d"

/-- Contents between parentheses after a name. -/
def describeCase (name : String) (contents : List String) : String :=
  name ++ "(" ++ String.intercalate ", " contents ++ ")"

/-- The name of an object in the log. -/
def ObjectId.describe (id : ObjectId) : String := describeCase "ObjectId" [Text.quoted id.text]

/-- A segment in the log. -/
def Fragment.describe (f : Fragment) : String :=
  describeRecord "Fragment"
    [("x1", f.x1.describe), ("y1", f.y1.describe), ("x2", f.x2.describe), ("y2", f.y2.describe)]

/-- The connections of a roster in the log. -/
def Roster.list (r : Roster) : String := describeList (fun c => toString c.toNat) r.connections

/-- A roster in the log. -/
def Roster.describe (r : Roster) : String :=
  describeRecord "SessionSnapshot" [("connections", r.list)]

/-- A property in the log. -/
def PropKey.describe (k : PropKey) : String := describeCase "PropKey" [k.object.describe, "Title"]

/-- The value of a property in the log. -/
def PropValue.describe : PropValue → String
  | .text s => describeCase "String" [Text.quoted s]
  | .number x => describeCase "Float" [x.describe]

/-- A change in the log. -/
def Mutation.describe : Mutation → String
  | .create object .document => describeCase "CreateObject" [object.describe, "Document"]
  | .update key value => describeCase "UpdateObject" [key.describe, value.describe]
  | .delete object => describeCase "DeleteObject" [object.describe]

/-- A transaction in the log. -/
def Transaction.describe (tx : Transaction) : String :=
  describeRecord "Transaction"
    [("id", tx.id.toText), ("items", describeList Mutation.describe tx.items)]

/-- The reason of a rejection in the log. -/
def RollbackReason.describe : RollbackReason → String
  | .conflict => "Conflict"
  | .invalid => "Invalid"

/-- An event of a session in the log. -/
def SessionEvent.describe : SessionEvent → String
  | .fragment f => describeCase "Fragment" [f.describe]
  | .someoneJoined c => describeCase "SomeoneJoined" [toString c.toNat]
  | .someoneLeft c => describeCase "SomeoneLeft" [toString c.toNat]
  | .rosterChanged r => describeCase "SessionStateChanged" [r.describe]
  | .accepted tx => describeCase "TransactionAck" [tx.toText]
  | .rejected tx reason => describeCase "TransactionNack" [tx.toText, reason.describe]
  | .othersTransaction tx => describeCase "OthersTransaction" [tx.describe]

/-- A property with its value in the log. -/
def describeEntry {α : Type} (value : α → String) (entry : PropKey × α) : String :=
  "(" ++ entry.1.describe ++ ", " ++ value entry.2 ++ ")"

/-- A snapshot in the log. -/
def Snapshot.describe (s : Snapshot) : String :=
  let id :=
    match s.documentId with
    | some id => describeCase "Some" [id.describe]
    | none => "None"
  describeRecord "DocumentSnapshot"
    [("document_id", id), ("string_props", describeList (describeEntry Text.quoted) s.texts),
      ("float_props", describeList (describeEntry Single.describe) s.numbers)]

/-- An event as it stands in the log. -/
def SystemEvent.describe : SystemEvent → String
  | .connected c => describeRecord "Connected" [("connection_id", toString c.toNat)]
  | .joinedSession number roster document =>
    describeRecord "JoinedSession"
      [("session_id", toString number.toNat), ("initial_state", roster.describe),
        ("document_snapshot", document.describe)]
  | .leftSession => "LeftSession"
  | .session e => describeCase "SessionEvent" [e.describe]

end Whiteboard
