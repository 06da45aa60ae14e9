import Whiteboard.Frame.Codec
import Whiteboard.Json.Reader
import Whiteboard.Json.View
import Whiteboard.Message.Shapes

/-!
# Messages on the wire and as JSON

Each message travels as one frame and has a JSON view for inspection and logs. Writing never
fails; reading gives the message or says why not.

## Main definitions

- `CodecError` — the ways in which coding fails, with their wording
- `CodecError.fault?` — the failures that are faults
- `Request.toFrame`, `Request.ofFrame`, `Inbound.toFrame`, `Inbound.ofFrame` — frames
- `Command.toJson`, `Command.ofJson`, `Inbound.toJson`, `Inbound.ofJson`, `Edit.ofJson` — JSON
  texts
-/

namespace Whiteboard

/-- Why a message cannot be written or read. -/
inductive CodecError
  /-- It cannot be written. -/
  | encode (reason : String)
  /-- A frame cannot be read. -/
  | decode (error : Frame.Error)
  /-- A JSON text cannot be read. -/
  | json (error : Json.Error)
  deriving DecidableEq

/-- The wording of an error. -/
def CodecError.message : CodecError → String
  | .encode reason => "Serialization error: " ++ reason
  | .decode error => "Deserialization error: " ++ error.message
  | .json error => "JSON error: " ++ error.message

/-- The fault that an error comes to, if the operation cannot go on after it. -/
def CodecError.fault? : CodecError → Option Fault
  | .decode .overlong => some .overflow
  | _ => none

/-- The frame of a request. -/
def Request.toFrame (r : Request) : Frame := Frame.encode r

/-- The request of a frame. -/
def Request.ofFrame (frame : Frame) : Except CodecError Request :=
  (Frame.decode frame).mapError .decode

/-- The frame of an arriving message. -/
def Inbound.toFrame (m : Inbound) : Frame := Frame.encode m

/-- The arriving message of a frame. -/
def Inbound.ofFrame (frame : Frame) : Except CodecError Inbound :=
  (Frame.decode frame).mapError .decode

/-- The JSON text of a command. -/
def Command.toJson (c : Command) : String := Json.write c

/-- The command of a JSON text. -/
def Command.ofJson (text : String) : Except CodecError Command := (Json.parse text).mapError .json

/-- The JSON text of an arriving message. -/
def Inbound.toJson (m : Inbound) : String := Json.write m

/-- The arriving message of a JSON text. -/
def Inbound.ofJson (text : String) : Except CodecError Inbound := (Json.parse text).mapError .json

/-- The JSON text of an edit. -/
def Edit.toJson (e : Edit) : String := Json.write e

/-- The edit of a JSON text. -/
def Edit.ofJson (text : String) : Except CodecError Edit := (Json.parse text).mapError .json

end Whiteboard
