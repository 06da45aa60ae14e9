import Whiteboard.Message.Codec

/-!
# What can go wrong

Three layers report failures: the participant's own state, the link to the relay, and the client
that joins them. Each failure has one wording.
-/

namespace Whiteboard

/-- Why a participant cannot do what it is asked to. -/
inductive CoreError
  /-- A message cannot be written or read. -/
  | codec (error : CodecError)
  /-- No pending transaction has this identifier. -/
  | unknownTransaction (id : Uuid)
  /-- The participant is in no session. -/
  | notInSession
  deriving DecidableEq

/-- The wording of a failure of the participant. -/
def CoreError.message : CoreError → String
  | .codec error => error.message
  | .unknownTransaction id => "Unknown transaction: " ++ id.toText
  | .notInSession => "Not in a session"

/-- The fault that a failure comes to, if the operation cannot go on after it. -/
def CoreError.fault? : CoreError → Option Fault
  | .codec error => error.fault?
  | .unknownTransaction _ | .notInSession => none

/-- Why a frame cannot be sent. -/
inductive LinkError
  /-- The other end is gone. -/
  | closed
  /-- There is no connection, for the given reason. -/
  | connect (reason : String)
  deriving DecidableEq

/-- The wording of a failure of the link. -/
def LinkError.message : LinkError → String
  | .closed => "Connection closed"
  | .connect reason => "Connect failed: " ++ reason

/-- What the caller of a client sees instead of a result. -/
inductive SyncError
  /-- The relay turned the command down. -/
  | rejected (refusal : Refusal)
  /-- The participant failed. -/
  | core (error : CoreError)
  /-- The link failed. -/
  | link (error : LinkError)
  /-- No reply came in time. -/
  | timeout (id : CommandId)
  /-- The reply will never come. -/
  | abandoned
  /-- A reply with this number is already awaited. -/
  | duplicate (id : CommandId)
  deriving DecidableEq

/-- The wording of what the caller sees. -/
def SyncError.message : SyncError → String
  | .rejected refusal => "Command rejected: " ++ refusal.message
  | .core error => error.message
  | .link error => error.message
  | .timeout id => "No reply to command " ++ toString id.toNat ++ " before timeout"
  | .abandoned => "Reply abandoned: client shut down"
  | .duplicate id => "Command id " ++ toString id.toNat ++ " already has a pending reply"

end Whiteboard
