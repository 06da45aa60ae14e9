import Whiteboard.Failure
import Whiteboard.Message.Described

/-!
# The log

What a participant and its client do is noted as it happens. A note says what happened; its level
and its wording follow from that.
-/

namespace Whiteboard.Log

/-- How important a note is. -/
inductive Level
  /-- Something is not as it should be. -/
  | warn
  /-- Something of general interest happened. -/
  | info
  /-- Something of interest to a programmer happened. -/
  | debug
  deriving DecidableEq, Repr

/-- The least important level has the highest number. -/
def Level.rank : Level → Nat
  | .warn => 1
  | .info => 2
  | .debug => 3

/-- The name of a level. -/
def Level.name : Level → String
  | .warn => "WARN"
  | .info => "INFO"
  | .debug => "DEBUG"

/-- What can be noted. -/
inductive Note
  /-- The connection got its number. -/
  | connected (connection : ConnectionId)
  /-- A session was entered. -/
  | joined (session : SessionId)
  /-- A session was left. -/
  | left (session : SessionId)
  /-- A transaction of this participant became pending. -/
  | began (tx : Uuid)
  /-- A transaction was committed at once. -/
  | applied (tx : Uuid)
  /-- The relay turned a transaction down. -/
  | rejected (tx : Uuid) (reason : RollbackReason)
  /-- A pending transaction was taken back. -/
  | rolledBack (tx : Uuid)
  /-- A command was turned down. -/
  | refused (id : CommandId) (refusal : Refusal)
  /-- An edit began before the invalidations of an earlier one were taken. -/
  | undrained
  /-- A command is about to be sent. -/
  | submitted (command : Command)
  /-- A reply came after its caller had stopped waiting. -/
  | lateReply (id : CommandId)
  /-- A wait ended, after this many milliseconds, without a reply. -/
  | timedOut (id : CommandId) (limit : Nat)
  /-- A reply came just when the time of its caller was up. -/
  | settledLate (id : CommandId)
  /-- A queued frame could not be sent. -/
  | sendFailed (sent : Nat) (error : LinkError)
  /-- All queued frames were sent. -/
  | drained (sent : Nat)
  /-- A frame could not be read. -/
  | undecodable (length : Nat) (error : CodecError)
  /-- An event could not be applied. -/
  | notApplied (event : SystemEvent) (error : CoreError)
  /-- The roster is handed to its listeners. -/
  | roster (roster : Roster)
  /-- The inbound stream ended. -/
  | streamClosed (frames abandoned : Nat)
  deriving DecidableEq

/-- A span of time given in milliseconds, in seconds from one second on. -/
def spanText (milliseconds : Nat) : String :=
  if milliseconds = 0 then "0ns"
  else if milliseconds < 1000 then toString milliseconds ++ "ms"
  else
    let digit (n : Nat) : Char := Nat.digitChar (n % 10)
    let thousandths := [digit (milliseconds / 100), digit (milliseconds / 10), digit milliseconds]
    let fraction := (thousandths.reverse.dropWhile (· = '0')).reverse
    let shown := if fraction.isEmpty then "" else "." ++ String.ofList fraction
    toString (milliseconds / 1000) ++ shown ++ "s"

namespace Note

/-- The importance of a note. -/
def level : Note → Level
  | .rejected _ _ | .undrained | .timedOut _ _ | .sendFailed _ _ | .undecodable _ _
  | .notApplied _ _ => .warn
  | .connected _ | .joined _ | .left _ | .rolledBack _ | .streamClosed _ _ => .info
  | .began _ | .applied _ | .refused _ _ | .lateReply _ | .settledLate _ | .drained _
  | .roster _ => .debug
  | .submitted command => if command.isFragment then .debug else .info

/-- The wording of a note. -/
def text : Note → String
  | .connected connection => "Connected as " ++ toString connection.toNat
  | .joined session => "Joined session " ++ toString session.toNat
  | .left session => "Left session " ++ toString session.toNat
  | .began tx => "Begin local transaction " ++ tx.toText
  | .applied tx => "Apply remote transaction " ++ tx.toText
  | .rejected tx reason => "Transaction " ++ tx.toText ++ " rejected: " ++ reason.describe
  | .rolledBack tx => "Rolled back local transaction " ++ tx.toText
  | .refused id refusal => "Command " ++ toString id.toNat ++ " failed: " ++ refusal.message
  | .undrained => "Invalidated object ids must be drained after each command"
  | .submitted command => Json.writeIndented command
  | .lateReply id =>
    "Reply to command " ++ toString id.toNat ++ " arrived after the caller stopped waiting"
  | .timedOut id limit =>
    "Command " ++ toString id.toNat ++ " got no reply within " ++ spanText limit
  | .settledLate id =>
    "Command " ++ toString id.toNat ++ " settled as its wait timed out"
  | .sendFailed sent error =>
    "Send failed after " ++ toString sent ++ " frame(s), re-queued the rest: " ++ error.message
  | .drained sent => "Drained " ++ toString sent ++ " pending command frame(s)"
  | .undecodable length error =>
    "Dropping undecodable frame (" ++ toString length ++ " bytes): " ++ error.message
  | .notApplied event error => "Failed to apply " ++ event.describe ++ ": " ++ error.message
  | .roster r => "Session roster: " ++ r.list
  | .streamClosed frames abandoned =>
    "Inbound stream closed after " ++ toString frames ++ " frame(s), " ++ toString abandoned ++
      " reply(ies) abandoned"

/-- A note as one entry of the log. -/
def line (note : Note) : String := note.level.name ++ " " ++ note.text

end Note

end Whiteboard.Log
