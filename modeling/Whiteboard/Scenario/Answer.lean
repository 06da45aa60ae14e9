import Whiteboard.Sync.Client

/-!
# Answers of scenarios

A scenario is a list of steps, each of which is answered. The answers are kept as values of the
domain; how they are shown is left to whoever runs the scenario.
-/

namespace Whiteboard.Scenario

/-- The answer of one step. -/
inductive Answer
  /-- The step has nothing to say. -/
  | done
  /-- There is nothing to give. -/
  | nothing
  /-- Nothing has the name that the step uses. -/
  | absent
  /-- No listener ever had the name that the step uses. -/
  | unnamed
  /-- Yes or no. -/
  | flag (b : Bool)
  /-- A number. -/
  | count (n : Nat)
  /-- A string, perhaps. -/
  | text (s : Option String)
  /-- Objects, in order. -/
  | objects (ids : List ObjectId)
  /-- A roster. -/
  | roster (r : Roster)
  /-- A document as the user sees it. -/
  | view (v : DocumentView)
  /-- A snapshot. -/
  | snapshot (s : Snapshot)
  /-- A transaction. -/
  | transaction (tx : Transaction)
  /-- A transaction that was begun, with the objects it touches. -/
  | begun (tx : Uuid) (touched : List ObjectId)
  /-- A frame of a command. -/
  | frame (f : Frame)
  /-- Frames of commands. -/
  | frames (fs : List Frame)
  /-- A message that arrived. -/
  | message (m : Inbound)
  /-- What became of a frame. -/
  | routed (r : RouteOutcome)
  /-- A new listener. -/
  | listener (id : ListenerId)
  /-- What a subscriber received. -/
  | received (r : Received)
  /-- The caller still waits. -/
  | waiting
  /-- The caller's reply. -/
  | reply (e : SystemEvent)
  /-- The number of a command. -/
  | command (id : CommandId)
  /-- The settings of a client. -/
  | settings (s : Settings)
  /-- Whether the link has another end. -/
  | connected (b : Bool)
  /-- A message could not be read. -/
  | codecError (e : CodecError)
  /-- The participant failed. -/
  | coreError (e : CoreError)
  /-- The client failed. -/
  | syncError (e : SyncError)
  /-- A listener failed. -/
  | fault (message : String)

/-- The answer of an operation that gives nothing. -/
def Answer.ofCore : Except CoreError Unit → Answer
  | .ok () => .done
  | .error e => .coreError e

/-- The answer of an operation that gives a number. -/
def Answer.ofSync : Except SyncError Nat → Answer
  | .ok n => .count n
  | .error e => .syncError e

/-- The answer about a waiting caller. -/
def Answer.ofPoll : Option (Except SyncError SystemEvent) → Answer
  | none => .waiting
  | some (.ok e) => .reply e
  | some (.error e) => .syncError e

/-- What can be seen of a participant between two steps. -/
structure Status where
  /-- The number given to a command last. -/
  lastId : CommandId
  /-- The number of the connection. -/
  connection? : Option ConnectionId
  /-- The number of the session. -/
  session? : Option SessionId
  /-- How many transactions wait for an answer. -/
  pending : Nat
  /-- The current document. -/
  view : DocumentView
  /-- The roster. -/
  roster : Roster

/-- The status of a participant. -/
def Status.of (p : Participant) : Status :=
  ⟨p.lastId, p.connection?, p.sessionId?, p.pendingCount, p.view, p.roster⟩

/-- The lines of the log up to a level, given by its rank. -/
def logLines (rank : Nat) (notes : List Log.Note) : List String :=
  (notes.filter fun note => note.level.rank ≤ rank).map Log.Note.line

end Whiteboard.Scenario
