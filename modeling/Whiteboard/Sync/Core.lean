import Whiteboard.Participant

/-!
# What a client needs of a participant

A client drives a participant only through a few operations, so that anything which offers them
can stand in its place. Every operation gives the state after it, also when it fails.
-/

namespace Whiteboard

/-- The operations through which a client drives a participant. -/
class Core (C : Type) where
  /-- The frame of a command, with a new number. -/
  encode : C → Command → C × Except CoreError Frame
  /-- The number given to a command last. -/
  lastId : C → CommandId
  /-- The effect of an inbound frame. -/
  apply : C → Frame → C × Except CoreError Unit
  /-- What the log says about an inbound frame. -/
  applyNotes : C → Frame → List Log.Note
  /-- The effect of an edit of the current document. -/
  push : C → Edit → C × Except CoreError Unit
  /-- What the log says about an edit. -/
  pushNotes : C → List Log.Note
  /-- Takes the objects to be looked at again. -/
  takeInvalidated : C → C × List ObjectId
  /-- Takes the roster, if it is a new one. -/
  takeRosterChange : C → C × Option Roster
  /-- Takes the oldest frame that waits to be sent. -/
  takeOutbound : C → C × Option Frame
  /-- How many frames wait to be sent. -/
  queued : C → Nat
  /-- Puts a frame back, so that it is taken next. -/
  requeue : C → Frame → C
  /-- The current document as the user sees it. -/
  view : C → DocumentView
  /-- The roster of the session. -/
  roster : C → Roster

instance : Core Participant where
  encode := Participant.encode
  lastId := Participant.lastId
  apply := Participant.apply
  applyNotes := Participant.applyNotes
  push := Participant.push
  pushNotes := Participant.pushNotes
  takeInvalidated := Participant.takeInvalidated
  takeRosterChange := Participant.takeRosterChange
  takeOutbound := Participant.takeOutbound
  queued p := p.outbound.length
  requeue := Participant.requeue
  view := Participant.view
  roster := Participant.roster

end Whiteboard
