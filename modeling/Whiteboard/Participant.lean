import Whiteboard.Document.Replica
import Whiteboard.Log

/-!
# A participant

A participant has a document of its own and, while it is in a session, a replica of the session's
document and the session's roster. Inbound frames change it; what changed is kept until it is
taken: the objects that have to be looked at again, and the fact that the roster is a new one.

Outside of a session an edit is made to the participant's own document and causes no traffic.
Inside a session it becomes a pending transaction, and the frame that announces it waits to be
sent.

## Main definitions

- `Participant` — the state of a participant
- `Participant.apply` — the effect of an inbound frame
- `Participant.push` — the effect of an edit
- `Participant.encode` — the frame of a command, with the next number
- `Participant.takeInvalidated`, `Participant.takeRosterChange`, `Participant.takeOutbound` — what
  is waiting
- `Participant.applyNotes`, `Participant.pushNotes` — what the log says about a frame or an edit
-/

namespace Whiteboard

open Log (Note)

/-- The roster with a connection that joined. One that is there already is not added again. -/
def Roster.add (r : Roster) (c : ConnectionId) : Roster :=
  if c ∈ r.connections then r else ⟨r.connections ++ [c]⟩

/-- The roster without a connection that left. -/
def Roster.remove (r : Roster) (c : ConnectionId) : Roster := ⟨r.connections.filter (· ≠ c)⟩

/-- What a participant knows of the session it is in. -/
structure Session where
  /-- The number of the session. -/
  id : SessionId
  /-- Who takes part. -/
  roster : Roster
  /-- The replica of the session's document. -/
  document : Replica

/-- The state of a participant. -/
structure Participant where
  /-- Where new identifiers come from. -/
  ids : IdSource
  /-- The number given to a command last; zero if there was none. -/
  lastId : CommandId
  /-- The number of the connection, once it is known. -/
  connection? : Option ConnectionId
  /-- The participant's own document. -/
  home : Replica
  /-- The session that it is in. -/
  session? : Option Session
  /-- The objects to be looked at again. -/
  invalidated : ObjectSet
  /-- Whether the roster is a new one. -/
  rosterChanged : Bool
  /-- The frames that wait to be sent, oldest first. -/
  outbound : List Frame

namespace Participant

/-- A participant outside of every session, with a new document of its own. -/
def create (ids : IdSource) : Participant :=
  let (home, ids) := Replica.openFrom .empty ids
  { ids, lastId := 0, connection? := none, home, session? := none, invalidated := ∅
    rosterChanged := false, outbound := [] }

/-- The number that the next command gets. Zero is passed over. -/
def nextId (p : Participant) : CommandId := if p.lastId + 1 = 0 then 1 else p.lastId + 1

/-- The current document: that of the session, or the participant's own. -/
def document (p : Participant) : Replica :=
  match p.session? with
  | some s => s.document
  | none => p.home

/-- The number of the session that the participant is in. -/
def sessionId? (p : Participant) : Option SessionId := p.session?.map (·.id)

/-- How many transactions of the current document wait for an answer. -/
def pendingCount (p : Participant) : Nat := p.document.pending.length

/-- The current document as the user sees it. -/
def view (p : Participant) : DocumentView := p.document.view

/-- The roster of the session, empty outside of every session. -/
def roster (p : Participant) : Roster :=
  match p.session? with
  | some s => s.roster
  | none => .empty

/-- Adds objects to those that have to be looked at again. -/
def invalidate (p : Participant) (objects : ObjectSet) : Participant :=
  { p with invalidated := p.invalidated ∪ objects }

/-! ### Inbound frames -/

/-- Gives the session a new roster. -/
def setRoster (p : Participant) (s : Session) (roster : Roster) : Participant :=
  { p with session? := some { s with roster }, rosterChanged := true }

/-- Gives the session's document a new state, with the objects that were touched. -/
def setDocument (p : Participant) (s : Session) (document : Replica) (touched : ObjectSet) :
    Participant :=
  { p with session? := some { s with document } }.invalidate touched

/-- The effect of the relay's answer to a pending transaction. -/
def setAnswered (p : Participant) (s : Session) (tx : Uuid) :
    Replica × Option ObjectSet → Participant × Except CoreError Unit
  | (document, some touched) => (p.setDocument s document touched, .ok ())
  | (_, none) => (p, .error (.unknownTransaction tx))

/-- The effect of an event in the session that the participant is in. -/
def applySession (p : Participant) (s : Session) :
    SessionEvent → Participant × Except CoreError Unit
  | .fragment _ => (p, .ok ())
  | .someoneJoined c => (p.setRoster s (s.roster.add c), .ok ())
  | .someoneLeft c => (p.setRoster s (s.roster.remove c), .ok ())
  | .rosterChanged roster => (p.setRoster s roster, .ok ())
  | .accepted tx => p.setAnswered s tx (s.document.accept tx)
  | .rejected tx _ => p.setAnswered s tx (s.document.reject tx)
  | .othersTransaction tx =>
    let (document, touched) := s.document.applyRemote tx
    (p.setDocument s document touched, .ok ())

/-- Enters a session, leaving the one the participant may be in. -/
def join (p : Participant) (id : SessionId) (roster : Roster) (snapshot : Snapshot) : Participant :=
  let (document, ids) := Replica.openFrom snapshot p.ids
  { p with ids, session? := some ⟨id, roster, document⟩, rosterChanged := true }.invalidate
    (.ofList [document.id])

/-- Leaves the session. -/
def leave (p : Participant) (s : Session) : Participant :=
  { p with session? := none, rosterChanged := true }.invalidate (.ofList [s.document.id, p.home.id])

/-- The effect of an event. -/
def applyEvent (p : Participant) : SystemEvent → Participant × Except CoreError Unit
  | .connected c => ({ p with connection? := some c }, .ok ())
  | .joinedSession id roster snapshot => (p.join id roster snapshot, .ok ())
  | .leftSession =>
    match p.session? with
    | some s => (p.leave s, .ok ())
    | none => (p, .ok ())
  | .session e =>
    match p.session? with
    | some s => p.applySession s e
    | none => (p, .error .notInSession)

/-- The effect of an inbound frame. A refused command changes nothing. -/
def apply (p : Participant) (frame : Frame) : Participant × Except CoreError Unit :=
  match Inbound.ofFrame frame with
  | .error e => (p, .error (.codec e))
  | .ok message =>
    match message.event? with
    | some e => p.applyEvent e
    | none => (p, .ok ())

/-! ### Commands and edits -/

/-- The frame of a command, with the next number. -/
def encode (p : Participant) (command : Command) : Participant × Except CoreError Frame :=
  ({ p with lastId := p.nextId }, .ok (Request.toFrame ⟨p.nextId, command⟩))

/-- Makes an edit to the participant's own document. -/
def pushHome (p : Participant) (edit : Edit) : Participant :=
  let (id, ids) := p.ids.draw
  let (home, touched) := p.home.applyRemote (p.home.transactionFor edit id)
  { p with ids, home }.invalidate touched

/-- Makes an edit to the session's document, which stays pending, and queues the frame that
announces it. -/
def pushSession (p : Participant) (s : Session) (edit : Edit) : Participant :=
  let (id, ids) := p.ids.draw
  let tx := s.document.transactionFor edit id
  let frame := Request.toFrame ⟨p.nextId, .session (.transaction tx)⟩
  let (document, touched) := s.document.begin tx
  { p with ids, lastId := p.nextId, outbound := p.outbound ++ [frame] }.setDocument s document
    touched

/-- The effect of an edit of the current document. -/
def push (p : Participant) (edit : Edit) : Participant × Except CoreError Unit :=
  match p.session? with
  | some s => (p.pushSession s edit, .ok ())
  | none => (p.pushHome edit, .ok ())

/-! ### What is waiting -/

/-- Takes the objects to be looked at again, in order. -/
def takeInvalidated (p : Participant) : Participant × List ObjectId :=
  ({ p with invalidated := ∅ }, p.invalidated.toList)

/-- Takes the roster, if it is a new one. -/
def takeRosterChange (p : Participant) : Participant × Option Roster :=
  ({ p with rosterChanged := false }, if p.rosterChanged then some p.roster else none)

/-- Takes the oldest frame that waits to be sent. -/
def takeOutbound (p : Participant) : Participant × Option Frame :=
  match p.outbound with
  | [] => (p, none)
  | frame :: rest => ({ p with outbound := rest }, some frame)

/-- Puts a frame back, so that it is taken next. -/
def requeue (p : Participant) (frame : Frame) : Participant :=
  { p with outbound := frame :: p.outbound }

/-! ### Notes -/

/-- What the log says about an event in the session. -/
def sessionNotes (s : Session) : SessionEvent → List Note
  | .rejected tx reason =>
    .rejected tx reason :: if (s.document.find? tx).isSome then [.rolledBack tx] else []
  | .othersTransaction tx => [.applied tx.id]
  | _ => []

/-- What the log says about an inbound message. -/
def messageNotes (p : Participant) : Inbound → List Note
  | .reply id (.refused r) => [.refused id r]
  | .reply _ (.event e) | .notice e =>
    match e, p.session? with
    | .connected c, _ => [.connected c]
    | .joinedSession id _ _, _ => [.joined id]
    | .leftSession, some s => [.left s.id]
    | .session e, some s => sessionNotes s e
    | _, none => []

/-- What the log says about an inbound frame. -/
def applyNotes (p : Participant) (frame : Frame) : List Note :=
  match Inbound.ofFrame frame with
  | .ok message => p.messageNotes message
  | .error _ => []

/-- What the log says about an edit. -/
def pushNotes (p : Participant) : List Note :=
  let id := p.ids.draw.1
  (if p.invalidated.isEmpty then [] else [.undrained]) ++
    [if p.session?.isSome then .began id else .applied id]

end Participant

end Whiteboard
