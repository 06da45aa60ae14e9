import Whiteboard.Numeric.Single
import Whiteboard.Uuid

/-!
# Messages

A participant sends commands to the relay and receives replies to them and notices about
everything else. This module holds the types of what is said; how it is written on the wire and in
JSON follows from the shapes of these types.

## Main definitions

- `ObjectId`, `PropKey`, `Mutation`, `Transaction` — changes to a shared document
- `Snapshot` — a document as it is handed to someone who joins
- `Command`, `Request` — what a participant asks for, without and with the number of the request
- `SystemEvent`, `SessionEvent` — what happens in the system and in a session
- `Inbound` — what arrives: a reply or a notice
-/

namespace Whiteboard

/-- The number of a connection. -/
abbrev ConnectionId := UInt16

/-- The number of a session. -/
abbrev SessionId := UInt32

/-- The number of a request, by which its reply is recognised. -/
abbrev CommandId := UInt32

/-- The name of an object of the shared document. -/
structure ObjectId where
  /-- The name. -/
  text : String
  deriving DecidableEq, Repr

/-- A drawn line segment. -/
structure Fragment where
  /-- Horizontal coordinate of the first end. -/
  x1 : Single
  /-- Vertical coordinate of the first end. -/
  y1 : Single
  /-- Horizontal coordinate of the second end. -/
  x2 : Single
  /-- Vertical coordinate of the second end. -/
  y2 : Single
  deriving DecidableEq

/-- The connections taking part in a session, in order of arrival. -/
structure Roster where
  /-- The connections. -/
  connections : List ConnectionId
  deriving DecidableEq, Inhabited

/-- The roster outside of every session. -/
def Roster.empty : Roster := ⟨[]⟩

/-- The kinds of objects. -/
inductive ObjectKind
  /-- A document. -/
  | document
  deriving DecidableEq

/-- The kinds of properties. -/
inductive PropKind
  /-- The title. -/
  | title
  deriving DecidableEq

/-- A property of an object. -/
structure PropKey where
  /-- The object that owns the property. -/
  object : ObjectId
  /-- Which of its properties. -/
  kind : PropKind
  deriving DecidableEq

/-- The value of a property. -/
inductive PropValue
  /-- A string. -/
  | text (s : String)
  /-- A number. -/
  | number (x : Single)
  deriving DecidableEq

/-- One change to a document. -/
inductive Mutation
  /-- Introduces an object. -/
  | create (object : ObjectId) (kind : ObjectKind)
  /-- Sets a property. -/
  | update (key : PropKey) (value : PropValue)
  /-- Removes an object with all its properties. -/
  | delete (object : ObjectId)
  deriving DecidableEq

/-- The object that a change is about. -/
def Mutation.object : Mutation → ObjectId
  | .create object _ => object
  | .update key _ => key.object
  | .delete object => object

/-- Changes that are made together. -/
structure Transaction where
  /-- What it is known by. -/
  id : Uuid
  /-- The changes, in order. -/
  items : List Mutation
  deriving DecidableEq

/-- A committed document as it is handed to someone who joins. -/
structure Snapshot where
  /-- The name of the document. Without one the receiver picks a name. -/
  documentId : Option ObjectId
  /-- String properties. -/
  texts : List (PropKey × String)
  /-- Numeric properties. -/
  numbers : List (PropKey × Single)
  deriving DecidableEq

/-- The snapshot of a new document. -/
def Snapshot.empty : Snapshot := ⟨none, [], []⟩

/-- A change that a user makes to the current document. -/
inductive Edit
  /-- Gives the document a new title. -/
  | retitle (title : String)
  deriving DecidableEq

/-- What a participant of a session says. -/
inductive SessionCommand
  /-- Something was drawn. -/
  | fragment (f : Fragment)
  /-- The document was changed. -/
  | transaction (tx : Transaction)
  deriving DecidableEq

/-- What a participant asks of the relay. -/
inductive Command
  /-- Opens a session. -/
  | createSession
  /-- Enters a session. -/
  | joinSession (session : SessionId)
  /-- Leaves the session. -/
  | leaveSession
  /-- Says something in the session. -/
  | session (command : SessionCommand)
  deriving DecidableEq

/-- Whether a command carries a drawn segment. -/
def Command.isFragment : Command → Bool
  | .session (.fragment _) => true
  | _ => false

/-- A command with the number of the request. -/
structure Request where
  /-- The number. -/
  id : CommandId
  /-- The command. -/
  command : Command
  deriving DecidableEq

/-- Why a transaction was turned down. -/
inductive RollbackReason
  /-- It conflicts with another one. -/
  | conflict
  /-- It makes no sense. -/
  | invalid
  deriving DecidableEq

/-- What happens in a session. -/
inductive SessionEvent
  /-- Someone drew a segment. -/
  | fragment (f : Fragment)
  /-- A connection joined. -/
  | someoneJoined (connection : ConnectionId)
  /-- A connection left. -/
  | someoneLeft (connection : ConnectionId)
  /-- The full roster. -/
  | rosterChanged (roster : Roster)
  /-- A transaction of this participant was accepted. -/
  | accepted (tx : Uuid)
  /-- A transaction of this participant was turned down. -/
  | rejected (tx : Uuid) (reason : RollbackReason)
  /-- A transaction of another participant was accepted. -/
  | othersTransaction (tx : Transaction)
  deriving DecidableEq

/-- What happens in the system. -/
inductive SystemEvent
  /-- The connection has a number now. -/
  | connected (connection : ConnectionId)
  /-- A session was entered. -/
  | joinedSession (session : SessionId) (roster : Roster) (document : Snapshot)
  /-- The session was left. -/
  | leftSession
  /-- Something happened in the session. -/
  | session (event : SessionEvent)
  deriving DecidableEq

/-- Why the relay turns a command down. -/
inductive Refusal
  /-- There is no such session. -/
  | invalidSession
  /-- The command needs a session. -/
  | notInSession
  /-- The connection is beyond repair. -/
  | fatal (reason : String)
  /-- Any other reason, in words. -/
  | rejected (reason : String)
  deriving DecidableEq

/-- The wording of a refusal. -/
def Refusal.message : Refusal → String
  | .invalidSession => "invalid session id"
  | .notInSession => "not in a session"
  | .fatal reason => "fatal: " ++ reason
  | .rejected reason => reason

/-- What became of a command. -/
inductive Outcome
  /-- It was carried out, with this event. -/
  | event (e : SystemEvent)
  /-- It was turned down. -/
  | refused (r : Refusal)
  deriving DecidableEq

/-- What arrives from the relay. -/
inductive Inbound
  /-- The reply to a command of this participant. -/
  | reply (id : CommandId) (outcome : Outcome)
  /-- News that no command of this participant caused. -/
  | notice (event : SystemEvent)
  deriving DecidableEq

/-- The event inside an arriving message. A refusal holds none. -/
def Inbound.event? : Inbound → Option SystemEvent
  | .reply _ (.event e) => some e
  | .reply _ (.refused _) => none
  | .notice e => some e

/-- The command that an arriving message replies to. -/
def Inbound.commandId? : Inbound → Option CommandId
  | .reply id _ => some id
  | .notice _ => none

/-- The document as it is shown to the user. -/
structure DocumentView where
  /-- The name of the document. -/
  id : ObjectId
  /-- Its title. -/
  title : String
  deriving DecidableEq

end Whiteboard
