import Whiteboard.Sync.Core
import Whiteboard.Sync.Feed
import Whiteboard.Sync.Link
import Whiteboard.Sync.Replies
import Whiteboard.Sync.Watchers

/-!
# The client

A client joins a participant to a link. It sends commands and matches the replies to their
callers, applies inbound frames, tells listeners what changed, and feeds the events to
subscribers.

Listeners are called in the middle of an operation and may use the client themselves. So every
operation that calls them takes a reaction, which says what a listener does when it is called; a
reaction may also fail, and then the operation ends there, with everything done so far kept.

## Main definitions

- `Client` — the state of a client, with whatever its listeners remember
- `Action` — a step of a client, which may end in a fault
- `Reaction` — what listeners do when they are called
- `Delivery` — how events and replies are handed on
- `Client.submit`, `Client.poll`, `Client.expire` — commands and their replies
- `Client.notifyObjects`, `Client.notifyRoster` — calling the listeners
- `Client.routeBy`, `Client.route`, `Client.run` — inbound frames
- `Client.drain`, `Client.pushDocument` — edits and the frames they queue
-/

namespace Whiteboard

open Log (Note)

/-- How a client is set up. -/
structure Settings where
  /-- How long a caller waits for a reply, in milliseconds; without a limit if nothing. -/
  replyTimeout : Option Nat
  /-- How many events the feed keeps at least. -/
  eventCapacity : Nat
  /-- Whether commands are logged. -/
  logCommands : Bool
  deriving DecidableEq

/-- The usual settings. -/
def Settings.usual : Settings := ⟨none, 256, true⟩

/-- The state of a client over a participant of type `C`, with listeners of type `L` that remember
an `M`. -/
structure Client (C L M : Type) where
  /-- The participant. -/
  core : C
  /-- The link to the relay. -/
  link : Link
  /-- The replies awaited. -/
  replies : Replies
  /-- The listeners for objects. -/
  objectWatchers : ObjectWatchers L
  /-- The listeners for the roster. -/
  rosterWatchers : RosterWatchers L
  /-- The feed of events. -/
  feed : Feed
  /-- How the client is set up. -/
  settings : Settings
  /-- The time, in milliseconds. -/
  now : Nat
  /-- The log, oldest note first. -/
  log : List Note
  /-- What the listeners remember. -/
  memory : M

/-- A step of a client. A fault keeps the state that was reached. -/
abbrev Action (C L M : Type) := EStateM Fault (Client C L M)

/-- What a listener is called with. -/
inductive Notice
  /-- An object has to be looked at again. -/
  | object (id : ObjectId)
  /-- The roster is a new one. -/
  | roster (r : Roster)
  deriving DecidableEq

/-- What listeners do when they are called. -/
abbrev Reaction (C L M : Type) := L → Notice → Action C L M Unit

/-- How an event reaches the subscribers, and a reply its caller. -/
structure Delivery (C L M : Type) where
  /-- Gives an event to the subscribers. -/
  broadcast : Routed → Action C L M Unit
  /-- Delivers the reply to a command. Says whether it was awaited. -/
  settle : CommandId → Outcome → Action C L M Bool

/-- Whether the caller of a command expects a reply. -/
inductive ReplyMode
  /-- A reply is expected. -/
  | expect
  /-- None is. -/
  | ignore
  deriving DecidableEq

/-- What became of an inbound frame. -/
inductive RouteOutcome
  /-- It could not be read. -/
  | dropped
  /-- It was read, and perhaps was a reply that someone awaited. -/
  | routed (origin : Origin) (correlated : Bool)
  deriving DecidableEq

namespace Client

variable {C L M : Type} [Core C]

/-- A new client, if there can be a feed of the capacity asked for. -/
def create (core : C) (settings : Settings) (memory : M) : Except Fault (Client C L M) :=
  (Feed.create settings.eventCapacity).map fun feed =>
    { core, link := .create, replies := .empty, objectWatchers := .empty
      rosterWatchers := .empty, feed, settings, now := 0, log := [], memory }

/-- Adds notes to the log. -/
def note (notes : List Note) : Action C L M Unit := modify fun c => { c with log := c.log ++ notes }

/-- A step of the participant. -/
def onCore {α : Type} (step : C → C × α) : Action C L M α :=
  modifyGet fun c => ((step c.core).2, { c with core := (step c.core).1 })

/-- A step of the link. -/
def onLink {α : Type} (step : Link → Link × α) : Action C L M α :=
  modifyGet fun c => ((step c.link).2, { c with link := (step c.link).1 })

/-- A step of the awaited replies. -/
def onReplies {α : Type} (step : Replies → Replies × α) : Action C L M α :=
  modifyGet fun c => ((step c.replies).2, { c with replies := (step c.replies).1 })

/-- A step of the feed. -/
def onFeed {α : Type} (step : Feed → Feed × α) : Action C L M α :=
  modifyGet fun c => ((step c.feed).2, { c with feed := (step c.feed).1 })

/-- A step of the listeners for objects. -/
def onObjectWatchers {α : Type} (step : ObjectWatchers L → ObjectWatchers L × α) :
    Action C L M α :=
  modifyGet fun c =>
    ((step c.objectWatchers).2, { c with objectWatchers := (step c.objectWatchers).1 })

/-- A step of the listeners for the roster. -/
def onRosterWatchers {α : Type} (step : RosterWatchers L → RosterWatchers L × α) :
    Action C L M α :=
  modifyGet fun c =>
    ((step c.rosterWatchers).2, { c with rosterWatchers := (step c.rosterWatchers).1 })

/-- Lets time pass. -/
def advance (milliseconds : Nat) : Action C L M Unit := do
  match Clock.advance (← get).now milliseconds with
  | .error fault => throw fault
  | .ok now => modify fun c => { c with now }

/-! ### Commands and replies -/

/-- Sends an encoded command whose reply is awaited. If it cannot be sent, its reply is not
awaited any more. -/
def sendExpecting (frame : Frame) (id : CommandId) :
    Action C L M (Except SyncError PendingReply) := do
  match ← onReplies (·.register id) with
  | .error e => return .error e
  | .ok reply =>
    match ← onLink (·.send frame) with
    | .ok () => return .ok reply
    | .error e =>
      let _ ← onReplies (·.forget id)
      return .error (.link e)

/-- Sends a command. Its number is noted as pending before the frame leaves, so that no reply
comes too early. -/
def submit (command : Command) (mode : ReplyMode) :
    Action C L M (Except SyncError (Option PendingReply)) := do
  if (← get).settings.logCommands then note [.submitted command]
  match ← onCore (Core.encode · command) with
  | .error e => return .error (.core e)
  | .ok frame =>
    match mode with
    | .expect => return (← sendExpecting frame (Core.lastId (← get).core)).map some
    | .ignore =>
      match ← onLink (·.send frame) with
      | .ok () => return .ok none
      | .error e => return .error (.link e)

/-- Delivers the reply to a command. Says whether it was awaited. -/
def resolve (id : CommandId) (outcome : Outcome) : Action C L M Bool := do
  note ((← get).replies.resolveNotes id)
  onReplies (·.resolve id outcome)

/-- A caller begins to wait. -/
def beginWait (reply : PendingReply) (limit : Option Nat) : Action C L M Wait := do
  return ⟨reply, limit, (← get).now⟩

/-- The time of a waiting caller is up. -/
def expire (wait : Wait) : Action C L M (Option (Except SyncError SystemEvent)) := do
  note ((← get).replies.expireNotes wait)
  onReplies (·.expire wait.reply)

/-- Looks at a waiting caller: the outcome if there is one. -/
def poll (wait : Wait) : Action C L M (Option (Except SyncError SystemEvent)) := do
  let c ← get
  note (c.replies.pollNotes wait c.now)
  onReplies (·.poll wait c.now)

/-- Sends a command and begins to wait for the reply. -/
def request (command : Command) : Action C L M (Except SyncError Wait) := do
  match ← submit command .expect with
  | .error e => return .error e
  | .ok none => return .error .abandoned
  | .ok (some reply) => return .ok (← beginWait reply (← get).settings.replyTimeout)

/-- Sends a drawn segment. Nobody waits for its echo. -/
def sendFragment (f : Fragment) : Action C L M (Except SyncError Unit) := do
  return (← submit (.session (.fragment f)) .ignore).map fun _ => ()

/-! ### Calling the listeners -/

/-- Calls the given listeners of an object, leaving out those that are not registered any more
when their turn comes. Counts the calls. -/
def callObjectListeners (react : Reaction C L M) (object : ObjectId) :
    List (ListenerId × L) → Action C L M Nat
  | [] => return 0
  | (id, listener) :: rest => do
    if (← get).objectWatchers.isRegistered object id then
      react listener (.object object)
      return (← callObjectListeners react object rest) + 1
    else callObjectListeners react object rest

/-- Calls all listeners of the given objects, one object after the other. Counts the calls. -/
def notifyObjects (react : Reaction C L M) : List ObjectId → Action C L M Nat
  | [] => return 0
  | object :: rest => do
    let calls ← callObjectListeners react object ((← get).objectWatchers.of object).toList
    return calls + (← notifyObjects react rest)

/-- Calls the given listeners with a roster, leaving out those that are not registered any more
when their turn comes. -/
def callRosterListeners (react : Reaction C L M) (roster : Roster) :
    List (ListenerId × L) → Action C L M Unit
  | [] => return
  | (id, listener) :: rest => do
    if (← get).rosterWatchers.isRegistered id then react listener (.roster roster)
    callRosterListeners react roster rest

/-- Calls all listeners for the roster. -/
def notifyRoster (react : Reaction C L M) (roster : Roster) : Action C L M Unit := do
  note [.roster roster]
  callRosterListeners react roster (← get).rosterWatchers.listeners.toList

/-- Takes the objects to be looked at again and tells their listeners. Counts the calls. -/
def publishObjects (react : Reaction C L M) : Action C L M Nat := do
  notifyObjects react (← onCore Core.takeInvalidated)

/-- Takes the roster, if it is a new one, and tells the listeners. -/
def publishRoster (react : Reaction C L M) : Action C L M (Option Roster) := do
  match ← onCore Core.takeRosterChange with
  | none => return none
  | some roster =>
    notifyRoster react roster
    return some roster

/-! ### Inbound frames -/

/-- Applies an inbound frame to the participant. -/
def applyFrame (frame : Frame) : Action C L M (Except CoreError Unit) := do
  note (Core.applyNotes (← get).core frame)
  onCore (Core.apply · frame)

/-- The client's own feed, and the replies that it awaits. -/
def delivery : Delivery C L M where
  broadcast routed := onFeed fun feed => (feed.send routed, ())
  settle := resolve

/-- Makes an event known: the participant applies its frame, the listeners are told what changed,
and the subscribers get the event, also if it could not be applied. -/
def spreadBy (delivery : Delivery C L M) (react : Reaction C L M) (frame : Frame) (origin : Origin)
    (event : SystemEvent) : Action C L M Unit := do
  match ← applyFrame frame with
  | .ok () => pure ()
  | .error e => note [.notApplied event e]
  let _ ← publishObjects react
  let _ ← publishRoster react
  delivery.broadcast ⟨origin, event⟩

/-- Makes an event known to the client's own subscribers. -/
def spread (react : Reaction C L M) (frame : Frame) (origin : Origin) (event : SystemEvent) :
    Action C L M Unit :=
  spreadBy delivery react frame origin event

/-- Gives up a frame that could not be read. -/
def dropFrame (frame : Frame) (e : CodecError) : Action C L M RouteOutcome := do
  match e.fault? with
  | some fault => throw fault
  | none =>
    note [.undecodable frame.length e]
    return .dropped

/-- Routes an inbound frame, with the given ways for events and replies. A reply is delivered last,
so that its caller finds everything in place. -/
def routeBy (delivery : Delivery C L M) (react : Reaction C L M) (frame : Frame) :
    Action C L M RouteOutcome := do
  match Inbound.ofFrame frame with
  | .error e => dropFrame frame e
  | .ok message =>
    match message.event? with
    | some event => spreadBy delivery react frame message.origin event
    | none => pure ()
    match message with
    | .reply id outcome => return .routed (.myself id) (← delivery.settle id outcome)
    | .notice _ => return .routed .system false

/-- Routes an inbound frame to the client's own subscribers and callers. -/
def route (react : Reaction C L M) (frame : Frame) : Action C L M RouteOutcome :=
  routeBy delivery react frame

/-- Routes the given frames. -/
def routeAll (react : Reaction C L M) : List Frame → Action C L M Unit
  | [] => return
  | frame :: rest => do
    let _ ← route react frame
    routeAll react rest

/-- Routes the frames of an inbound stream until it ends. Then no reply can come any more. -/
def run (react : Reaction C L M) (frames : List Frame) : Action C L M Unit := do
  routeAll react frames
  let abandoned ← onReplies Replies.abandonAll
  note [.streamClosed frames.length abandoned]

/-! ### Edits -/

/-- Sends queued frames in order, at most the given number of them. A frame that is refused goes
back to the front of the queue. Gives the number of frames sent, to which those sent before are
added. -/
def drainFrom : Nat → Nat → Action C L M (Except SyncError Nat)
  | 0, sent => return .ok sent
  | limit + 1, sent => do
    match ← onCore Core.takeOutbound with
    | none => return .ok sent
    | some frame =>
      match ← onLink (·.send frame) with
      | .ok () => drainFrom limit (sent + 1)
      | .error e =>
        onCore fun core => (Core.requeue core frame, ())
        note [.sendFailed sent e]
        return .error (.link e)

/-- Sends all queued frames. -/
def drain : Action C L M (Except SyncError Nat) := do
  let result ← drainFrom (Core.queued (← get).core) 0
  match result with
  | .ok sent => if 0 < sent then note [.drained sent]
  | .error _ => pure ()
  return result

/-- Makes an edit to the current document, without telling anyone. -/
def pushCore (edit : Edit) : Action C L M (Except CoreError Unit) := do
  note (Core.pushNotes (← get).core)
  onCore (Core.push · edit)

/-- Makes an edit to the current document, tells the listeners, and sends the frames that it
queued. -/
def pushDocument (react : Reaction C L M) (edit : Edit) :
    Action C L M (Except SyncError Nat) := do
  match ← pushCore edit with
  | .error e => return .error (.core e)
  | .ok () =>
    let _ ← publishObjects react
    drain

end Client

end Whiteboard
