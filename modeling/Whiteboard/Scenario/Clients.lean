import Whiteboard.Scenario.Stage

/-!
# Scenarios of clients

Steps on a client, or on its parts, with callers, subscriptions and listeners that go by names.
-/

namespace Whiteboard.Scenario

/-- A step on a client. -/
inductive ClientStep
  /-- An act, as a listener would perform it. -/
  | act (a : Act)
  /-- A command whose reply a named caller waits for. -/
  | request (name : String) (command : Command)
  /-- Sends a drawn segment. -/
  | fragment (f : Fragment)
  /-- Routes a stream of frames to its end. -/
  | run (frames : List Frame)
  /-- Gives the settings. -/
  | settings
  /-- Subscribes to the feed under a name. -/
  | subscribe (name : String)
  /-- Ends the subscription of a name. -/
  | unsubscribe (name : String)
  /-- Receives what is next for the subscription of a name. -/
  | receive (name : String)
  /-- Looks at the caller of a name. -/
  | poll (name : String)
  /-- Drops the caller and the handle of a name. -/
  | cancel (name : String)
  /-- Lets time pass. -/
  | advance (milliseconds : Nat)
  /-- Collects the frames sent. -/
  | sent
  /-- Removes the other end of the link. -/
  | close
  /-- Asks for the other end of the link. -/
  | connection
  /-- Sets all faults anew: whether encoding and edits fail, and how sending fails after how many
  frames. -/
  | faults (encode push : Bool) (sendAfter : Option Nat) (refusal : LinkError)
  /-- Does nothing. -/
  | look
  /-- Sends a command, keeping the handle of its reply under a name. -/
  | submit (name : String) (command : Command) (mode : ReplyMode)
  /-- Awaits a reply, keeping its handle under a name. -/
  | register (name : String) (id : CommandId)
  /-- Turns the handle of a name into a waiting caller. -/
  | wait (name : String) (limit : Option Nat)
  /-- Delivers a reply. -/
  | resolve (id : CommandId) (outcome : Outcome)
  /-- Gives up a reply. -/
  | forget (id : CommandId)
  /-- Gives up all replies. -/
  | abandonAll
  /-- Asks whether a reply is awaited. -/
  | isPending (id : CommandId)
  /-- Calls the listeners of objects. -/
  | notifyObjects (ids : List ObjectId)
  /-- Takes the objects to be looked at again and calls their listeners. -/
  | publishObjects
  /-- Counts the listeners of an object. -/
  | countObject (id : ObjectId)
  /-- Calls the listeners for the roster. -/
  | notifyRoster (r : Roster)
  /-- Takes the roster, if it is a new one, and calls the listeners. -/
  | publishRoster
  /-- Counts the listeners for the roster. -/
  | countRoster
  /-- Counts the subscribers. -/
  | countSubscribers
  /-- Applies a frame without routing it. -/
  | apply (frame : Frame)
  /-- Sends the queued frames. -/
  | drain

namespace Stage

/-- A new client, if there can be a feed of the capacity asked for. -/
def create (ids : IdSource) (settings : Settings) : Except Fault Stage :=
  Client.create ⟨Participant.create ids, false, false⟩ settings .empty

/-- Drops the caller of a name, if there is one. -/
def dropCaller (name : String) : StageAction Bool := do
  match (← get).memory.callers.lookup name with
  | none => return false
  | some wait =>
    Client.onReplies fun r => (r.letGo wait.reply, ())
    remember fun m => { m with callers := unbindName m.callers name }
    return true

/-- Drops the handle of a name, if there is one. -/
def dropHandle (name : String) : StageAction Bool := do
  match (← get).memory.handles.lookup name with
  | none => return false
  | some reply =>
    Client.onReplies fun r => (r.letGo reply, ())
    remember fun m => { m with handles := unbindName m.handles name }
    return true

/-- Keeps the handle of a reply under a name. -/
def keepHandle (name : String) (reply : PendingReply) : StageAction Answer := do
  let _ ← dropHandle name
  remember fun m => { m with handles := bindName m.handles name reply }
  return .command reply.id

/-- Looks at a caller, who keeps the name only while the wait goes on. -/
def pollAs (name : String) (wait : Wait) : StageAction Answer := do
  let outcome ← Client.poll wait
  let keep := outcome.isNone
  remember fun m =>
    { m with callers := if keep then bindName m.callers name wait else unbindName m.callers name }
  return .ofPoll outcome

/-- Sends a command whose reply the caller of a name waits for. -/
def request (name : String) (command : Command) : StageAction Answer := do
  let _ ← dropCaller name
  match ← Client.request command with
  | .error e => return .syncError e
  | .ok wait => pollAs name wait

/-- Turns the handle of a name into a waiting caller. -/
def wait (name : String) (limit : Option Nat) : StageAction Answer := do
  match (← get).memory.handles.lookup name with
  | none => return .absent
  | some reply =>
    remember fun m => { m with handles := unbindName m.handles name }
    let _ ← dropCaller name
    pollAs name (← Client.beginWait reply limit)

/-- Ends the subscription of a name, if there is one. -/
def unsubscribe (name : String) : StageAction Bool := do
  match (← get).memory.subscriptions.lookup name with
  | none => return false
  | some id =>
    Client.onFeed fun feed => (feed.unsubscribe id, ())
    remember fun m => { m with subscriptions := unbindName m.subscriptions name }
    return true

/-- Subscribes under a name, in place of an earlier subscription of that name. -/
def subscribe (name : String) : StageAction Unit := do
  let id ← Client.onFeed Feed.subscribe
  let _ ← unsubscribe name
  remember fun m => { m with subscriptions := bindName m.subscriptions name id }

/-- Sets all faults anew. -/
def setFaults (encode push : Bool) (sendAfter : Option Nat) (refusal : LinkError) :
    StageAction Unit :=
  modify fun s =>
    { s with
      core := { s.core with refusesEncode := encode, refusesPush := push }
      link := s.link.setRefusals fun attempt =>
        if sendAfter.any (· ≤ attempt) then some refusal else none }

/-- Performs a step. -/
def performStep : ClientStep → StageAction Answer
  | .act a => perform reaction a
  | .request name command => request name command
  | .fragment f => do
    match ← Client.sendFragment f with
    | .ok () => return .done
    | .error e => return .syncError e
  | .run frames => do
    Client.run reaction frames
    return .done
  | .settings => return .settings (← get).settings
  | .subscribe name => do
    subscribe name
    return .done
  | .unsubscribe name => return .flag (← unsubscribe name)
  | .receive name => do
    match (← get).memory.subscriptions.lookup name with
    | none => return .absent
    | some id => return .received (← Client.onFeed (·.receive id))
  | .poll name => do
    match (← get).memory.callers.lookup name with
    | none => return .absent
    | some wait => pollAs name wait
  | .cancel name => do
    let caller ← dropCaller name
    let handle ← dropHandle name
    return .flag (caller || handle)
  | .advance milliseconds => do
    Client.advance milliseconds
    return .done
  | .sent => return .frames (← Client.onLink Link.collect)
  | .close => return .flag (← Client.onLink fun link => (link.close, link.isOpen))
  | .connection => return .connected (← get).link.isOpen
  | .faults encode push sendAfter refusal => do
    setFaults encode push sendAfter refusal
    return .done
  | .look => return .done
  | .submit name command mode => do
    match ← Client.submit command mode with
    | .error e => return .syncError e
    | .ok none => return .nothing
    | .ok (some reply) => keepHandle name reply
  | .register name id => do
    match ← Client.onReplies (·.register id) with
    | .error e => return .syncError e
    | .ok reply => keepHandle name reply
  | .wait name limit => wait name limit
  | .resolve id outcome => return .flag (← Client.resolve id outcome)
  | .forget id => return .flag (← Client.onReplies (·.forget id))
  | .abandonAll => return .count (← Client.onReplies Replies.abandonAll)
  | .isPending id => return .flag ((← get).replies.isPending id)
  | .notifyObjects ids => return .count (← Client.notifyObjects reaction ids)
  | .publishObjects => return .count (← Client.publishObjects reaction)
  | .countObject id => return .count ((← get).objectWatchers.count id)
  | .notifyRoster r => do
    Client.notifyRoster reaction r
    return .done
  | .publishRoster => do
    match ← Client.publishRoster reaction with
    | some r => return .roster r
    | none => return .nothing
  | .countRoster => return .count (← get).rosterWatchers.count
  | .countSubscribers => return .count (← get).feed.count
  | .apply frame => return .ofCore (← Client.applyFrame frame)
  | .drain => return .ofSync (← Client.drain)

/-- Performs a step on a client whose log and trace are empty. A fault becomes the answer, and
what was done before it stays. -/
def take (s : Stage) (step : ClientStep) : Stage × Answer :=
  match performStep step { s with log := [], memory := { s.memory with trace := [] } } with
  | .ok answer s => (s, answer)
  | .error fault s => (s, .fault fault.message)

end Stage

end Whiteboard.Scenario
