import Whiteboard.Scenario.Answer

/-!
# Scripted listeners and callers

In a scenario of a client, listeners and callers go by names. A listener has a script: the acts
that it performs when it is called, perhaps only the first few times. Acts may add and remove
listeners, make edits and route frames, and so lead to further calls.
-/

namespace Whiteboard.Scenario

open Log (Note)

/-- One act of a listener. -/
inductive Act
  /-- Makes an edit, tells the listeners and sends what it queued. -/
  | push (edit : Edit)
  /-- Makes an edit and leaves it at that. -/
  | pushCore (edit : Edit)
  /-- Routes a frame. -/
  | route (frame : Frame)
  /-- Registers a listener for an object. -/
  | addObject (name : String) (object : ObjectId) (script : List Act) (times : Option Nat)
  /-- Registers a listener for the roster. -/
  | addRoster (name : String) (script : List Act) (times : Option Nat)
  /-- Removes the listener of a name from an object. -/
  | removeObject (name : String) (object : ObjectId)
  /-- Removes the listener of a name from the roster. -/
  | removeRoster (name : String)
  /-- Looks at the current document. -/
  | view
  /-- Looks at the roster. -/
  | roster
  /-- Counts the awaited replies. -/
  | pending
  /-- Fails. -/
  | fail (message : String)

/-- A listener with its script. -/
structure Listener where
  /-- Its name. -/
  name : String
  /-- What tells it apart from others of the same name. -/
  serial : Nat
  /-- What it does when it is called. -/
  script : List Act
  /-- How often it does so; always if nothing. -/
  times : Option Nat

/-- One thing that happened while listeners were called. -/
inductive Entry
  /-- A listener was called. -/
  | called (name : String) (notice : Notice)
  /-- A listener performed an act. -/
  | did (name : String) (act : Act) (answer : Answer)

/-- What is remembered from step to step, and what happened in the present one. -/
structure Memory where
  /-- The listener number last given to each name, latest first. -/
  names : List (String × ListenerId)
  /-- How many listeners were registered. -/
  serials : Nat
  /-- How often each listener was called, latest count first. -/
  calls : List (Nat × Nat)
  /-- What happened in the present step. -/
  trace : List Entry
  /-- The subscriptions by name. -/
  subscriptions : List (String × SubscriptionId)
  /-- The handles of replies by name. -/
  handles : List (String × PendingReply)
  /-- The waiting callers by name. -/
  callers : List (String × Wait)

/-- Nothing is remembered. -/
def Memory.empty : Memory := ⟨[], 0, [], [], [], [], []⟩

/-- The table with a new entry in place of any of the same name. -/
def bindName {α : Type} (table : List (String × α)) (name : String) (a : α) :
    List (String × α) :=
  (name, a) :: table.filter (·.1 ≠ name)

/-- The table without the entry of a name. -/
def unbindName {α : Type} (table : List (String × α)) (name : String) : List (String × α) :=
  table.filter (·.1 ≠ name)

/-- A participant that can be made to fail. -/
structure FrailCore where
  /-- The participant. -/
  participant : Participant
  /-- Whether commands cannot be encoded. -/
  refusesEncode : Bool
  /-- Whether edits cannot be made. -/
  refusesPush : Bool

/-- A step of the participant inside. -/
def FrailCore.inside {α : Type} (c : FrailCore) (step : Participant → Participant × α) :
    FrailCore × α :=
  ({ c with participant := (step c.participant).1 }, (step c.participant).2)

instance : Core FrailCore where
  encode c command :=
    if c.refusesEncode then (c, .error (.codec (.encode "refused")))
    else c.inside (·.encode command)
  lastId c := c.participant.lastId
  apply c frame := c.inside (·.apply frame)
  applyNotes c frame := c.participant.applyNotes frame
  push c edit := if c.refusesPush then (c, .error .notInSession) else c.inside (·.push edit)
  pushNotes c := if c.refusesPush then [] else c.participant.pushNotes
  takeInvalidated c := c.inside Participant.takeInvalidated
  takeRosterChange c := c.inside Participant.takeRosterChange
  takeOutbound c := c.inside Participant.takeOutbound
  queued c := c.participant.outbound.length
  requeue c frame := { c with participant := c.participant.requeue frame }
  view c := c.participant.view
  roster c := c.participant.roster

/-- The client of a scenario. -/
abbrev Stage := Client FrailCore Listener Memory

/-- A step on the client of a scenario. -/
abbrev StageAction := Action FrailCore Listener Memory

/-- What the listeners of a scenario do when they are called. -/
abbrev StageReaction := Reaction FrailCore Listener Memory

namespace Stage

/-- Changes what is remembered. -/
def remember (change : Memory → Memory) : StageAction Unit :=
  modify fun s => { s with memory := change s.memory }

/-- Notes what happened. -/
def happen (entry : Entry) : StageAction Unit :=
  remember fun m => { m with trace := m.trace ++ [entry] }

/-- A new listener. -/
def newListener (name : String) (script : List Act) (times : Option Nat) :
    StageAction Listener := do
  let serial := (← get).memory.serials
  remember fun m => { m with serials := m.serials + 1 }
  return ⟨name, serial, script, times⟩

/-- Gives a name to a listener number. -/
def nameListener (name : String) (id : ListenerId) : StageAction Answer := do
  remember fun m => { m with names := bindName m.names name id }
  return .listener id

/-- Registers a listener for an object. -/
def addObject (name : String) (object : ObjectId) (script : List Act) (times : Option Nat) :
    StageAction Answer := do
  let listener ← newListener name script times
  nameListener name (← Client.onObjectWatchers (·.add object listener))

/-- Registers a listener for the roster. -/
def addRoster (name : String) (script : List Act) (times : Option Nat) :
    StageAction Answer := do
  let listener ← newListener name script times
  nameListener name (← Client.onRosterWatchers (·.add listener))

/-- Removes the listener of a name from an object. -/
def removeObject (name : String) (object : ObjectId) : StageAction Answer := do
  match (← get).memory.names.lookup name with
  | none => return .unnamed
  | some id => return .flag (← Client.onObjectWatchers (·.remove object id))

/-- Removes the listener of a name from the roster. -/
def removeRoster (name : String) : StageAction Answer := do
  match (← get).memory.names.lookup name with
  | none => return .unnamed
  | some id => return .flag (← Client.onRosterWatchers (·.remove id))

/-- Performs one act, with the given reaction to the calls that it leads to. -/
def perform (react : StageReaction) : Act → StageAction Answer
  | .push edit => return .ofSync (← Client.pushDocument react edit)
  | .pushCore edit => return .ofCore (← Client.pushCore edit)
  | .route frame => return .routed (← Client.route react frame)
  | .addObject name object script times => addObject name object script times
  | .addRoster name script times => addRoster name script times
  | .removeObject name object => removeObject name object
  | .removeRoster name => removeRoster name
  | .view => return .view (Core.view (← get).core)
  | .roster => return .roster (Core.roster (← get).core)
  | .pending => return .count (← get).replies.count
  | .fail message => throw ⟨message⟩

/-- Performs the acts of a listener in order. -/
def performAll (react : StageReaction) (name : String) : List Act → StageAction Unit
  | [] => return
  | act :: rest => do
    let answer ← perform react act
    happen (.did name act answer)
    performAll react name rest

/-- Counts a call of a listener and says how often it was called before. -/
def countCall (serial : Nat) : StageAction Nat := do
  let before := ((← get).memory.calls.lookup serial).getD 0
  remember fun m => { m with calls := (serial, before + 1) :: m.calls.filter (·.1 ≠ serial) }
  return before

/-- What a listener does when it is called, with calls nested to a limited depth. -/
def react : Nat → StageReaction
  | 0, _, _ => throw ⟨"calls are nested too deeply"⟩
  | depth + 1, listener, notice => do
    happen (.called listener.name notice)
    let before ← countCall listener.serial
    if listener.times.all (before < ·) then performAll (react depth) listener.name listener.script

/-- How deeply calls of listeners can be nested. -/
def depthLimit : Nat := 1000000

/-- What a listener does when a step leads to its call. -/
def reaction : StageReaction := react depthLimit

end Stage

end Whiteboard.Scenario
