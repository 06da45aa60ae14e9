import Whiteboard.Scenario.Answer

/-!
# Scenarios of participants

Several participants, who share one supply of identifiers, take steps in turn. The frame that any
of them took from its queue last is remembered, so that it can be put back.
-/

namespace Whiteboard.Scenario

open Log (Note)

/-- A step of a participant. -/
inductive ParticipantStep
  /-- Encodes a command. -/
  | encode (command : Command)
  /-- Reads an inbound frame. -/
  | decode (frame : Frame)
  /-- Applies an inbound frame. -/
  | apply (frame : Frame)
  /-- Makes an edit. -/
  | push (edit : Edit)
  /-- Takes the objects to be looked at again. -/
  | takeInvalidated
  /-- Takes the roster, if it is a new one. -/
  | takeRoster
  /-- Takes the oldest frame of the queue. -/
  | takeOutbound
  /-- Puts a frame back: the given one, or the one taken last. -/
  | requeue (frame? : Option Frame)

/-- The fault that the answer of a participant comes to. Whoever looks at a frame reads it, so a
frame that cannot be held is one too. -/
def Answer.fault? : Answer → Option Fault
  | .codecError e => e.fault?
  | .coreError e => e.fault?
  | .frame f =>
    match Request.ofFrame f with
    | .ok _ => none
    | .error e => e.fault?
  | _ => none

/-- Participants who share a supply of identifiers. -/
structure Group where
  /-- The participants. -/
  members : List Participant
  /-- The shared supply. -/
  ids : IdSource
  /-- The frame taken from a queue last. -/
  lastTaken : Frame

namespace Group

/-- New participants, created in order. -/
def create : Nat → IdSource → Group
  | 0, ids => ⟨[], ids, []⟩
  | n + 1, ids =>
    let p := Participant.create ids
    let others := create n p.ids
    { others with members := p :: others.members }

/-- What a step of one participant gives: the participant, the frame taken last, what the log says
and the answer. -/
def performOn (p : Participant) (lastTaken : Frame) :
    ParticipantStep → Participant × Frame × List Note × Answer
  | .encode command =>
    match p.encode command with
    | (p, .ok frame) => (p, lastTaken, [], .frame frame)
    | (p, .error e) => (p, lastTaken, [], .coreError e)
  | .decode frame =>
    match Inbound.ofFrame frame with
    | .ok m => (p, lastTaken, [], .message m)
    | .error e => (p, lastTaken, [], .codecError e)
  | .apply frame => ((p.apply frame).1, lastTaken, p.applyNotes frame, .ofCore (p.apply frame).2)
  | .push edit => ((p.push edit).1, lastTaken, p.pushNotes, .ofCore (p.push edit).2)
  | .takeInvalidated => (p.takeInvalidated.1, lastTaken, [], .objects p.takeInvalidated.2)
  | .takeRoster =>
    match p.takeRosterChange with
    | (p, some roster) => (p, lastTaken, [], .roster roster)
    | (p, none) => (p, lastTaken, [], .nothing)
  | .takeOutbound =>
    match p.takeOutbound with
    | (p, some frame) => (p, frame, [], .frame frame)
    | (p, none) => (p, lastTaken, [], .nothing)
  | .requeue frame? => (p.requeue (frame?.getD lastTaken), lastTaken, [], .done)

/-- Performs a step of the participant with the given number, if there is one. Gives its status
afterwards, unless a fault ends the scenario. -/
def perform (g : Group) (number : Nat) (step : ParticipantStep) :
    Group × Option (Except Fault (List Note × Answer × Status)) :=
  match g.members[number]? with
  | none => (g, none)
  | some p =>
    let (p, lastTaken, notes, answer) := performOn { p with ids := g.ids } g.lastTaken step
    let result :=
      match answer.fault? with
      | some fault => .error fault
      | none => .ok (notes, answer, Status.of p)
    (⟨g.members.set number p, p.ids, lastTaken⟩, some result)

end Group

end Whiteboard.Scenario
