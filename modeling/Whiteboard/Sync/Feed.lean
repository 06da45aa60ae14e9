import Std.Data.ExtTreeMap
import Whiteboard.Fault
import Whiteboard.Message.Basic

/-!
# The feed of events

Every event that is routed goes to all who subscribed before it. The feed keeps only the latest
events; a subscriber who is too slow is told how many were missed and goes on with the oldest one
kept. Without subscribers nothing is kept.
-/

namespace Whiteboard

open Std

/-- Who caused an event. -/
inductive Origin
  /-- A command of this participant. -/
  | myself (id : CommandId)
  /-- Someone else. -/
  | system
  deriving DecidableEq

/-- Who caused an arriving message. -/
def Inbound.origin : Inbound → Origin
  | .reply id _ => .myself id
  | .notice _ => .system

/-- An event with its origin. -/
structure Routed where
  /-- Who caused it. -/
  origin : Origin
  /-- What happened. -/
  event : SystemEvent
  deriving DecidableEq

/-- What a subscriber knows itself by. -/
abbrev SubscriptionId := Nat

/-- What a subscriber receives. -/
inductive Received
  /-- Nothing new. -/
  | empty
  /-- The next event. -/
  | event (e : Routed)
  /-- So many events are gone. -/
  | missed (count : Nat)
  deriving DecidableEq

/-- The feed of events. -/
structure Feed where
  /-- How many events are kept. -/
  capacity : Nat
  /-- How many events were sent to subscribers. -/
  sent : Nat
  /-- The latest of them, oldest first. -/
  kept : List Routed
  /-- For every subscriber, how many events were sent before the one it receives next. -/
  subscribers : ExtTreeMap SubscriptionId Nat
  /-- The number of the next subscriber. -/
  nextId : SubscriptionId

namespace Feed

/-- The fault of a feed that would keep nothing. -/
def zeroCapacity : Fault := ⟨"broadcast channel capacity cannot be zero"⟩

/-- The greatest number of events that a feed can be asked to keep. -/
def greatestCapacity : Nat := 0x7fffffffffffffff

/-- The fault of a feed that is asked to keep more. -/
def excessCapacity : Fault := ⟨"broadcast channel capacity exceeded `usize::MAX / 2`"⟩

/-- The number of bytes set aside for every event that can be kept. -/
def placeSize : Nat := 136

/-- A feed that keeps at least the given number of events, which must not be zero. The number kept
is a power of two, and there must be memory for so many. -/
def create (capacity : Nat) : Except Fault Feed :=
  if capacity = 0 then .error zeroCapacity
  else if greatestCapacity < capacity then .error excessCapacity
  else if memoryLimit ≤ capacity.nextPowerOfTwo * placeSize then .error .overflow
  else .ok ⟨capacity.nextPowerOfTwo, 0, [], ∅, 0⟩

/-- How many subscribers there are. -/
def count (f : Feed) : Nat := f.subscribers.size

/-- A new subscriber, who receives the events sent from now on. -/
def subscribe (f : Feed) : Feed × SubscriptionId :=
  ({ f with subscribers := f.subscribers.insert f.nextId f.sent, nextId := f.nextId + 1 }, f.nextId)

/-- A subscriber goes away. -/
def unsubscribe (f : Feed) (id : SubscriptionId) : Feed :=
  { f with subscribers := f.subscribers.erase id }

/-- Sends an event to all subscribers. -/
def send (f : Feed) (e : Routed) : Feed :=
  if f.subscribers.isEmpty then f
  else
    let all := f.kept ++ [e]
    { f with sent := f.sent + 1, kept := all.drop (all.length - f.capacity) }

/-- What a subscriber receives next. -/
def receive (f : Feed) (id : SubscriptionId) : Feed × Received :=
  match f.subscribers[id]? with
  | none => (f, .empty)
  | some next =>
    let oldest := f.sent - f.kept.length
    if next < oldest then
      ({ f with subscribers := f.subscribers.insert id oldest }, .missed (oldest - next))
    else
      match f.kept[next - oldest]? with
      | some e => ({ f with subscribers := f.subscribers.insert id (next + 1) }, .event e)
      | none => (f, .empty)

end Feed

end Whiteboard
