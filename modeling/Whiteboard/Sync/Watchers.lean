import Whiteboard.Document.Keys

/-!
# Listeners

Listeners are registered for single objects or for the roster, and known by numbers that are never
given out twice. An object for which no listener is left is not kept.
-/

namespace Whiteboard

open Std

/-- What a registered listener is known by. -/
abbrev ListenerId := Nat

/-- Listeners in the order of their numbers. -/
abbrev ListenerMap (L : Type) := ExtTreeMap ListenerId L

/-- The listeners registered for objects. -/
structure ObjectWatchers (L : Type) where
  /-- The listeners of every object that has some. -/
  listeners : ObjectMap (ListenerMap L)
  /-- The number of the next listener. -/
  nextId : ListenerId

namespace ObjectWatchers

variable {L : Type}

/-- No listeners. -/
def empty : ObjectWatchers L := ⟨∅, 0⟩

/-- The listeners of an object. -/
def of (w : ObjectWatchers L) (object : ObjectId) : ListenerMap L := (w.listeners[object]?).getD ∅

/-- Registers a listener for an object. -/
def add (w : ObjectWatchers L) (object : ObjectId) (listener : L) :
    ObjectWatchers L × ListenerId :=
  ({ listeners := w.listeners.insert object ((w.of object).insert w.nextId listener)
     nextId := w.nextId + 1 }, w.nextId)

/-- Removes a listener of an object. Says whether it was registered for that object. -/
def remove (w : ObjectWatchers L) (object : ObjectId) (id : ListenerId) :
    ObjectWatchers L × Bool :=
  match w.listeners[object]? with
  | none => (w, false)
  | some set =>
    let left := set.erase id
    let listeners :=
      if left.isEmpty then w.listeners.erase object else w.listeners.insert object left
    ({ w with listeners }, set.contains id)

/-- How many listeners an object has. -/
def count (w : ObjectWatchers L) (object : ObjectId) : Nat := (w.of object).size

/-- Whether a listener is registered for an object. -/
def isRegistered (w : ObjectWatchers L) (object : ObjectId) (id : ListenerId) : Bool :=
  (w.of object).contains id

end ObjectWatchers

/-- The listeners registered for the roster. -/
structure RosterWatchers (L : Type) where
  /-- The listeners. -/
  listeners : ListenerMap L
  /-- The number of the next listener. -/
  nextId : ListenerId

namespace RosterWatchers

variable {L : Type}

/-- No listeners. -/
def empty : RosterWatchers L := ⟨∅, 0⟩

/-- Registers a listener. -/
def add (w : RosterWatchers L) (listener : L) : RosterWatchers L × ListenerId :=
  ({ listeners := w.listeners.insert w.nextId listener, nextId := w.nextId + 1 }, w.nextId)

/-- Removes a listener. Says whether it was registered. -/
def remove (w : RosterWatchers L) (id : ListenerId) : RosterWatchers L × Bool :=
  ({ w with listeners := w.listeners.erase id }, w.listeners.contains id)

/-- How many listeners there are. -/
def count (w : RosterWatchers L) : Nat := w.listeners.size

/-- Whether a listener is registered. -/
def isRegistered (w : RosterWatchers L) (id : ListenerId) : Bool := w.listeners.contains id

end RosterWatchers

end Whiteboard
