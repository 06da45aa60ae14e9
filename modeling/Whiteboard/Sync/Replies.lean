import Std.Data.ExtTreeMap
import Whiteboard.Log
import Whiteboard.Sync.Clock

/-!
# Awaited replies

A caller who expects a reply gets a handle, and the number of the command is noted as pending
together with the handle's box. The reply, when it comes, is put into the box and the number is
not pending any more; so a box is filled at most once. A pending number can also be given up, and
its box then stays empty forever.

## Main definitions

- `PendingReply` — the handle of a caller
- `Replies` — the pending numbers and the boxes
- `Replies.register`, `Replies.resolve`, `Replies.forget`, `Replies.abandonAll` — the life of a
  number
- `Replies.outcome?`, `Replies.expire` — what a caller finds in the box, and when its time is up
- `Wait`, `Replies.poll` — waiting with a limit
-/

namespace Whiteboard

open Std

/-- What a box holds. -/
inductive BoxContents
  /-- Nothing yet. -/
  | awaited
  /-- The reply. -/
  | delivered (outcome : Outcome)
  /-- Nothing ever. -/
  | abandoned
  deriving DecidableEq

/-- A box in which a reply is delivered. -/
structure ReplyBox where
  /-- What it holds. -/
  contents : BoxContents
  /-- Whether the caller still looks at it. -/
  watched : Bool
  deriving DecidableEq

/-- The handle of a caller who expects a reply. -/
structure PendingReply where
  /-- The number of the command. -/
  id : CommandId
  /-- The number of the box. -/
  box : Nat
  deriving DecidableEq

/-- The numbers whose replies are awaited, and the boxes given out. -/
structure Replies where
  /-- The box of every pending number. -/
  pending : ExtTreeMap CommandId Nat
  /-- All boxes given out. -/
  boxes : ExtTreeMap Nat ReplyBox
  /-- How many boxes were given out. -/
  issued : Nat

/-- What a reply means to the caller. -/
def Outcome.settle : Outcome → Except SyncError SystemEvent
  | .event e => .ok e
  | .refused r => .error (.rejected r)

namespace Replies

/-- Nothing is awaited. -/
def empty : Replies := ⟨∅, ∅, 0⟩

/-- How many replies are awaited. -/
def count (r : Replies) : Nat := r.pending.size

/-- Whether the reply to a command is awaited. -/
def isPending (r : Replies) (id : CommandId) : Bool := r.pending.contains id

/-- Changes what a box holds. -/
def fill (r : Replies) (box : Nat) (contents : BoxContents) : Replies :=
  { r with boxes := r.boxes.modify box fun b => { b with contents } }

/-- Awaits the reply to a command, unless a reply to the same number is awaited already. -/
def register (r : Replies) (id : CommandId) : Replies × Except SyncError PendingReply :=
  if r.isPending id then (r, .error (.duplicate id))
  else
    ({ pending := r.pending.insert id r.issued
       boxes := r.boxes.insert r.issued ⟨.awaited, true⟩
       issued := r.issued + 1 }, .ok ⟨id, r.issued⟩)

/-- Takes a number out of the pending ones, leaving the given contents in its box. Says whether it
was pending. -/
def remove (r : Replies) (id : CommandId) (contents : BoxContents) : Replies × Bool :=
  match r.pending[id]? with
  | none => (r, false)
  | some box => ({ r with pending := r.pending.erase id }.fill box contents, true)

/-- Delivers the reply to a command. Says whether it was awaited. -/
def resolve (r : Replies) (id : CommandId) (outcome : Outcome) : Replies × Bool :=
  r.remove id (.delivered outcome)

/-- Gives up the reply to a command. Says whether it was awaited. -/
def forget (r : Replies) (id : CommandId) : Replies × Bool := r.remove id .abandoned

/-- Gives up all replies. Says how many were awaited. -/
def abandonAll (r : Replies) : Replies × Nat :=
  let boxes := r.pending.toList.map Prod.snd
  (boxes.foldl (fun r box => r.fill box .abandoned) { r with pending := ∅ }, r.count)

/-- The caller looks away from a box for good. -/
def letGo (r : Replies) (reply : PendingReply) : Replies :=
  { r with boxes := r.boxes.modify reply.box fun b => { b with watched := false } }

/-- What a caller finds in the box, if the wait is over. -/
def outcome? (r : Replies) (reply : PendingReply) : Option (Except SyncError SystemEvent) :=
  match (r.boxes[reply.box]?).map ReplyBox.contents with
  | some (.delivered outcome) => some outcome.settle
  | some .abandoned => some (.error .abandoned)
  | some .awaited | none => none

/-- The time of a caller is up. Only a number that is still pending runs out of time. Any other was
settled just now, and the caller finds out how. -/
def expire (r : Replies) (reply : PendingReply) :
    Replies × Option (Except SyncError SystemEvent) :=
  match r.forget reply.id with
  | (r, true) => (r, some (.error (.timeout reply.id)))
  | (r, false) => (r, r.outcome? reply)

/-- What the log says when the reply to a command is delivered. -/
def resolveNotes (r : Replies) (id : CommandId) : List Log.Note :=
  match (r.pending[id]?).bind fun box => r.boxes[box]? with
  | some b => if b.watched then [] else [.lateReply id]
  | none => []

end Replies

/-- A caller who waits for a reply. -/
structure Wait where
  /-- The handle. -/
  reply : PendingReply
  /-- How long the caller is ready to wait, in milliseconds. -/
  limit : Option Nat
  /-- When the wait began. -/
  since : Nat
  deriving DecidableEq

/-- Whether the limit of a wait has passed at the given time. -/
def Wait.isOver (w : Wait) (now : Nat) : Bool :=
  match w.limit with
  | some limit => Clock.hasFired (w.since + limit) now
  | none => false

/-- Looks at a waiting caller: the outcome if there is one. A reply that is there wins over the
limit. -/
def Replies.poll (r : Replies) (w : Wait) (now : Nat) :
    Replies × Option (Except SyncError SystemEvent) :=
  match r.outcome? w.reply with
  | some outcome => (r, some outcome)
  | none => if w.isOver now then r.expire w.reply else (r, none)

/-- What the log says when the time of a caller is up. -/
def Replies.expireNotes (r : Replies) (w : Wait) : List Log.Note :=
  if r.isPending w.reply.id then [.timedOut w.reply.id (w.limit.getD 0)]
  else [.settledLate w.reply.id]

/-- What the log says when a caller is looked at. -/
def Replies.pollNotes (r : Replies) (w : Wait) (now : Nat) : List Log.Note :=
  match r.outcome? w.reply with
  | some _ => []
  | none => if w.isOver now then r.expireNotes w else []

end Whiteboard
