import Whiteboard.Proofs.Participant.Effects
import Whiteboard.Proofs.Sync.Returning

/-!
# What can happen to a client

A client is used from two sides: its user sends requests and segments, edits the document, and adds
and removes listeners and subscribers, while frames arrive. In whatever order this happens, the
client takes one operation after the other.
-/

namespace Whiteboard

/-- What can happen to a client. -/
inductive Operation (L : Type)
  /-- The user sends a command and awaits the reply. -/
  | request (command : Command)
  /-- The user sends a drawn segment. -/
  | fragment (f : Fragment)
  /-- The user edits the document. -/
  | push (edit : Edit)
  /-- A frame arrives. -/
  | route (frame : Frame)
  /-- Frames arrive, and then the stream ends. -/
  | run (frames : List Frame)
  /-- A listener for an object is added. -/
  | watchObject (object : ObjectId) (listener : L)
  /-- A listener for an object is removed. -/
  | unwatchObject (object : ObjectId) (id : ListenerId)
  /-- A listener for the roster is added. -/
  | watchRoster (listener : L)
  /-- A listener for the roster is removed. -/
  | unwatchRoster (id : ListenerId)
  /-- Someone subscribes to the events. -/
  | subscribe
  /-- A subscriber goes away. -/
  | unsubscribe (id : SubscriptionId)
  /-- A subscriber receives what is next. -/
  | receive (id : SubscriptionId)
  /-- Time passes. -/
  | advance (milliseconds : Nat)

/-- What an operation gives back, as far as it is about commands and frames. -/
inductive Answer
  /-- The request is on its way, and its caller waits. -/
  | waiting (wait : Wait)
  /-- The operation failed. -/
  | failed (e : SyncError)
  /-- The frame was routed. -/
  | routed (outcome : RouteOutcome)
  /-- Nothing to report. -/
  | done

namespace Operation

variable {C L M : Type} [Core C]

/-- Performs an operation. -/
def perform (react : Reaction C L M) : Operation L → Action C L M Answer
  | .request command => do
    match ← Client.request command with
    | .ok wait => return .waiting wait
    | .error e => return .failed e
  | .fragment f => do
    match ← Client.sendFragment f with
    | .ok () => return .done
    | .error e => return .failed e
  | .push edit => do
    match ← Client.pushDocument react edit with
    | .ok _ => return .done
    | .error e => return .failed e
  | .route frame => return .routed (← Client.route react frame)
  | .run frames => do
    Client.run react frames
    return .done
  | .watchObject object listener => do
    let _ ← Client.onObjectWatchers (·.add object listener)
    return .done
  | .unwatchObject object id => do
    let _ ← Client.onObjectWatchers (·.remove object id)
    return .done
  | .watchRoster listener => do
    let _ ← Client.onRosterWatchers (·.add listener)
    return .done
  | .unwatchRoster id => do
    let _ ← Client.onRosterWatchers (·.remove id)
    return .done
  | .subscribe => do
    let _ ← Client.onFeed Feed.subscribe
    return .done
  | .unsubscribe id => do
    Client.onFeed fun feed => (feed.unsubscribe id, ())
    return .done
  | .receive id => do
    let _ ← Client.onFeed (·.receive id)
    return .done
  | .advance milliseconds => do
    Client.advance milliseconds
    return .done

end Operation

namespace Client

open Whiteboard.Action

variable {C L M : Type}

/-- A new client has the participant and the settings that it is given, and nothing happened yet. -/
theorem eq_of_create [Core C] {core : C} {settings : Settings} {memory : M}
    {fresh : Client C L M} (created : create core settings memory = .ok fresh) :
    ∃ feed, fresh =
      { core, link := .create, replies := .empty, objectWatchers := .empty
        rosterWatchers := .empty, feed, settings, now := 0, log := [], memory } := by
  rw [create] at created
  cases hfeed : Feed.create settings.eventCapacity with
  | error fault =>
    rw [hfeed] at created
    exact nomatch created
  | ok feed =>
    rw [hfeed] at created
    exact ⟨feed, (Except.ok.inj created).symm⟩

/-! ### Steps of one part of a client -/

theorem onCore_of_eq {α : Type} {step : C → C × α} {c : Client C L M} {core : C} {a : α}
    (h : step c.core = (core, a)) : onCore step c = .ok a { c with core } := by
  show EStateM.Result.ok (step c.core).2 { c with core := (step c.core).1 } = _
  rw [h]

theorem onLink_of_eq {α : Type} {step : Link → Link × α} {c : Client C L M} {link : Link} {a : α}
    (h : step c.link = (link, a)) : onLink step c = .ok a { c with link } := by
  show EStateM.Result.ok (step c.link).2 { c with link := (step c.link).1 } = _
  rw [h]

theorem onReplies_of_eq {α : Type} {step : Replies → Replies × α} {c : Client C L M}
    {replies : Replies} {a : α} (h : step c.replies = (replies, a)) :
    onReplies step c = .ok a { c with replies } := by
  show EStateM.Result.ok (step c.replies).2 { c with replies := (step c.replies).1 } = _
  rw [h]

theorem accepted_of_send {l : Link} {frame : Frame} (h : (l.send frame).2 = .ok ()) :
    (l.send frame).1.accepted = l.accepted ++ [frame] := by
  rw [Link.send] at h ⊢
  cases hr : l.refuses l.attempts with
  | some e =>
    rw [hr] at h
    exact nomatch h
  | none =>
    rw [hr] at h
    by_cases hopen : l.isOpen
    · simp [hopen]
    · simp [hopen] at h

section Commands

/-- Sending a command whose number is free: it is pending before the frame leaves, and not any
more if the frame is refused. -/
theorem sendExpecting_of_free (frame : Frame) {id : CommandId} {c : Client C L M}
    (free : c.replies.isPending id = false) :
    sendExpecting frame id c =
      match (c.link.send frame).2 with
      | .ok () => .ok (.ok ⟨id, c.replies.issued⟩)
          { c with link := (c.link.send frame).1, replies := (c.replies.register id).1 }
      | .error e => .ok (.error (.link e))
          { c with
            link := (c.link.send frame).1
            replies := ((c.replies.register id).1.forget id).1 } := by
  have registered : onReplies (C := C) (L := L) (M := M) (·.register id) c =
      .ok (.ok ⟨id, c.replies.issued⟩) { c with replies := (c.replies.register id).1 } :=
    onReplies_of_eq (by rw [Replies.register_of_not_pending free])
  have sent : onLink (C := C) (L := L) (M := M) (·.send frame)
      { c with replies := (c.replies.register id).1 } =
        .ok (c.link.send frame).2
          { c with link := (c.link.send frame).1, replies := (c.replies.register id).1 } := rfl
  rw [sendExpecting, bind_of_ok registered]
  dsimp only
  rw [bind_of_ok sent]
  cases (c.link.send frame).2 with
  | ok done => rfl
  | error e => rfl

/-- A command whose number is pending is not sent. -/
theorem sendExpecting_of_pending (frame : Frame) {id : CommandId} {c : Client C L M}
    (pending : c.replies.isPending id) :
    sendExpecting frame id c = .ok (.error (.duplicate id)) c := by
  have duplicate : onReplies (C := C) (L := L) (M := M) (·.register id) c =
      .ok (.error (.duplicate id)) c :=
    onReplies_of_eq (by rw [Replies.register, if_pos pending])
  rw [sendExpecting, bind_of_ok duplicate]
  rfl

/-- The frame that a participant makes of a command next. -/
def nextFrame (p : Participant) (command : Command) : Frame := Request.toFrame ⟨p.nextId, command⟩

/-- What the log says about a command that is submitted. -/
def submitNotes (c : Client C L M) (command : Command) : List Log.Note :=
  if c.settings.logCommands then [.submitted command] else []

/-- A command that is submitted is encoded first, and then its frame is sent. -/
theorem submit_encode [Core C] (command : Command) (mode : ReplyMode) (c : Client C L M) :
    submit command mode c =
      (match (Core.encode c.core command).2, mode with
        | .error e, _ => return .error (.core e)
        | .ok frame, .expect => do
          return (← sendExpecting frame (Core.lastId (Core.encode c.core command).1)).map some
        | .ok frame, .ignore => do
          match ← onLink (·.send frame) with
          | .ok () => return .ok none
          | .error e => return .error (.link e) :
        Action C L M (Except SyncError (Option PendingReply)))
          { c with
            core := (Core.encode c.core command).1
            log := c.log ++ c.submitNotes command } := by
  have encoded : ∀ log, onCore (L := L) (M := M) (Core.encode · command) { c with log } =
      .ok (Core.encode c.core command).2 { c with core := (Core.encode c.core command).1, log } :=
    fun log => rfl
  rw [submit, get_bind, submitNotes]
  by_cases hlog : c.settings.logCommands
  · have noted : note [.submitted command] c =
        .ok () { c with log := c.log ++ [.submitted command] } := rfl
    rw [if_pos hlog, if_pos hlog, bind_of_ok noted]
    refine (bind_of_ok (encoded _) _).trans ?_
    cases (Core.encode c.core command).2 with
    | error e => rfl
    | ok frame => cases mode <;> rfl
  · rw [if_neg hlog, if_neg hlog, List.append_nil]
    refine (bind_of_ok (encoded _) _).trans ?_
    cases (Core.encode c.core command).2 with
    | error e => rfl
    | ok frame => cases mode <;> rfl

/-- A participant gives a command the next number. -/
theorem submit_eq (command : Command) (mode : ReplyMode) (c : Client Participant L M) :
    submit command mode c =
      (match mode with
        | .expect => do
          return (← sendExpecting (nextFrame c.core command) c.core.nextId).map some
        | .ignore => do
          match ← onLink (·.send (nextFrame c.core command)) with
          | .ok () => return .ok none
          | .error e => return .error (.link e) :
        Action Participant L M (Except SyncError (Option PendingReply)))
          { c with
            core := { c.core with lastId := c.core.nextId }
            log := c.log ++ c.submitNotes command } := by
  refine (submit_encode command mode c).trans ?_
  cases mode <;> rfl

end Commands

section Edits

theorem onCore_takeOutbound_nil {c : Client Participant L M} (h : c.core.outbound = []) :
    onCore Core.takeOutbound c = .ok none c := by
  have nothing : c.core.takeOutbound = (c.core, none) := by rw [Participant.takeOutbound, h]
  exact onCore_of_eq nothing

theorem onCore_takeOutbound_cons {c : Client Participant L M} {frame : Frame} {rest : List Frame}
    (h : c.core.outbound = frame :: rest) :
    onCore Core.takeOutbound c =
      .ok (some frame) { c with core := { c.core with outbound := rest } } := by
  have front : c.core.takeOutbound = ({ c.core with outbound := rest }, some frame) := by
    rw [Participant.takeOutbound, h]
  exact onCore_of_eq front

theorem drainFrom_nil {c : Client Participant L M} (limit sent : Nat)
    (queue : c.core.outbound = []) : drainFrom limit sent c = .ok (.ok sent) c := by
  cases limit with
  | zero => rfl
  | succ limit =>
    rw [drainFrom]
    exact bind_of_ok (onCore_takeOutbound_nil queue) _

/-- A frame that is taken from the queue is offered to the link. -/
theorem drainFrom_cons {c : Client Participant L M} {frame : Frame} {rest : List Frame}
    (limit sent : Nat) (queue : c.core.outbound = frame :: rest) :
    drainFrom (limit + 1) sent c =
      (match (c.link.send frame).2 with
        | .ok () => drainFrom limit (sent + 1)
        | .error e => do
          onCore fun core => (Core.requeue core frame, ())
          note [.sendFailed sent e]
          return .error (.link e) : Action Participant L M (Except SyncError Nat))
        { c with core := { c.core with outbound := rest }, link := (c.link.send frame).1 } := by
  have offered : onLink (·.send frame) { c with core := { c.core with outbound := rest } } =
      .ok (c.link.send frame).2
        { c with core := { c.core with outbound := rest }, link := (c.link.send frame).1 } := rfl
  rw [drainFrom, bind_of_ok (onCore_takeOutbound_cons queue)]
  exact bind_of_ok offered _

/-- Sending what is queued fails only with the link. -/
theorem drainFrom_spec (limit : Nat) : ∀ (sent : Nat) (c : Client Participant L M),
    ∃ result d, drainFrom limit sent c = .ok result d ∧
      ∀ e, result = .error e → ∃ l, e = .link l := by
  induction limit with
  | zero => exact fun sent c => ⟨.ok sent, c, rfl, nofun⟩
  | succ limit ih =>
    intro sent c
    cases hq : c.core.outbound with
    | nil => exact ⟨.ok sent, c, drainFrom_nil _ _ hq, nofun⟩
    | cons frame rest =>
      rw [drainFrom_cons _ _ hq]
      cases (c.link.send frame).2 with
      | ok done => exact ih (sent + 1) _
      | error e => exact ⟨.error (.link e), _, rfl, fun e' he => ⟨e, (Except.error.inj he).symm⟩⟩

theorem drain_spec (c : Client Participant L M) :
    ∃ result d, drain c = .ok result d ∧ ∀ e, result = .error e → ∃ l, e = .link l := by
  obtain ⟨result, d, drained, errors⟩ := drainFrom_spec (Core.queued c.core) 0 c
  rw [drain, get_bind, bind_of_ok drained]
  cases result with
  | error e => exact ⟨.error e, d, rfl, errors⟩
  | ok sent =>
    by_cases some_sent : 0 < sent
    · refine ⟨.ok sent, { d with log := d.log ++ [.drained sent] }, ?_, nofun⟩
      dsimp only
      rw [if_pos some_sent]
      rfl
    · refine ⟨.ok sent, d, ?_, nofun⟩
      dsimp only
      rw [if_neg some_sent]
      rfl

end Edits

/-- A new client with the usual settings. -/
def newcomer : Client Participant Unit Unit where
  core := .create (.labelled 1)
  link := .create
  replies := .empty
  objectWatchers := .empty
  rosterWatchers := .empty
  feed := ⟨256, 0, [], ∅, 0⟩
  settings := .usual
  now := 0
  log := []
  memory := ()

/-- A segment from the origin. -/
def diagonal : Fragment := ⟨⟨0⟩, ⟨0⟩, ⟨0x3f800000⟩, ⟨0x3f800000⟩⟩

end Client

end Whiteboard
