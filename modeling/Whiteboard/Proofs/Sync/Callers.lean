import Whiteboard.Proofs.Sync.Operation

/-!
# Callers who await replies

Handles are given to callers, who wait with or without a limit and are told one outcome at most. A
desk keeps the callers of one client together with how far each of them got. Numbers may be used
again once they are not pending any more, also while the caller who had the number before has not
looked yet; what keeps the two apart is that each handle has a box of its own.

## Main definitions

- `Caller`, `Desk` — callers, and a client with all its callers
- `Turn`, `Desk.take` — what can happen to replies and their callers
- `Desk.verdict?`, `Desk.firstVerdict?` — what a turn, or the first of several, decides on a caller
- `Desk.IsOpen` — nothing was decided on a caller yet
- `Desk.Sound` — what holds of every desk
-/

namespace Whiteboard

open Whiteboard.Action

/-- Someone who was given a handle. -/
inductive Caller
  /-- The handle is not used yet. -/
  | holding (reply : PendingReply)
  /-- The caller waits. -/
  | waiting (wait : Wait)
  /-- The caller was told the outcome. -/
  | told (reply : PendingReply) (outcome : Except SyncError SystemEvent)

namespace Caller

/-- The handle of a caller. -/
def reply : Caller → PendingReply
  | holding reply => reply
  | waiting wait => wait.reply
  | told reply _ => reply

/-- What the caller was told. -/
def told? : Caller → Option (Except SyncError SystemEvent)
  | told _ outcome => some outcome
  | _ => none

/-- Whether the caller waits and the time is up. -/
def isOver (now : Nat) : Caller → Bool
  | waiting wait => wait.isOver now
  | _ => false

/-- A caller begins to wait. -/
def begin (limit : Option Nat) (since : Nat) : Caller → Caller
  | holding reply => waiting ⟨reply, limit, since⟩
  | caller => caller

theorem reply_begin (caller : Caller) (limit : Option Nat) (since : Nat) :
    (caller.begin limit since).reply = caller.reply := by
  cases caller <;> rfl

theorem told?_begin (caller : Caller) (limit : Option Nat) (since : Nat) :
    (caller.begin limit since).told? = caller.told? := by
  cases caller <;> rfl

end Caller

/-- What can happen to replies and their callers. -/
inductive Turn
  /-- A number is registered, and its handle goes to a new caller. -/
  | register (id : CommandId)
  /-- A command is submitted. If a reply is expected, the handle goes to a new caller. -/
  | submit (command : Command) (mode : ReplyMode)
  /-- A reply is delivered. -/
  | resolve (id : CommandId) (outcome : Outcome)
  /-- A number is given up. -/
  | forget (id : CommandId)
  /-- All numbers are given up. -/
  | abandonAll
  /-- A caller begins to wait. -/
  | wait (caller : Nat) (limit : Option Nat)
  /-- A caller who waits looks for the outcome. -/
  | poll (caller : Nat)
  /-- Time passes. -/
  | advance (milliseconds : Nat)

/-- A client with all its callers, in the order in which they came. -/
structure Desk (C L M : Type) where
  /-- The client. -/
  client : Client C L M
  /-- The callers. -/
  callers : List Caller

namespace Desk

variable {C L M : Type}

/-- The desk of a client when no reply is awaited. -/
def opening (c : Client C L M) : Desk C L M := ⟨{ c with replies := .empty }, []⟩

/-- The awaited replies. -/
abbrev replies (d : Desk C L M) : Replies := d.client.replies

/-- The handles given out. -/
def handles (d : Desk C L M) : List PendingReply := d.callers.map Caller.reply

/-- The desk after an action that may hand out a handle. -/
def serve (d : Desk C L M) (x : Action C L M (Option PendingReply)) : Desk C L M :=
  match x d.client with
  | .ok (some reply) client => ⟨client, d.callers ++ [.holding reply]⟩
  | .ok none client | .error _ client => { d with client }

/-- The desk after an action that hands out nothing. -/
def after {α : Type} (d : Desk C L M) (x : Action C L M α) : Desk C L M :=
  { d with client := x.after d.client }

/-- A caller looks for the outcome of a wait. -/
def look (d : Desk C L M) (k : Nat) (wait : Wait) : Desk C L M :=
  match Client.poll wait d.client with
  | .ok (some outcome) client => ⟨client, d.callers.set k (.told wait.reply outcome)⟩
  | .ok none client | .error _ client => { d with client }

/-- The desk after a turn. -/
def take [Core C] (d : Desk C L M) : Turn → Desk C L M
  | .register id => d.serve do return (← Client.onReplies (·.register id)).toOption
  | .submit command mode => d.serve do return (← Client.submit command mode).toOption.join
  | .resolve id outcome => d.after (Client.resolve id outcome)
  | .forget id => d.after (Client.onReplies (·.forget id))
  | .abandonAll => d.after (Client.onReplies Replies.abandonAll)
  | .wait k limit => { d with callers := d.callers.modify k (·.begin limit d.client.now) }
  | .poll k =>
    match d.callers[k]? with
    | some (.waiting wait) => d.look k wait
    | _ => d
  | .advance milliseconds => d.after (Client.advance milliseconds)

/-- The desk after some turns. -/
def takeAll [Core C] (d : Desk C L M) (turns : List Turn) : Desk C L M := turns.foldl take d

/-- What a turn decides on a caller, if the number of the caller is still pending. -/
def verdict? (d : Desk C L M) (k : Nat) (turn : Turn) : Option (Except SyncError SystemEvent) :=
  d.callers[k]?.bind fun caller =>
    match turn with
    | .resolve id outcome => if id = caller.reply.id then some outcome.settle else none
    | .forget id => if id = caller.reply.id then some (.error .abandoned) else none
    | .abandonAll => some (.error .abandoned)
    | .poll j =>
      if j = k ∧ caller.isOver d.client.now then some (.error (.timeout caller.reply.id)) else none
    | _ => none

/-- What the first of some turns to decide on a caller decides. -/
def firstVerdict? [Core C] (k : Nat) : Desk C L M → List Turn →
    Option (Except SyncError SystemEvent)
  | _, [] => none
  | d, turn :: rest => (d.verdict? k turn).or (firstVerdict? k (d.take turn) rest)

/-- Nothing was decided on the caller: the number leads to the box of the handle. -/
def IsOpen (d : Desk C L M) (caller : Caller) : Prop :=
  caller.told? = none ∧ d.replies.pending[caller.reply.id]? = some caller.reply.box

end Desk

/-! ### All that a turn does -/

namespace Replies

/-- A number that is pending runs out of time and is given up. -/
theorem expire_of_pending {r : Replies} {reply : PendingReply} (pending : r.isPending reply.id) :
    r.expire reply = ((r.forget reply.id).1, some (.error (.timeout reply.id))) := by
  have forgotten : (r.forget reply.id).2 = true := by
    rw [isPending, Std.ExtTreeMap.contains_eq_isSome_getElem?, Option.isSome_iff_exists] at pending
    obtain ⟨box, found⟩ := pending
    rw [forget, remove, found]
  rw [expire]
  split
  · next same => rw [same]
  · next same =>
    rw [same] at forgotten
    cases forgotten

/-- A number that is not pending was settled before its time was up. -/
theorem expire_of_not_pending {r : Replies} {reply : PendingReply}
    (settled : r.isPending reply.id = false) : r.expire reply = (r, r.outcome? reply) := by
  rw [expire, forget, remove_of_not_pending settled]

/-- Looking for the outcome of a wait finds it, or finds the time up, or changes nothing. -/
theorem poll_cases (r : Replies) (wait : Wait) (now : Nat) :
    (∃ outcome, r.outcome? wait.reply = some outcome ∧ r.poll wait now = (r, some outcome)) ∨
      (r.outcome? wait.reply = none ∧ wait.isOver now ∧ r.isPending wait.reply.id ∧
        r.poll wait now =
          ((r.forget wait.reply.id).1, some (.error (.timeout wait.reply.id)))) ∨
      (r.outcome? wait.reply = none ∧ (wait.isOver now → r.isPending wait.reply.id = false) ∧
        r.poll wait now = (r, none)) := by
  rw [poll]
  cases found : r.outcome? wait.reply with
  | some outcome => exact .inl ⟨outcome, rfl, rfl⟩
  | none =>
    cases wait.isOver now with
    | false => exact .inr (.inr ⟨rfl, fun late => absurd late Bool.false_ne_true, rfl⟩)
    | true =>
      cases pending : r.isPending wait.reply.id with
      | false =>
        have expired := expire_of_not_pending pending
        rw [found] at expired
        exact .inr (.inr ⟨rfl, fun _ => rfl, expired⟩)
      | true => exact .inr (.inl ⟨rfl, rfl, rfl, expire_of_pending pending⟩)

end Replies

namespace Client

variable {C L M : Type}

/-- Sending a command whose reply is awaited registers a free number, and forgets it if the link
refuses the frame. -/
theorem sendExpecting_cases (frame : Frame) (id : CommandId) (c : Client C L M) :
    ∃ result c', sendExpecting frame id c = .ok result c' ∧
      ((result.toOption = none ∧ c'.replies = c.replies) ∨
        c.replies.isPending id = false ∧
          ((result = .ok ⟨id, c.replies.issued⟩ ∧ c'.replies = (c.replies.register id).1) ∨
            (result.toOption = none ∧
              c'.replies = ((c.replies.register id).1.forget id).1))) := by
  by_cases pending : c.replies.isPending id
  · exact ⟨_, _, sendExpecting_of_pending frame pending, .inl ⟨rfl, rfl⟩⟩
  · have free := Bool.eq_false_iff.mpr pending
    have sent := sendExpecting_of_free frame free
    cases hlink : (c.link.send frame).2 with
    | ok done =>
      rw [hlink] at sent
      exact ⟨_, _, sent, .inr ⟨free, .inl ⟨rfl, rfl⟩⟩⟩
    | error e =>
      rw [hlink] at sent
      exact ⟨_, _, sent, .inr ⟨free, .inr ⟨rfl, rfl⟩⟩⟩

/-- Submitting a command hands out a handle only for a number that was free, and leaves that number
pending exactly if it hands one out. -/
theorem submit_cases [Core C] (command : Command) (mode : ReplyMode) (c : Client C L M) :
    ∃ result c', submit command mode c = .ok result c' ∧
      ((result.toOption.join = none ∧ c'.replies = c.replies) ∨
        ∃ id, c.replies.isPending id = false ∧
          ((result = .ok (some ⟨id, c.replies.issued⟩) ∧
              c'.replies = (c.replies.register id).1) ∨
            (result.toOption.join = none ∧
              c'.replies = ((c.replies.register id).1.forget id).1))) := by
  have hsubmit := submit_encode command mode c
  have same : ({ c with
      core := (Core.encode c.core command).1
      log := c.log ++ c.submitNotes command } : Client C L M).replies = c.replies := rfl
  generalize ({ c with
      core := (Core.encode c.core command).1
      log := c.log ++ c.submitNotes command } : Client C L M) = c₁ at hsubmit same
  rw [hsubmit, ← same]
  cases (Core.encode c.core command).2 with
  | error e => exact ⟨_, _, rfl, .inl ⟨rfl, rfl⟩⟩
  | ok frame =>
    cases mode with
    | ignore =>
      have sent : onLink (·.send frame) c₁ =
          .ok (c₁.link.send frame).2 { c₁ with link := (c₁.link.send frame).1 } := rfl
      dsimp only
      rw [bind_of_ok sent]
      cases (c₁.link.send frame).2 with
      | ok done => exact ⟨_, _, rfl, .inl ⟨rfl, rfl⟩⟩
      | error e => exact ⟨_, _, rfl, .inl ⟨rfl, rfl⟩⟩
    | expect =>
      obtain ⟨result, c', hsend, cases⟩ := sendExpecting_cases frame
        (Core.lastId (Core.encode c.core command).1) c₁
      refine ⟨_, _, bind_of_ok hsend _, ?_⟩
      rcases cases with ⟨failed, still⟩ | ⟨free, ⟨rfl, registered⟩ | ⟨failed, forgotten⟩⟩
      · refine .inl ⟨?_, still⟩
        cases result with
        | ok reply => exact nomatch failed
        | error e => rfl
      · exact .inr ⟨_, free, .inl ⟨rfl, registered⟩⟩
      · refine .inr ⟨_, free, .inr ⟨?_, forgotten⟩⟩
        cases result with
        | ok reply => exact nomatch failed
        | error e => rfl

/-- Looking for the outcome of a wait concerns the replies and the log. -/
theorem poll_eq (wait : Wait) (c : Client C L M) :
    poll wait c = .ok (c.replies.poll wait c.now).2
      { c with
        replies := (c.replies.poll wait c.now).1
        log := c.log ++ c.replies.pollNotes wait c.now } := rfl

theorem expire_eq (wait : Wait) (c : Client C L M) :
    expire wait c = .ok (c.replies.expire wait.reply).2
      { c with
        replies := (c.replies.expire wait.reply).1
        log := c.log ++ c.replies.expireNotes wait } := rfl

end Client

namespace Desk

variable {C L M : Type} {d : Desk C L M}

/-- What registering a number for a new caller may come to: a new caller comes, or only the number
comes and goes, or nothing happens. -/
inductive Served (d d' : Desk C L M) : Prop
  | came (id : CommandId) (free : d.replies.isPending id = false)
      (callers : d'.callers = d.callers ++ [.holding ⟨id, d.replies.issued⟩])
      (replies : d'.replies = (d.replies.register id).1)
  | left (id : CommandId) (free : d.replies.isPending id = false)
      (callers : d'.callers = d.callers)
      (replies : d'.replies = ((d.replies.register id).1.forget id).1)
  | unserved (callers : d'.callers = d.callers) (replies : d'.replies = d.replies)

theorem serve_of_ok {x : Action C L M (Option PendingReply)} {reply : PendingReply}
    {client : Client C L M} (h : x d.client = .ok (some reply) client) :
    d.serve x = ⟨client, d.callers ++ [.holding reply]⟩ := by rw [serve, h]

theorem serve_of_none {x : Action C L M (Option PendingReply)} {client : Client C L M}
    (h : x d.client = .ok none client) : d.serve x = { d with client } := by rw [serve, h]

/-- A free number is registered for a new caller. -/
def Welcomes (d d' : Desk C L M) : Prop :=
  ∃ id, d.replies.isPending id = false ∧
    d'.callers = d.callers ++ [.holding ⟨id, d.replies.issued⟩] ∧
    d'.replies = (d.replies.register id).1

/-- Nobody comes, and no number becomes pending. -/
structure Dwindles (d d' : Desk C L M) : Prop where
  /-- The callers have the same handles. -/
  handles : d'.handles = d.handles
  /-- Boxes that were given out stay so. -/
  issued : d.replies.issued ≤ d'.replies.issued
  /-- What is pending was pending before. -/
  pending : ∀ {id : CommandId} {box : Nat}, d'.replies.pending[id]? = some box →
    d.replies.pending[id]? = some box

theorem Dwindles.of_eq {d' : Desk C L M} (handles : d'.handles = d.handles)
    (replies : d'.replies = d.replies) : d.Dwindles d' := by
  refine ⟨handles, Nat.le_of_eq ?_, fun h => ?_⟩
  · rw [replies]
  · rwa [replies] at h

theorem Dwindles.of_remove {d' : Desk C L M} {id : CommandId} (contents : BoxContents)
    (handles : d'.handles = d.handles) (replies : d'.replies = (d.replies.remove id contents).1) :
    d.Dwindles d' := by
  refine ⟨handles, Nat.le_of_eq ?_, fun h => ?_⟩
  · rw [replies, Replies.issued_remove]
  · rw [replies] at h
    exact Replies.pending_of_remove h

theorem Served.welcomes_or_dwindles {d' : Desk C L M} (h : d.Served d') :
    d.Welcomes d' ∨ d.Dwindles d' := by
  cases h with
  | came id free callers replies => exact .inl ⟨id, free, callers, replies⟩
  | left id free callers replies =>
    refine .inr ⟨congrArg (List.map Caller.reply) callers, ?_, fun {i box} h => ?_⟩
    · rw [replies, Replies.forget, Replies.issued_remove, Replies.register_of_not_pending free]
      exact Nat.le_succ _
    · rw [replies, Replies.forget, Replies.pending_remove, Replies.pending_register free] at h
      split at h
      · cases h
      · exact h
  | unserved callers replies =>
    exact .inr (.of_eq (congrArg (List.map Caller.reply) callers) replies)

theorem handles_set {k : Nat} {caller caller' : Caller} (h : d.callers[k]? = some caller)
    (same : caller'.reply = caller.reply) :
    (d.callers.set k caller').map Caller.reply = d.handles := by
  have here : d.handles[k]? = some caller.reply := by rw [handles, List.getElem?_map, h]; rfl
  obtain ⟨inside, value⟩ := List.getElem?_eq_some_iff.mp here
  rw [List.map_set, same, ← value]
  exact List.set_getElem_self inside

variable [Core C]

theorem take_register_of_free {id : CommandId} (free : d.replies.isPending id = false) :
    d.take (.register id) = ⟨{ d.client with replies := (d.replies.register id).1 },
      d.callers ++ [.holding ⟨id, d.replies.issued⟩]⟩ := by
  refine serve_of_ok ?_
  have handle : (d.replies.register id).2 = .ok ⟨id, d.replies.issued⟩ := by
    rw [Replies.register_of_not_pending free]
  show EStateM.Result.ok (d.replies.register id).2.toOption _ = _
  rw [handle]
  rfl

theorem take_register_of_pending {id : CommandId} (pending : d.replies.isPending id) :
    d.take (.register id) = d := by
  have duplicate : d.replies.register id = (d.replies, .error (.duplicate id)) := by
    rw [Replies.register, if_pos pending]
  refine serve_of_none ?_
  show EStateM.Result.ok (d.replies.register id).2.toOption
    { d.client with replies := (d.replies.register id).1 } = _
  rw [duplicate]
  rfl

theorem served_register (d : Desk C L M) (id : CommandId) : d.Served (d.take (.register id)) := by
  by_cases pending : d.replies.isPending id
  · rw [take_register_of_pending pending]
    exact .unserved rfl rfl
  · have free := Bool.eq_false_iff.mpr pending
    rw [take_register_of_free free]
    exact .came id free rfl rfl

theorem served_submit (d : Desk C L M) (command : Command) (mode : ReplyMode) :
    d.Served (d.take (.submit command mode)) := by
  obtain ⟨result, client, hsubmit, cases⟩ := Client.submit_cases command mode d.client
  have served : (do return (← Client.submit command mode).toOption.join : Action C L M _) d.client =
      .ok result.toOption.join client := bind_of_ok hsubmit _
  rcases cases with ⟨failed, still⟩ | ⟨id, free, ⟨rfl, registered⟩ | ⟨failed, forgotten⟩⟩
  · rw [failed] at served
    rw [take, serve_of_none served]
    exact .unserved rfl still
  · rw [take, serve_of_ok served]
    exact .came id free rfl registered
  · rw [failed] at served
    rw [take, serve_of_none served]
    exact .left id free rfl forgotten

theorem take_poll_of_waiting {k : Nat} {wait : Wait}
    (h : d.callers[k]? = some (.waiting wait)) :
    (d.take (.poll k)).replies = (d.replies.poll wait d.client.now).1 ∧
      (d.take (.poll k)).callers =
        match (d.replies.poll wait d.client.now).2 with
        | some outcome => d.callers.set k (.told wait.reply outcome)
        | none => d.callers := by
  have hpoll := Client.poll_eq wait d.client
  have looked : d.take (.poll k) = d.look k wait := by rw [take, h]
  rw [looked, look, hpoll]
  cases (d.client.replies.poll wait d.client.now).2 with
  | some outcome => exact ⟨rfl, rfl⟩
  | none => exact ⟨rfl, rfl⟩

theorem take_poll_of_not_waiting {k : Nat} (h : ∀ wait, d.callers[k]? ≠ some (.waiting wait)) :
    d.take (.poll k) = d := by
  rw [take]
  split
  · next wait waiting => exact absurd waiting (h wait)
  · rfl

theorem replies_take_advance (d : Desk C L M) (milliseconds : Nat) :
    (d.take (.advance milliseconds)).replies = d.replies := by
  show ((Client.advance milliseconds).after d.client).replies = _
  rw [Client.advance, Action.after, get_bind]
  cases Clock.advance d.client.now milliseconds <;> rfl

theorem handles_take_wait (d : Desk C L M) (k : Nat) (limit : Option Nat) :
    (d.take (.wait k limit)).handles = d.handles := by
  refine List.ext_getElem? fun j => ?_
  rw [handles, handles, take]
  simp only [List.getElem?_map, List.getElem?_modify]
  cases d.callers[j]? with
  | none => rfl
  | some caller =>
    by_cases here : k = j
    · simp [here, caller.reply_begin]
    · simp [here]

theorem dwindles_poll (d : Desk C L M) (k : Nat) : d.Dwindles (d.take (.poll k)) := by
  by_cases waiting : ∃ wait, d.callers[k]? = some (.waiting wait)
  · obtain ⟨wait, hk⟩ := waiting
    obtain ⟨replies, callers⟩ := take_poll_of_waiting hk
    rcases d.replies.poll_cases wait d.client.now with ⟨outcome, -, hpoll⟩ |
      ⟨-, -, -, hpoll⟩ | ⟨-, -, hpoll⟩
    · rw [hpoll] at replies callers
      exact .of_eq ((congrArg _ callers).trans (handles_set hk rfl)) replies
    · rw [hpoll] at replies callers
      exact .of_remove .abandoned ((congrArg _ callers).trans (handles_set hk rfl)) replies
    · rw [hpoll] at replies callers
      exact .of_eq (congrArg (List.map Caller.reply) callers) replies
  · rw [take_poll_of_not_waiting fun wait hk => waiting ⟨wait, hk⟩]
    exact .of_eq rfl rfl

/-- All that a turn does to handles and pending numbers. -/
theorem take_cases (d : Desk C L M) (turn : Turn) :
    d.Welcomes (d.take turn) ∨ d.Dwindles (d.take turn) := by
  cases turn with
  | register id => exact (d.served_register id).welcomes_or_dwindles
  | submit command mode => exact (d.served_submit command mode).welcomes_or_dwindles
  | resolve id outcome => exact .inr (.of_remove (.delivered outcome) rfl rfl)
  | forget id => exact .inr (.of_remove .abandoned rfl rfl)
  | abandonAll =>
    have gone : (d.take .abandonAll).replies = d.replies.abandonAll.1 := rfl
    refine .inr ⟨rfl, Nat.le_of_eq ?_, fun h => ?_⟩
    · rw [gone, Replies.issued_abandonAll]
    · rw [gone, Replies.pending_abandonAll] at h
      exact nomatch h
  | wait k limit => exact .inr (.of_eq (d.handles_take_wait k limit) rfl)
  | poll k => exact .inr (d.dwindles_poll k)
  | advance milliseconds => exact .inr (.of_eq rfl (d.replies_take_advance milliseconds))

end Desk

/-! ### What callers are in for -/

/-- What a caller is in for: one who was told something was told the verdict, and the handle of
anyone else leads to it. The box of a handle that was used up holds something, perhaps not what the
caller was told. -/
def Caller.Awaits (verdict? : Option (Except SyncError SystemEvent)) (r : Replies)
    (caller : Caller) : Prop :=
  match caller.told? with
  | none => r.Holds caller.reply verdict?
  | some outcome => verdict? = some outcome ∧ ∃ left, r.Holds caller.reply (some left)

/-- What settles the handle of a caller settles the caller. -/
theorem Caller.Awaits.settle {caller : Caller} {r r' : Replies}
    {verdict? settles? : Option (Except SyncError SystemEvent)} (h : caller.Awaits verdict? r)
    (step : ∀ found?, r.Holds caller.reply found? → r'.Holds caller.reply (found?.or settles?)) :
    caller.Awaits (verdict?.or settles?) r' := by
  unfold Awaits at h ⊢
  cases told : caller.told? with
  | none =>
    rw [told] at h
    exact step verdict? h
  | some outcome =>
    rw [told] at h
    obtain ⟨rfl, left, holds⟩ := h
    exact ⟨rfl, left, step (some left) holds⟩

/-- What settles nothing keeps what a caller awaits. -/
theorem Caller.Awaits.keep {caller : Caller} {r r' : Replies}
    {verdict? : Option (Except SyncError SystemEvent)} (h : caller.Awaits verdict? r)
    (step : ∀ found?, r.Holds caller.reply found? → r'.Holds caller.reply found?) :
    caller.Awaits verdict? r' := by
  have settled : caller.Awaits (verdict?.or none) r' := h.settle fun found? holds => by
    rw [Option.or_none]
    exact step found? holds
  rwa [Option.or_none] at settled

theorem Caller.Awaits.holds {caller : Caller} {r : Replies}
    {verdict? : Option (Except SyncError SystemEvent)} (h : caller.Awaits verdict? r) :
    ∃ found?, r.Holds caller.reply found? := by
  unfold Awaits at h
  split at h
  · exact ⟨_, h⟩
  · exact ⟨_, h.2.choose_spec⟩

namespace Desk

variable {C L M : Type} {d : Desk C L M}

/-- What holds of every desk. -/
structure Sound (d : Desk C L M) : Prop where
  /-- The boxes of pending numbers were given out. -/
  boxes : ∀ {id : CommandId} {box : Nat}, d.replies.pending[id]? = some box →
    box < d.replies.issued
  /-- Every caller is in for something. -/
  callers : ∀ {k : Nat} {caller : Caller}, d.callers[k]? = some caller →
    ∃ verdict?, caller.Awaits verdict? d.replies
  /-- Every handle has a box of its own. -/
  distinct : (d.handles.map PendingReply.box).Nodup

theorem length_callers (d : Desk C L M) : d.callers.length = d.handles.length :=
  (List.length_map _).symm

/-- Two callers with the same box are the same. -/
theorem Sound.index_eq (sound : d.Sound) {j k : Nat} {a b : Caller} (ha : d.callers[j]? = some a)
    (hb : d.callers[k]? = some b) (same : a.reply.box = b.reply.box) : j = k := by
  have boxA : (d.handles.map PendingReply.box)[j]? = some a.reply.box := by simp [handles, ha]
  have boxB : (d.handles.map PendingReply.box)[k]? = some b.reply.box := by simp [handles, hb]
  have inside : j < (d.handles.map PendingReply.box).length :=
    (List.getElem?_eq_some_iff.mp boxA).1
  refine (List.getElem?_inj inside sound.distinct).mp ?_
  rw [boxA, boxB, same]

/-- A new box is none of those that callers have. -/
theorem Sound.box_fresh (sound : d.Sound) :
    d.replies.issued ∉ d.handles.map PendingReply.box := by
  intro mem
  obtain ⟨reply, hreply, same⟩ := List.mem_map.mp mem
  obtain ⟨caller, hcaller, rfl⟩ := List.mem_map.mp hreply
  obtain ⟨k, hk⟩ := List.getElem?_of_mem hcaller
  obtain ⟨_, awaits⟩ := sound.callers hk
  obtain ⟨_, holds⟩ := awaits.holds
  exact absurd holds.issued (by rw [same]; exact Nat.lt_irrefl _)

theorem sound_opening (c : Client C L M) : (opening c).Sound :=
  ⟨nofun, nofun, List.nodup_nil⟩

theorem Sound.awaits_of_open (sound : d.Sound) {k : Nat} {caller : Caller}
    (hk : d.callers[k]? = some caller) (isOpen : d.IsOpen caller) :
    caller.Awaits none d.replies := by
  obtain ⟨verdict?, awaits⟩ := sound.callers hk
  obtain ⟨untold, leads⟩ := isOpen
  unfold Caller.Awaits at awaits ⊢
  rw [untold] at awaits ⊢
  obtain ⟨rfl, -⟩ := (awaits.pending caller.reply.id).mp leads
  exact awaits

theorem isOpen_of_awaits {caller : Caller} (h : caller.Awaits none d.replies) :
    d.IsOpen caller ∧ d.replies.outcome? caller.reply = none := by
  unfold Caller.Awaits at h
  cases told : caller.told? with
  | some outcome =>
    rw [told] at h
    exact nomatch h.1
  | none =>
    rw [told] at h
    exact ⟨⟨told, (h.pending caller.reply.id).mpr ⟨rfl, rfl⟩⟩, h.outcome?_eq⟩

/-- A caller with a verdict is told it, or finds it however long the wait. -/
theorem settled_of_awaits {caller : Caller} {outcome : Except SyncError SystemEvent}
    (h : caller.Awaits (some outcome) d.replies) :
    (∀ id : CommandId, d.replies.pending[id]? ≠ some caller.reply.box) ∧
      (caller.told? = some outcome ∨ caller.told? = none ∧ ∀ wait now,
        wait.reply = caller.reply → d.replies.poll wait now = (d.replies, some outcome)) := by
  unfold Caller.Awaits at h
  cases told : caller.told? with
  | some outcome' =>
    rw [told] at h
    obtain ⟨same, left, holds⟩ := h
    exact ⟨fun id leads => (nomatch ((holds.pending id).mp leads).1), .inl same.symm⟩
  | none =>
    rw [told] at h
    refine ⟨fun id leads => (nomatch ((h.pending id).mp leads).1), .inr ⟨rfl, ?_⟩⟩
    intro wait now same
    rw [Replies.poll, same, h.outcome?_eq]

theorem awaits_served (h : d.Served d') {k : Nat} {caller : Caller}
    {verdict? : Option (Except SyncError SystemEvent)} (hk : d.callers[k]? = some caller)
    (awaits : caller.Awaits verdict? d.replies) :
    d'.callers[k]? = some caller ∧ caller.Awaits verdict? d'.replies := by
  cases h with
  | came id free callers replies =>
    refine ⟨?_, awaits.keep fun found? holds => ?_⟩
    · rw [callers, List.getElem?_append_left (List.getElem?_eq_some_iff.mp hk).1, hk]
    · rw [replies]
      exact holds.register free
  | left id free callers replies =>
    refine ⟨by rw [callers, hk], awaits.keep fun found? holds => ?_⟩
    rw [replies]
    exact holds.register_forget free
  | unserved callers replies =>
    rw [callers, replies]
    exact ⟨hk, awaits⟩

variable [Core C]

/-- A caller who looks is told the verdict, if there is one or the time is up. -/
theorem awaits_poll_self {k : Nat} {wait : Wait}
    {verdict? : Option (Except SyncError SystemEvent)}
    (hk : d.callers[k]? = some (.waiting wait)) (h : d.replies.Holds wait.reply verdict?) :
    ∃ caller', (d.take (.poll k)).callers[k]? = some caller' ∧ caller'.reply = wait.reply ∧
      caller'.Awaits (verdict?.or (d.verdict? k (.poll k))) (d.take (.poll k)).replies := by
  have inside : k < d.callers.length := (List.getElem?_eq_some_iff.mp hk).1
  have decided : d.verdict? k (.poll k) =
      if wait.isOver d.client.now then some (.error (.timeout wait.reply.id)) else none := by
    simp [Desk.verdict?, hk, Caller.isOver, Caller.reply]
  obtain ⟨replies, callers⟩ := take_poll_of_waiting hk
  rw [decided]
  rcases d.replies.poll_cases wait d.client.now with ⟨outcome, found, hpoll⟩ |
    ⟨found, late, -, hpoll⟩ | ⟨found, notYet, hpoll⟩
  · rw [hpoll] at replies callers
    rw [h.outcome?_eq] at found
    subst found
    refine ⟨.told wait.reply outcome, ?_, rfl, rfl, outcome, ?_⟩
    · rw [callers, List.getElem?_set_self inside]
    · rw [replies]
      exact h
  · rw [hpoll] at replies callers
    rw [h.outcome?_eq] at found
    subst found
    rw [if_pos late]
    refine ⟨.told wait.reply (.error (.timeout wait.reply.id)), ?_, rfl, rfl, .error .abandoned, ?_⟩
    · rw [callers, List.getElem?_set_self inside]
    · have final : BoxContents.abandoned ≠ .awaited := nofun
      have left := h.remove wait.reply.id final
      rw [if_pos rfl] at left
      rw [replies]
      exact left
  · rw [hpoll] at replies callers
    rw [h.outcome?_eq] at found
    subst found
    -- the number is still pending, so that it can only be too early
    have pending := (h.pending wait.reply.id).mpr ⟨rfl, rfl⟩
    have early : ¬wait.isOver d.client.now := by
      intro late
      rw [Replies.isPending_eq_false_iff.mp (notYet late)] at pending
      exact nomatch pending
    rw [if_neg early]
    exact ⟨.waiting wait, by rw [callers, hk], rfl, by rw [replies]; exact h⟩

/-- A caller who looks does not disturb the others. -/
theorem awaits_poll_other (sound : d.Sound) {j k : Nat} (other : j ≠ k) {wait : Wait}
    (hj : d.callers[j]? = some (.waiting wait)) {caller : Caller}
    {verdict? : Option (Except SyncError SystemEvent)} (hk : d.callers[k]? = some caller)
    (h : caller.Awaits verdict? d.replies) :
    (d.take (.poll j)).callers[k]? = some caller ∧
      caller.Awaits verdict? (d.take (.poll j)).replies := by
  obtain ⟨replies, callers⟩ := take_poll_of_waiting hj
  rcases d.replies.poll_cases wait d.client.now with ⟨outcome, -, hpoll⟩ |
    ⟨found, -, -, hpoll⟩ | ⟨-, -, hpoll⟩
  · rw [hpoll] at replies callers
    rw [callers, List.getElem?_set_ne other, replies]
    exact ⟨hk, h⟩
  · rw [hpoll] at replies callers
    rw [callers, List.getElem?_set_ne other, replies]
    refine ⟨hk, ?_⟩
    refine h.keep fun found? holds => ?_
    have final : BoxContents.abandoned ≠ .awaited := nofun
    have left := holds.remove wait.reply.id final
    cases found? with
    | some outcome => exact left
    | none =>
      -- both numbers are pending; if they were the same, the boxes would be the same as well
      obtain ⟨_, awaits⟩ := sound.callers hj
      have holdsJ : d.replies.Holds wait.reply _ := awaits
      rw [holdsJ.outcome?_eq] at found
      subst found
      have differ : wait.reply.id ≠ caller.reply.id := by
        intro same
        have leadsJ := (holdsJ.pending wait.reply.id).mpr ⟨rfl, rfl⟩
        have leadsK := (holds.pending caller.reply.id).mpr ⟨rfl, rfl⟩
        rw [same, leadsK] at leadsJ
        exact other (sound.index_eq hj hk (Option.some.inj leadsJ).symm)
      rw [if_neg differ] at left
      exact left
  · rw [hpoll] at replies callers
    rw [callers, replies]
    exact ⟨hk, h⟩

/-- A turn that decides on a caller settles it, if nothing did so before. -/
theorem awaits_take (sound : d.Sound) {k : Nat} {caller : Caller}
    {verdict? : Option (Except SyncError SystemEvent)} (hk : d.callers[k]? = some caller)
    (h : caller.Awaits verdict? d.replies) (turn : Turn) :
    ∃ caller', (d.take turn).callers[k]? = some caller' ∧ caller'.reply = caller.reply ∧
      caller'.Awaits (verdict?.or (d.verdict? k turn)) (d.take turn).replies := by
  have undecided {turn : Turn} (silent : d.verdict? k turn = none)
      (kept : (d.take turn).callers[k]? = some caller ∧
        caller.Awaits verdict? (d.take turn).replies) :
      ∃ caller', (d.take turn).callers[k]? = some caller' ∧ caller'.reply = caller.reply ∧
        caller'.Awaits (verdict?.or (d.verdict? k turn)) (d.take turn).replies := by
    rw [silent, Option.or_none]
    exact ⟨caller, kept.1, rfl, kept.2⟩
  cases turn with
  | register id =>
    exact undecided (by simp [Desk.verdict?]) (awaits_served (d.served_register id) hk h)
  | submit command mode =>
    exact undecided (by simp [Desk.verdict?]) (awaits_served (d.served_submit command mode) hk h)
  | resolve id outcome =>
    have decided : d.verdict? k (.resolve id outcome) =
        if id = caller.reply.id then some outcome.settle else none := by simp [Desk.verdict?, hk]
    rw [decided]
    exact ⟨caller, hk, rfl, h.settle fun found? holds => holds.resolve id outcome⟩
  | forget id =>
    have decided : d.verdict? k (.forget id) =
        if id = caller.reply.id then some (.error .abandoned) else none := by
      simp [Desk.verdict?, hk]
    rw [decided]
    refine ⟨caller, hk, rfl, h.settle fun found? holds => ?_⟩
    have final : BoxContents.abandoned ≠ .awaited := nofun
    exact holds.remove id final
  | abandonAll =>
    have decided : d.verdict? k .abandonAll = some (.error .abandoned) := by
      simp [Desk.verdict?, hk]
    rw [decided]
    exact ⟨caller, hk, rfl, h.settle fun found? holds => holds.abandonAll⟩
  | wait j limit =>
    have silent : d.verdict? k (.wait j limit) = none := by simp [Desk.verdict?]
    rw [silent, Option.or_none]
    have here : (d.take (.wait j limit)).callers[k]? =
        some (if j = k then caller.begin limit d.client.now else caller) := by
      simp [take, List.getElem?_modify, hk]
    refine ⟨_, here, ?_, ?_⟩
    · split
      · exact caller.reply_begin limit _
      · rfl
    · split
      · unfold Caller.Awaits
        rw [Caller.told?_begin, Caller.reply_begin]
        exact h
      · exact h
  | poll j =>
    by_cases waiting : ∃ wait, d.callers[j]? = some (.waiting wait)
    · obtain ⟨wait, hj⟩ := waiting
      by_cases same : j = k
      · subst same
        obtain rfl := Option.some.inj (hk.symm.trans hj)
        exact awaits_poll_self hj h
      · exact undecided (by simp [Desk.verdict?, same]) (awaits_poll_other sound same hj hk h)
    · have still := take_poll_of_not_waiting fun wait hj => waiting ⟨wait, hj⟩
      have silent : d.verdict? k (.poll j) = none := by
        simp only [Desk.verdict?, hk, Option.bind_some]
        rw [if_neg]
        rintro ⟨rfl, settled⟩
        cases caller with
        | waiting wait => exact waiting ⟨wait, hk⟩
        | _ => exact nomatch settled
      refine undecided silent ?_
      rw [still]
      exact ⟨hk, h⟩
  | advance milliseconds =>
    refine undecided (by simp [Desk.verdict?]) ⟨hk, ?_⟩
    rw [replies_take_advance]
    exact h

/-- Every turn leaves the desk sound. -/
theorem sound_take (sound : d.Sound) (turn : Turn) : (d.take turn).Sound := by
  -- whoever was there before is in for something still
  have kept : ∀ {k caller'}, k < d.callers.length → (d.take turn).callers[k]? = some caller' →
      ∃ verdict?, caller'.Awaits verdict? (d.take turn).replies := by
    intro k caller' inside hk
    have there := List.getElem?_eq_getElem inside
    obtain ⟨verdict?, awaits⟩ := sound.callers there
    obtain ⟨caller'', hk', -, awaits'⟩ := awaits_take sound there awaits turn
    obtain rfl := Option.some.inj (hk.symm.trans hk')
    exact ⟨_, awaits'⟩
  rcases d.take_cases turn with ⟨id, free, callers, replies⟩ | dwindles
  · refine ⟨fun {i box} h => ?_, fun {k caller'} hk => ?_, ?_⟩
    · rw [replies, Replies.pending_register free] at h
      have issued : (d.replies.register id).1.issued = d.replies.issued + 1 := by
        rw [Replies.register_of_not_pending free]
      rw [replies, issued]
      split at h
      · obtain rfl := Option.some.inj h
        exact Nat.lt_succ_self _
      · exact Nat.lt_succ_of_lt (sound.boxes h)
    · by_cases inside : k < d.callers.length
      · exact kept inside hk
      · rw [callers, List.getElem?_append_right (Nat.le_of_not_lt inside)] at hk
        obtain ⟨-, rfl⟩ := List.getElem?_eq_some_iff.mp hk
        refine ⟨none, ?_⟩
        rw [replies]
        simpa [Caller.Awaits, Caller.told?, Caller.reply] using
          Replies.holds_register sound.boxes free
    · have handles : (d.take turn).handles = d.handles ++ [⟨id, d.replies.issued⟩] := by
        simp [handles, callers, Caller.reply]
      rw [handles, List.map_append]
      refine List.nodup_append.mpr ⟨sound.distinct, List.pairwise_singleton _ _, ?_⟩
      intro box old _ new same
      obtain rfl := same.trans (List.mem_singleton.mp new)
      exact sound.box_fresh old
  · refine ⟨fun h => ?_, fun {k caller'} hk => ?_, ?_⟩
    · exact Nat.lt_of_lt_of_le (sound.boxes (dwindles.pending h)) dwindles.issued
    · refine kept ?_ hk
      rw [length_callers, ← dwindles.handles, ← length_callers]
      exact (List.getElem?_eq_some_iff.mp hk).1
    · rw [dwindles.handles]
      exact sound.distinct

/-! ### Runs -/

theorem sound_takeAll (sound : d.Sound) (turns : List Turn) : (d.takeAll turns).Sound := by
  induction turns generalizing d with
  | nil => exact sound
  | cons turn rest ih => exact ih (sound_take sound turn)

/-- The first verdict on a caller settles it, if nothing did so before. -/
theorem awaits_takeAll (sound : d.Sound) {k : Nat} {caller : Caller}
    {verdict? : Option (Except SyncError SystemEvent)} (hk : d.callers[k]? = some caller)
    (h : caller.Awaits verdict? d.replies) (turns : List Turn) :
    ∃ caller', (d.takeAll turns).callers[k]? = some caller' ∧ caller'.reply = caller.reply ∧
      caller'.Awaits (verdict?.or (firstVerdict? k d turns)) (d.takeAll turns).replies := by
  induction turns generalizing d caller verdict? with
  | nil =>
    refine ⟨caller, hk, rfl, ?_⟩
    rw [firstVerdict?, Option.or_none]
    exact h
  | cons turn rest ih =>
    obtain ⟨caller₁, hk₁, reply₁, awaits₁⟩ := awaits_take sound hk h turn
    obtain ⟨caller₂, hk₂, reply₂, awaits₂⟩ := ih (sound_take sound turn) hk₁ awaits₁
    refine ⟨caller₂, hk₂, reply₂.trans reply₁, ?_⟩
    rw [firstVerdict?, ← Option.or_assoc]
    exact awaits₂

/-- Numbers become pending only with new callers. -/
theorem pending_takeAll (d : Desk C L M) (turns : List Turn) :
    ∃ later, (d.takeAll turns).handles = d.handles ++ later ∧
      ∀ id, d.replies.isPending id = false → (∀ reply ∈ later, reply.id ≠ id) →
        (d.takeAll turns).replies.isPending id = false := by
  induction turns generalizing d with
  | nil => exact ⟨[], (List.append_nil _).symm, fun id free _ => free⟩
  | cons turn rest ih =>
    obtain ⟨later, handles, free⟩ := ih (d.take turn)
    rcases d.take_cases turn with ⟨new, freeNew, callers, replies⟩ | dwindles
    · have here : (d.take turn).handles = d.handles ++ [⟨new, d.replies.issued⟩] := by
        simp [Desk.handles, callers, Caller.reply]
      refine ⟨⟨new, d.replies.issued⟩ :: later, ?_, fun id freeHere others => ?_⟩
      · refine handles.trans ?_
        rw [here, List.append_assoc]
        rfl
      · obtain ⟨ne, others⟩ := List.forall_mem_cons.mp others
        refine free id ?_ others
        rw [replies]
        exact (Replies.not_pending_register freeHere freeNew ne).1
    · refine ⟨later, ?_, fun id freeHere others => free id ?_ others⟩
      · rw [← dwindles.handles]
        exact handles
      · rw [Replies.isPending_eq_false_iff, Option.eq_none_iff_forall_ne_some] at freeHere ⊢
        exact fun box hbox => freeHere box (dwindles.pending hbox)

/-- Whoever comes is open. -/
theorem isOpen_of_came (sound : d.Sound) {turn : Turn} {k : Nat} {caller : Caller}
    (new : d.callers.length ≤ k) (hk : (d.take turn).callers[k]? = some caller) :
    (d.take turn).IsOpen caller := by
  rcases d.take_cases turn with ⟨id, free, callers, replies⟩ | dwindles
  · rw [callers, List.getElem?_append_right new] at hk
    obtain ⟨-, rfl⟩ := List.getElem?_eq_some_iff.mp hk
    have holds := Replies.holds_register sound.boxes free
    rw [← replies] at holds
    have leads := (holds.pending id).mpr ⟨rfl, rfl⟩
    simpa [IsOpen, Caller.told?, Caller.reply] using leads
  · have inside := (List.getElem?_eq_some_iff.mp hk).1
    rw [length_callers, dwindles.handles, ← length_callers] at inside
    omega

/-- The first verdict on a caller is the only one. Take any run, the desk `d` at some point of it
and the desk `e` at any later point. Then

* a number that is pending at `d` cannot be registered, and any other number can, for a new caller;
* whoever comes with a turn is open after it;
* a caller who is open at `d` is open at `e` and finds nothing, if there was no verdict since;
  otherwise no number leads to the box of the caller any more, and the first verdict is what the
  caller was told or will find;
* a number that is not pending at `d`, and was given to nobody since, cannot be resolved at `e`. -/
theorem callers_settled_once (c : Client C L M) (before after : List Turn) :
    let d := (opening c).takeAll before
    let e := d.takeAll after
    (∀ id, if d.replies.isPending id then
        d.replies.register id = (d.replies, .error (.duplicate id)) ∧ d.take (.register id) = d
      else ∃ box, d.take (.register id) =
        ⟨{ d.client with replies := (d.replies.register id).1 },
          d.callers ++ [.holding ⟨id, box⟩]⟩) ∧
      (∀ turn k caller, d.callers.length ≤ k → (d.take turn).callers[k]? = some caller →
        (d.take turn).IsOpen caller) ∧
      (∀ k caller, d.callers[k]? = some caller → d.IsOpen caller →
        ∃ caller', e.callers[k]? = some caller' ∧ caller'.reply = caller.reply ∧
          match firstVerdict? k d after with
          | none => e.IsOpen caller' ∧ e.replies.outcome? caller'.reply = none
          | some outcome =>
            (∀ id : CommandId, e.replies.pending[id]? ≠ some caller'.reply.box) ∧
              (caller'.told? = some outcome ∨ caller'.told? = none ∧ ∀ wait now,
                wait.reply = caller'.reply →
                  e.replies.poll wait now = (e.replies, some outcome))) ∧
      ∃ later, e.handles = d.handles ++ later ∧
        ∀ id, d.replies.isPending id = false → (∀ reply ∈ later, reply.id ≠ id) →
          ∀ outcome, e.replies.resolve id outcome = (e.replies, false) := by
  intro d e
  have sound : d.Sound := sound_takeAll (sound_opening c) before
  refine ⟨fun id => ?_, fun turn k caller => isOpen_of_came sound, fun k caller hk isOpen => ?_, ?_⟩
  · split
    · next pending =>
      refine ⟨?_, take_register_of_pending pending⟩
      rw [Replies.register, if_pos pending]
    · next free => exact ⟨_, take_register_of_free (Bool.eq_false_iff.mpr free)⟩
  · obtain ⟨caller', hk', reply, awaits⟩ := awaits_takeAll sound hk (sound.awaits_of_open hk isOpen)
      after
    rw [Option.none_or] at awaits
    refine ⟨caller', hk', reply, ?_⟩
    cases verdict : firstVerdict? k d after with
    | none =>
      rw [verdict] at awaits
      exact isOpen_of_awaits awaits
    | some outcome =>
      rw [verdict] at awaits
      exact settled_of_awaits awaits
  · obtain ⟨later, handles, free⟩ := d.pending_takeAll after
    refine ⟨later, handles, fun id notPending others outcome => ?_⟩
    exact Replies.remove_of_not_pending (free id notPending others) _

/-- A number is used again before the first caller looks. -/
def numberReused : List Turn := [.register 5, .resolve 5 (.event .leftSession), .register 5]

/-- The second caller waits for too long. -/
def secondTooLate : List Turn :=
  [.wait 0 none, .wait 1 (some 10), .poll 1, .advance 20, .poll 1, .poll 0]

theorem callers_settled_once_too_late :
    let d := (opening Client.newcomer).takeAll numberReused
    let e := d.takeAll secondTooLate
    d.callers[1]? = some (.holding ⟨5, 1⟩) ∧ d.IsOpen (.holding ⟨5, 1⟩) ∧
      d.replies.isPending 6 = false ∧ e.handles = d.handles ∧
      (∃ caller', e.callers[1]? = some caller' ∧ caller'.told? = some (.error (.timeout 5))) ∧
      e.replies.resolve 6 (.event .leftSession) = (e.replies, false) := by
  intro d e
  have second : d.callers[1]? = some (.holding ⟨5, 1⟩) := rfl
  have isOpen : d.IsOpen (.holding ⟨5, 1⟩) := ⟨rfl, by decide +kernel⟩
  have verdict : firstVerdict? 1 d secondTooLate = some (.error (.timeout 5)) := rfl
  have free : d.replies.isPending 6 = false := by decide +kernel
  have nobody : e.handles = d.handles ++ [] := by decide +kernel
  obtain ⟨-, -, settled, later, handles, unmatched⟩ :=
    callers_settled_once Client.newcomer numberReused secondTooLate
  obtain ⟨caller', hk, -, told⟩ := settled 1 _ second isOpen
  obtain rfl := List.append_cancel_left (nobody.symm.trans handles)
  have same : e.handles = d.handles := by rw [nobody, List.append_nil]
  refine ⟨second, isOpen, free, same, ⟨caller', hk, ?_⟩, unmatched 6 free nofun _⟩
  rw [verdict] at told
  have looked : (e.callers[1]?.bind Caller.told?).isSome := by decide +kernel
  rw [hk, Option.bind_some] at looked
  obtain ⟨-, told | ⟨untold, -⟩⟩ := told
  · exact told
  · rw [untold] at looked
    exact nomatch looked

end Desk

end Whiteboard
