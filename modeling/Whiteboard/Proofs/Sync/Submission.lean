import Whiteboard.Proofs.Sync.Callers
import Whiteboard.Proofs.Sync.Forwarding

/-!
# Submitting a command

A command whose reply is expected has its number noted as pending before the frame leaves, and the
number is given up again if the link refuses the frame. Two numbers may collide here: someone else
may await a reply to the same number already. Then the command is not sent at all, so that what is
given up is always what was noted just before. All in all a command is submitted completely or, as
far as awaited replies and accepted frames go, not at all.
-/

namespace Whiteboard

theorem Replies.pending_register_forget {r : Replies} {id : CommandId}
    (free : r.isPending id = false) : ((r.register id).1.forget id).1.pending = r.pending := by
  refine Std.ExtTreeMap.ext_getElem? fun i => ?_
  rw [forget, pending_remove, pending_register free]
  by_cases same : id = i
  · rw [if_pos same, ← same, isPending_eq_false_iff.mp free]
  · rw [if_neg same, if_neg same]

namespace Client

open Whiteboard.Action

variable {L M : Type} {c : Client Participant L M}

/-- The client once it has given a command the next number. -/
def encoded (c : Client Participant L M) (command : Command) : Client Participant L M :=
  { c with
    core := { c.core with lastId := c.core.nextId }
    log := c.log ++ c.submitNotes command }

/-- What submitting a command comes to. -/
def submission (c : Client Participant L M) (mode : ReplyMode) :
    Except SyncError (Option PendingReply) :=
  if mode = .expect ∧ c.replies.isPending c.core.nextId then .error (.duplicate c.core.nextId)
  else
    match c.link.refusal? c.link.attempts with
    | some e => .error (.link e)
    | none =>
      match mode with
      | .expect => .ok (some ⟨c.core.nextId, c.replies.issued⟩)
      | .ignore => .ok none

/-! ### How a submission ends -/

section Ends

variable {e : LinkError} (command : Command)

theorem submit_of_duplicate (pending : c.replies.isPending c.core.nextId) :
    submit command .expect c = .ok (.error (.duplicate c.core.nextId)) (c.encoded command) := by
  have stays := sendExpecting_of_pending (c := c.encoded command) (nextFrame c.core command) pending
  rw [submit_eq]
  exact bind_of_ok stays _

theorem submit_expect_of_refusing (free : c.replies.isPending c.core.nextId = false)
    (refuses : c.link.refusal? c.link.attempts = some e) :
    submit command .expect c = .ok (.error (.link e))
      { c.encoded command with
        link := { c.link with attempts := c.link.attempts + 1 }
        replies := ((c.replies.register c.core.nextId).1.forget c.core.nextId).1 } := by
  have fails := sendExpecting_of_free (c := c.encoded command) (nextFrame c.core command) free
  have refused : (c.encoded command).link.send (nextFrame c.core command) =
      ({ c.link with attempts := c.link.attempts + 1 }, .error e) :=
    Link.send_of_refusing _ refuses
  rw [refused] at fails
  rw [submit_eq]
  exact bind_of_ok fails _

theorem submit_expect_of_accepting (free : c.replies.isPending c.core.nextId = false)
    (accepts : c.link.refusal? c.link.attempts = none) :
    submit command .expect c = .ok (.ok (some ⟨c.core.nextId, c.replies.issued⟩))
      { c.encoded command with
        link := c.link.taking [nextFrame c.core command]
        replies := (c.replies.register c.core.nextId).1 } := by
  have sends := sendExpecting_of_free (c := c.encoded command) (nextFrame c.core command) free
  have accepted : (c.encoded command).link.send (nextFrame c.core command) =
      (c.link.taking [nextFrame c.core command], .ok ()) := Link.send_of_accepting _ accepts
  rw [accepted] at sends
  rw [submit_eq]
  exact bind_of_ok sends _

theorem submit_ignore_of_refusing (refuses : c.link.refusal? c.link.attempts = some e) :
    submit command .ignore c = .ok (.error (.link e))
      { c.encoded command with link := { c.link with attempts := c.link.attempts + 1 } } := by
  have refused : onLink (·.send (nextFrame c.core command)) (c.encoded command) =
      .ok (.error e)
        { c.encoded command with link := { c.link with attempts := c.link.attempts + 1 } } :=
    onLink_of_eq (Link.send_of_refusing _ refuses)
  rw [submit_eq]
  exact bind_of_ok refused _

theorem submit_ignore_of_accepting (accepts : c.link.refusal? c.link.attempts = none) :
    submit command .ignore c = .ok (.ok none)
      { c.encoded command with link := c.link.taking [nextFrame c.core command] } := by
  have accepted : onLink (·.send (nextFrame c.core command)) (c.encoded command) =
      .ok (.ok ()) { c.encoded command with link := c.link.taking [nextFrame c.core command] } :=
    onLink_of_eq (Link.send_of_accepting _ accepts)
  rw [submit_eq]
  exact bind_of_ok accepted _

end Ends

/-- A submission that fails leaves the same numbers pending and the same frames accepted. One that
succeeds has one more frame accepted and, if a reply is expected, leaves one more number pending. -/
theorem submit_of_submission (command : Command) (mode : ReplyMode) (c : Client Participant L M) :
    ∃ c', submit command mode c = .ok (c.submission mode) c' ∧
      c'.core = { c.core with lastId := c.core.nextId } ∧
      match c.submission mode with
      | .error e =>
        c'.replies.pending = c.replies.pending ∧
          ((e = .duplicate c.core.nextId ∧ c'.link = c.link) ∨
            ∃ l, e = .link l ∧ c'.link.accepted = c.link.accepted)
      | .ok reply? =>
        c'.link = c.link.taking [nextFrame c.core command] ∧
          match mode with
          | .ignore => reply? = none ∧ c'.replies = c.replies
          | .expect => ∃ reply, reply? = some reply ∧ reply.id = c.core.nextId ∧
            c.replies.isPending reply.id = false ∧
            c'.replies.pending = c.replies.pending.insert reply.id reply.box := by
  unfold submission
  cases mode with
  | ignore =>
    rw [if_neg fun both => nomatch both.1]
    cases verdict : c.link.refusal? c.link.attempts with
    | some e =>
      exact ⟨_, submit_ignore_of_refusing command verdict, rfl, rfl, .inr ⟨e, rfl, rfl⟩⟩
    | none => exact ⟨_, submit_ignore_of_accepting command verdict, rfl, rfl, rfl, rfl⟩
  | expect =>
    by_cases pending : c.replies.isPending c.core.nextId
    · rw [if_pos ⟨rfl, pending⟩]
      exact ⟨_, submit_of_duplicate command pending, rfl, rfl, .inl ⟨rfl, rfl⟩⟩
    · have free := Bool.eq_false_iff.mpr pending
      rw [if_neg fun both => pending both.2]
      cases verdict : c.link.refusal? c.link.attempts with
      | some e =>
        exact ⟨_, submit_expect_of_refusing command free verdict, rfl,
          Replies.pending_register_forget free, .inr ⟨e, rfl, rfl⟩⟩
      | none =>
        refine ⟨_, submit_expect_of_accepting command free verdict, rfl, rfl, _, rfl, rfl, free, ?_⟩
        rw [Replies.register_of_not_pending free]

end Client

namespace Desk

open Client (nextFrame)

variable {L M : Type} {d : Desk Participant L M}

theorem client_take_submit {command : Command} {mode : ReplyMode}
    {result : Except SyncError (Option PendingReply)} {c' : Client Participant L M}
    (submitted : Client.submit command mode d.client = .ok result c') :
    (d.take (.submit command mode)).client = c' := by
  have served : (do return (← Client.submit command mode).toOption.join :
      Action Participant L M (Option PendingReply)) d.client = .ok result.toOption.join c' :=
    Action.bind_of_ok submitted _
  cases handed : result.toOption.join with
  | none =>
    rw [handed] at served
    rw [take, serve_of_none served]
  | some reply =>
    rw [handed] at served
    rw [take, serve_of_ok served]

/-- Whoever is open is told a reply to the number of the handle. -/
theorem resolve_of_open (sound : d.Sound) {k : Nat} {caller : Caller}
    (hk : d.callers[k]? = some caller) (isOpen : d.IsOpen caller) (outcome : Outcome) :
    ∃ c', Client.resolve caller.reply.id outcome d.client = .ok true c' ∧
      c'.replies.outcome? caller.reply = some outcome.settle := by
  have awaits := sound.awaits_of_open hk isOpen
  have holds : d.replies.Holds caller.reply none := by
    unfold Caller.Awaits at awaits
    rwa [isOpen.1] at awaits
  have pending : (d.replies.resolve caller.reply.id outcome).2 = true := by
    rw [Replies.awaited_resolve, Replies.isPending, Std.ExtTreeMap.contains_eq_isSome_getElem?,
      isOpen.2]
    rfl
  have settled := holds.resolve caller.reply.id outcome
  rw [if_pos rfl] at settled
  refine ⟨{ d.client with
    replies := (d.replies.resolve caller.reply.id outcome).1
    log := d.client.log ++ d.replies.resolveNotes caller.reply.id }, ?_, settled.outcome?_eq⟩
  rw [← pending]
  rfl

/-- A command is submitted completely or not at all. Take a client in any state, with any numbers
pending for any callers, and any command.

* If the submission fails, the same numbers are pending as before. It fails because the reply to
  this number is awaited already, and then the link is not even asked, or because the link refuses
  the frame.
* If it succeeds, the link accepted one more frame, in which the command has the number given out
  last. If no reply is expected, nothing else happens; otherwise this number was free, is pending
  now, and is that of the handle that is given back.
* Callers for whom nothing was decided are left as they were. They, and a new one, are told the
  reply to their number when it comes. -/
theorem submit_all_or_nothing (c : Client Participant L M) (before : List Turn) (command : Command)
    (mode : ReplyMode) :
    let d := (opening c).takeAll before
    let d' := d.take (.submit command mode)
    let number := d.client.core.nextId
    ∃ c', Client.submit command mode d.client = .ok (d.client.submission mode) c' ∧
      d'.client = c' ∧ c'.core = { d.client.core with lastId := number } ∧
      (match d.client.submission mode with
        | .error e =>
          c'.replies.pending = d.replies.pending ∧
            ((e = .duplicate number ∧ c'.link = d.client.link) ∨
              ∃ l, e = .link l ∧ c'.link.accepted = d.client.link.accepted)
        | .ok reply? =>
          (∃ frame, c'.link.accepted = d.client.link.accepted ++ [frame] ∧
            (Frame.Storable (⟨number, command⟩ : Request) →
              Request.ofFrame frame = .ok ⟨c'.core.lastId, command⟩)) ∧
          match mode with
          | .ignore => reply? = none ∧ c'.replies = d.replies
          | .expect => ∃ reply, reply? = some reply ∧ reply.id = c'.core.lastId ∧
            d.replies.isPending reply.id = false ∧
            c'.replies.pending = d.replies.pending.insert reply.id reply.box) ∧
      (∀ (k : Nat) (caller : Caller), d.callers[k]? = some caller → d.IsOpen caller →
        d'.callers[k]? = some caller ∧ d'.IsOpen caller) ∧
      ∀ (k : Nat) (caller : Caller), d'.callers[k]? = some caller → d'.IsOpen caller → ∀ outcome,
        ∃ c'', Client.resolve caller.reply.id outcome c' = .ok true c'' ∧
          c''.replies.outcome? caller.reply = some outcome.settle := by
  intro d d' number
  have sound : d.Sound := sound_takeAll (sound_opening c) before
  obtain ⟨c', submitted, core, ends⟩ := Client.submit_of_submission command mode d.client
  have client : d'.client = c' := client_take_submit submitted
  refine ⟨c', submitted, client, core, ?_, ?_, ?_⟩
  · cases result : d.client.submission mode with
    | error e =>
      rw [result] at ends
      exact ends
    | ok reply? =>
      rw [result] at ends
      obtain ⟨link, rest⟩ := ends
      refine ⟨⟨nextFrame d.client.core command, by rw [link]; rfl, ?_⟩, ?_⟩
      · intro storable
        rw [core]
        exact Request.ofFrame_toFrame storable
      · rw [core]
        exact rest
  · intro k caller hk isOpen
    obtain ⟨there, awaits⟩ := awaits_served (d.served_submit command mode) hk
      (sound.awaits_of_open hk isOpen)
    exact ⟨there, (isOpen_of_awaits awaits).1⟩
  · intro k caller hk isOpen outcome
    rw [← client]
    exact resolve_of_open (sound_take sound _) hk isOpen outcome

/-- A number is noted for a caller before the participant gives it to a command. The command is not
sent, and the caller is told the reply to the number. Without an expected reply the same command is
sent with the same number. -/
theorem submit_all_or_nothing_collision :
    let d := (opening Client.newcomer).takeAll [.register 1]
    (∃ c', Client.submit .createSession .expect d.client = .ok (.error (.duplicate 1)) c' ∧
      c'.replies.pending = d.replies.pending ∧ c'.link.accepted = [] ∧
      ∃ c'', Client.resolve 1 (.event .leftSession) c' = .ok true c'' ∧
        c''.replies.outcome? ⟨1, 0⟩ = some (.ok .leftSession)) ∧
    ∃ c' frame, Client.submit .createSession .ignore d.client = .ok (.ok none) c' ∧
      c'.link.accepted = [frame] ∧ Request.ofFrame frame = .ok ⟨1, .createSession⟩ ∧
      c'.replies = d.replies := by
  intro d
  have leads : d.replies.pending[(1 : CommandId)]? = some 0 := by decide +kernel
  have isOpen : d.IsOpen (.holding ⟨1, 0⟩) := ⟨rfl, leads⟩
  have here : d.callers[0]? = some (.holding ⟨1, 0⟩) := rfl
  constructor
  · have collides : d.client.submission .expect = .error (.duplicate 1) := rfl
    obtain ⟨c', submitted, -, -, ends, kept, resolved⟩ :=
      submit_all_or_nothing Client.newcomer [.register 1] .createSession .expect
    rw [collides] at submitted ends
    obtain ⟨there, stillOpen⟩ := kept 0 (.holding ⟨1, 0⟩) here isOpen
    refine ⟨c', submitted, ends.1, ?_, resolved 0 (.holding ⟨1, 0⟩) there stillOpen _⟩
    rcases ends.2 with ⟨-, same⟩ | ⟨l, duplicate, -⟩
    · rw [same]
      rfl
    · cases duplicate
  · have accepts : d.client.submission .ignore = .ok none := rfl
    obtain ⟨c', submitted, -, core, ends, -⟩ :=
      submit_all_or_nothing Client.newcomer [.register 1] .createSession .ignore
    rw [accepts] at submitted ends
    obtain ⟨⟨frame, accepted, decodes⟩, -, same⟩ := ends
    refine ⟨c', frame, submitted, accepted, ?_, same⟩
    rw [decodes (by decide +kernel), core]
    rfl

end Desk

end Whiteboard
