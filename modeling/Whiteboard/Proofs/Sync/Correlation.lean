import Whiteboard.Proofs.Participant.Apply
import Whiteboard.Proofs.Sync.Outbox
import Whiteboard.Proofs.Sync.Submission
import Whiteboard.Proofs.Sync.Telling
import Whiteboard.Proofs.Sync.Tidings

/-!
# Replies reach those who asked

Requests, segments and edits draw their numbers from one counter, but only requests await replies.
As long as the counter does not wrap around, the next number is always free: a request never
collides with another one, and no number that went to a segment or an edit ever becomes pending. So
whatever listeners do in between, a chronicle of commands and replies tells who is settled by what.

When the stream of frames ends, nobody waits any more. But it does not always get to its end: a
frame that claims to hold a string longer than memory brings routing to a fault, and then those who
wait go on waiting.
-/

namespace Whiteboard

open Whiteboard.Action

/-- What the correlation of replies depends on. -/
structure Books where
  /-- What became known so far. -/
  tidings : List Tiding
  /-- The number given out last. -/
  lastId : CommandId
  /-- The awaited replies. -/
  replies : Replies
  /-- The frames that the link accepted. -/
  accepted : List Frame
  /-- The requests that the client was asked to send at once. -/
  asked : List Request
  /-- The requests that announce edits. -/
  announced : List Request
  /-- How long callers wait. -/
  timeout : Option Nat

namespace Books

variable {b : Books}

/-- How many numbers were given out. -/
def given (b : Books) : Nat := b.asked.length + b.announced.length

/-- The chronicle leads to what there is. -/
structure Balanced (b : Books) : Prop where
  /-- The counter counts the numbers given out. -/
  count : b.lastId.toNat = b.given
  /-- The chronicle leads to this number and to the awaited replies. -/
  leads : LeadsTo b.tidings b.lastId b.replies
  /-- What was sent was asked for and accepted, and its caller waits for as long as it takes. -/
  sent : ∀ {command : Command} {wait : Wait}, .sent command wait ∈ b.tidings →
    wait.limit = none ∧ ⟨wait.reply.id, command⟩ ∈ b.asked ∧
      Request.toFrame ⟨wait.reply.id, command⟩ ∈ b.accepted

/-- As long as the numbers last, the chronicle leads to what there is. -/
structure Sound (b : Books) : Prop where
  /-- Callers wait for as long as it takes. -/
  untimed : b.timeout = none
  /-- The chronicle leads to what there is. -/
  balanced : b.given < 2 ^ 32 → b.Balanced

/-- What holds of requests that were sent does so later as well. -/
theorem Balanced.extend (h : b.Balanced) {b' : Books} (count : b'.lastId.toNat = b'.given)
    (leads : LeadsTo b'.tidings b'.lastId b'.replies)
    (sent : ∀ command wait, .sent command wait ∈ b'.tidings → .sent command wait ∈ b.tidings)
    (asked : b.asked ⊆ b'.asked) (accepted : b.accepted ⊆ b'.accepted) : b'.Balanced where
  count := count
  leads := leads
  sent {command wait} mem := by
    obtain ⟨untimed, wanted, gone⟩ := h.sent (sent command wait mem)
    exact ⟨untimed, asked wanted, accepted gone⟩

namespace Sound

/-- The number that is given out next is new. -/
theorem next (h : b.Sound) {next : CommandId}
    (successor : b.lastId.toNat + 1 < 2 ^ 32 → next.toNat = b.lastId.toNat + 1)
    (room : b.given + 1 < 2 ^ 32) :
    b.Balanced ∧ next.toNat = b.given + 1 ∧ b.lastId < next := by
  have balanced := h.balanced (by omega)
  have count := balanced.count
  have number := successor (by omega)
  refine ⟨balanced, by omega, ?_⟩
  rw [UInt32.lt_iff_toNat_lt]
  omega

theorem send (h : b.Sound) {next : CommandId}
    (successor : b.lastId.toNat + 1 < 2 ^ 32 → next.toNat = b.lastId.toNat + 1)
    (command : Command) (since : Nat) :
    Sound { b with
      tidings := b.tidings ++ [.sent command ⟨⟨next, b.replies.issued⟩, b.timeout, since⟩]
      lastId := next
      replies := (b.replies.register next).1
      accepted := b.accepted ++ [Request.toFrame ⟨next, command⟩]
      asked := b.asked ++ [⟨next, command⟩] } := by
  refine ⟨h.untimed, fun room => ?_⟩
  have total : b.given + 1 < 2 ^ 32 := by simpa [given, Nat.add_right_comm] using room
  obtain ⟨balanced, number, later⟩ := h.next successor total
  refine ⟨?_, balanced.leads.sent later command _ since, fun {command' wait} mem => ?_⟩
  · simpa [given, Nat.add_right_comm] using number
  · rcases List.mem_append.mp mem with before | new
    · obtain ⟨untimed, wanted, gone⟩ := balanced.sent before
      exact ⟨untimed, List.mem_append_left _ wanted, List.mem_append_left _ gone⟩
    · obtain ⟨rfl, rfl⟩ := Tiding.sent.inj (List.mem_singleton.mp new)
      exact ⟨h.untimed, List.mem_concat_self, List.mem_concat_self⟩

theorem refuse (h : b.Sound) {next : CommandId}
    (successor : b.lastId.toNat + 1 < 2 ^ 32 → next.toNat = b.lastId.toNat + 1)
    (command : Command) :
    Sound { b with
      lastId := next
      replies := ((b.replies.register next).1.forget next).1
      asked := b.asked ++ [⟨next, command⟩] } := by
  refine ⟨h.untimed, fun room => ?_⟩
  have total : b.given + 1 < 2 ^ 32 := by simpa [given, Nat.add_right_comm] using room
  obtain ⟨balanced, number, later⟩ := h.next successor total
  refine balanced.extend ?_ (balanced.leads.refused later) (fun _ _ mem => mem)
    (List.subset_append_left _ _) (List.Subset.refl _)
  simpa [given, Nat.add_right_comm] using number

/-- As long as the numbers last, no request finds its number pending. -/
theorem collide (h : b.Sound) {next : CommandId}
    (successor : b.lastId.toNat + 1 < 2 ^ 32 → next.toNat = b.lastId.toNat + 1)
    (pending : b.replies.isPending next) (command : Command) (t : Tiding) :
    Sound { b with
      tidings := b.tidings ++ [t], lastId := next, asked := b.asked ++ [⟨next, command⟩] } := by
  refine ⟨h.untimed, fun room => ?_⟩
  have total : b.given + 1 < 2 ^ 32 := by simpa [given, Nat.add_right_comm] using room
  obtain ⟨balanced, -, later⟩ := h.next successor total
  rw [balanced.leads.free later] at pending
  cases pending

theorem spend (h : b.Sound) {next : CommandId}
    (successor : b.lastId.toNat + 1 < 2 ^ 32 → next.toNat = b.lastId.toNat + 1)
    {accepted : List Frame} {asked announced : List Request}
    (more : asked.length + announced.length = b.given + 1) (kept : b.asked ⊆ asked)
    (gone : b.accepted ⊆ accepted) :
    Sound { b with
      tidings := b.tidings ++ [.spent next], lastId := next, accepted, asked, announced } := by
  refine ⟨h.untimed, fun room => ?_⟩
  have total : b.given + 1 < 2 ^ 32 := by rw [← more]; exact room
  obtain ⟨balanced, number, later⟩ := h.next successor total
  refine balanced.extend ?_ (balanced.leads.spent later) (fun _ _ mem => by simpa using mem) kept
    gone
  rw [number, ← more]
  rfl

theorem hear (h : b.Sound) (s : Signal) :
    Sound { b with
      tidings := b.tidings ++ [.heard s b.replies], replies := b.replies.hear s } := by
  refine ⟨h.untimed, fun room => ?_⟩
  have balanced := h.balanced room
  exact balanced.extend balanced.count (balanced.leads.heard s) (fun _ _ mem => by simpa using mem)
    (List.Subset.refl _) (List.Subset.refl _)

/-- An operation fails, but not because its number is pending. -/
theorem fail (h : b.Sound) {e : SyncError} (other : ∀ id, e ≠ .duplicate id) :
    Sound { b with tidings := b.tidings ++ [.failed e] } := by
  refine ⟨h.untimed, fun room => ?_⟩
  have balanced := h.balanced room
  exact balanced.extend balanced.count (balanced.leads.failed other)
    (fun _ _ mem => by simpa using mem) (List.Subset.refl _) (List.Subset.refl _)

theorem accept (h : b.Sound) {accepted : List Frame} (gone : b.accepted ⊆ accepted) :
    Sound { b with accepted } := by
  refine ⟨h.untimed, fun room => ?_⟩
  have balanced := h.balanced room
  exact balanced.extend balanced.count balanced.leads (fun _ _ mem => mem) (List.Subset.refl _) gone

end Sound

end Books

namespace Client

variable {L M : Type}

/-- What the correlation of replies depends on. -/
def books (c : Observed L (Chronicle M)) : Books :=
  ⟨c.memory.own.tidings, c.core.lastId, c.replies, c.link.accepted, c.memory.asked,
    c.memory.announced, c.settings.replyTimeout⟩

/-- The books of the client are sound. -/
def Sound (c : Observed L (Chronicle M)) : Prop := c.books.Sound

section Operations

variable {react : Reaction Participant L (Diary L (Chronicle M))} {c d : Observed L (Chronicle M)}

theorem subset_accepted_send (l : Link) (frame : Frame) :
    l.accepted ⊆ (l.send frame).1.accepted := by
  rcases accepted_send l frame with same | more
  · rw [same]
    exact List.Subset.refl _
  · rw [more]
    exact List.subset_append_left _ _

/-- What an operation does after its number is written down is done in between, and then its answer
is written down. -/
theorem performTold_after {op : Operation L} {answer : Answer}
    (ended : op.performAttentive react ((tell (op.spends? c.core)).after c) = .ok answer d) :
    (op.performTold react).after c = (tell (op.tiding? answer)).after d := by
  have written : (do
      tell (op.tiding? answer)
      return answer) d = .ok answer ((tell (op.tiding? answer)).after d) :=
    bind_of_ok (tell_ok (op.tiding? answer) d) _
  have performed : op.performTold react c = .ok answer ((tell (op.tiding? answer)).after d) :=
    (bind_of_ok (tell_ok (op.spends? c.core) c) _).trans ((bind_of_ok ended _).trans written)
  exact after_of_ok performed

theorem performTold_after_of_error {op : Operation L} {fault : Fault}
    (ended : op.performAttentive react ((tell (op.spends? c.core)).after c) = .error fault d) :
    (op.performTold react).after c = d := by
  have performed : op.performTold react c = .error fault d :=
    (bind_of_ok (tell_ok (op.spends? c.core) c) _).trans (bind_of_error ended _)
  exact after_of_error performed

theorem request_waits (react : Reaction Participant L (Diary L (Chronicle M)))
    {command : Command} {reply : PendingReply}
    (submitted : submit command .expect
      { c with memory := c.memory.note c.core (.request command) } = .ok (.ok (some reply)) d) :
    (Operation.request command).performAttentive react c =
      .ok (.waiting ⟨reply, d.settings.replyTimeout, d.now⟩) d := by
  have requested : request command { c with memory := c.memory.note c.core (.request command) } =
      .ok (.ok ⟨reply, d.settings.replyTimeout, d.now⟩) d := bind_of_ok submitted _
  exact bind_of_ok requested _

theorem request_fails (react : Reaction Participant L (Diary L (Chronicle M)))
    {command : Command} {e : SyncError}
    (submitted : submit command .expect
      { c with memory := c.memory.note c.core (.request command) } = .ok (.error e) d) :
    (Operation.request command).performAttentive react c = .ok (.failed e) d := by
  have requested : request command { c with memory := c.memory.note c.core (.request command) } =
      .ok (.error e) d := bind_of_ok submitted _
  exact bind_of_ok requested _

/-- A request is sent, or refused, or finds its number pending. -/
theorem request_sound (command : Command) :
    Keeps Sound ((Operation.request command).performTold react) := by
  intro c h
  by_cases pending : c.replies.isPending c.core.nextId
  · have found := request_fails react (submit_of_duplicate command
      (c := { c with memory := c.memory.note c.core (.request command) }) pending)
    rw [performTold_after found]
    exact h.collide c.core.toNat_nextId pending command _
  · have free := Bool.eq_false_iff.mpr pending
    cases verdict : c.link.refusal? c.link.attempts with
    | some e =>
      have refused := request_fails react (submit_expect_of_refusing command
        (c := { c with memory := c.memory.note c.core (.request command) }) free verdict)
      rw [performTold_after refused]
      exact (h.refuse c.core.toNat_nextId command).fail nofun
    | none =>
      have sent := request_waits react (submit_expect_of_accepting command
        (c := { c with memory := c.memory.note c.core (.request command) }) free verdict)
      rw [performTold_after sent]
      exact h.send c.core.toNat_nextId command c.now

theorem fragment_answers (react : Reaction Participant L (Diary L (Chronicle M)))
    {f : Fragment} {reply? : Except SyncError (Option PendingReply)}
    (submitted : submit (.session (.fragment f)) .ignore
      { c with memory := c.memory.note c.core (.fragment f) } = .ok reply? d) :
    (Operation.fragment f).performAttentive react c =
      .ok (match reply? with
        | .ok _ => .done
        | .error e => .failed e) d := by
  have drawn : sendFragment f { c with memory := c.memory.note c.core (.fragment f) } =
      .ok (reply?.map fun _ => ()) d := bind_of_ok submitted _
  refine (bind_of_ok drawn _).trans ?_
  cases reply? <;> rfl

/-- A segment takes a number, whether or not the link accepts its frame. -/
theorem fragment_sound (f : Fragment) : Keeps Sound ((Operation.fragment f).performTold react) := by
  intro c h
  let begun : Observed L (Chronicle M) := (tell (some (.spent c.core.nextId))).after c
  let r : Request := ⟨c.core.nextId, .session (.fragment f)⟩
  have more : (c.memory.asked ++ [r]).length + c.memory.announced.length = c.books.given + 1 := by
    simp [Books.given, books, Nat.add_right_comm]
  cases verdict : c.link.refusal? c.link.attempts with
  | some e =>
    have refused := fragment_answers react (submit_ignore_of_refusing _
      (c := { begun with memory := begun.memory.note begun.core (.fragment f) }) verdict)
    rw [performTold_after refused]
    exact (h.spend c.core.toNat_nextId more (List.subset_append_left _ _)
      (List.Subset.refl _)).fail nofun
  | none =>
    have accepted := fragment_answers react (submit_ignore_of_accepting _
      (c := { begun with memory := begun.memory.note begun.core (.fragment f) }) verdict)
    rw [performTold_after accepted]
    exact h.spend c.core.toNat_nextId more (List.subset_append_left _ _)
      (List.subset_append_left _ _)

theorem drain_sound :
    Keeps Sound (drain : Action Participant L (Diary L (Chronicle M)) (Except SyncError Nat)) :=
  drain_keeps (fun c frame _ _ _ h => h.accept (subset_accepted_send c.link frame))
    (fun c frame _ _ _ _ h => h.accept (subset_accepted_send c.link frame)) fun _ _ _ h => h

/-- An edit that fails does so because of the link. -/
theorem push_fails {edit : Edit} {e : SyncError}
    (failed : (Operation.push edit).performAttentive react c = .ok (.failed e) d) :
    ∃ l, e = .link l := by
  have performed := (push_eq react edit c).symm.trans failed
  obtain ⟨_, c₁, -, sent⟩ := ok_of_bind performed
  obtain ⟨result, c₂, drained, answered⟩ := ok_of_bind sent
  obtain ⟨_, _, drained', errors⟩ := drain_spec c₁
  obtain ⟨rfl, -⟩ := EStateM.Result.ok.inj (drained.symm.trans drained')
  cases result with
  | ok n => cases answered
  | error e' =>
    cases answered
    exact errors _ rfl

/-- When an edit is written down and made, it has taken a number inside a session and none
outside. -/
theorem made_sound (edit : Edit) (h : c.Sound) :
    let begun := (tell ((Operation.push edit : Operation L).spends? c.core)).after c
    Sound { begun with
      core := (begun.core.push edit).1
      log := begun.log ++ begun.core.pushNotes
      memory := begun.memory.note begun.core (.push edit) } := by
  dsimp only
  cases session : c.core.session? with
  | none =>
    have spends : (Operation.push edit : Operation L).spends? c.core = none := by
      rw [Operation.spends?, session]
      rfl
    have silent : c.core.announcement? edit = none := by
      rw [Participant.announcement?, session]
      rfl
    have number : (c.core.push edit).1.lastId = c.core.lastId := by
      rw [c.core.lastId_push, session]
      rfl
    rw [spends]
    show Books.Sound { c.books with
      lastId := (c.core.push edit).1.lastId
      announced := c.memory.announced ++ (c.core.announcement? edit).toList }
    rw [number, silent, Option.toList_none, List.append_nil]
    exact h
  | some s =>
    have spends : (Operation.push edit : Operation L).spends? c.core =
        some (.spent c.core.nextId) := by
      rw [Operation.spends?, session]
      rfl
    have number : (c.core.push edit).1.lastId = c.core.nextId := by
      rw [c.core.lastId_push, session]
      rfl
    have one : (c.core.announcement? edit).toList.length = 1 := by
      rw [Participant.announcement?, session]
      rfl
    have more : c.memory.asked.length +
        (c.memory.announced ++ (c.core.announcement? edit).toList).length = c.books.given + 1 := by
      rw [List.length_append, one]
      rfl
    rw [spends]
    show Books.Sound { c.books with
      tidings := c.memory.own.tidings ++ [.spent c.core.nextId]
      lastId := (c.core.push edit).1.lastId
      announced := c.memory.announced ++ (c.core.announcement? edit).toList }
    rw [number]
    exact h.spend c.core.toNat_nextId more (List.Subset.refl _) (List.Subset.refl _)

variable (called : ∀ listener notice, Keeps Sound (react listener notice))

include called

theorem publishObjects_sound : Keeps Sound (publishObjects react) :=
  publishObjects_keeps (fun _ h => h) fun listener object => called listener (.object object)

theorem push_sound (edit : Edit) : Keeps Sound ((Operation.push edit).performTold react) := by
  intro c h
  let begun : Observed L (Chronicle M) :=
    (tell ((Operation.push edit : Operation L).spends? c.core)).after c
  have made : Sound { begun with
      core := (begun.core.push edit).1
      log := begun.log ++ begun.core.pushNotes
      memory := begun.memory.note begun.core (.push edit) } := made_sound edit h
  have performed : Sound (((Operation.push edit).performAttentive react).after begun) := by
    have same : (Operation.push edit).performAttentive react begun = _ := push_eq react edit begun
    rw [after, same]
    exact (publishObjects_sound called).bind (fun _ => dispatch_keeps drain_sound) _ made
  cases ended : (Operation.push edit).performAttentive react begun with
  | error fault d =>
    rw [performTold_after_of_error ended, ← after_of_error ended]
    exact performed
  | ok answer d =>
    rw [after_of_ok ended] at performed
    rw [performTold_after ended]
    cases answer with
    | failed e =>
      obtain ⟨l, rfl⟩ := push_fails ended
      refine performed.fail fun id same => ?_
      cases same
    | _ => exact performed

theorem route_sound (frame : Frame) : Keeps Sound (routeBy attentive react frame) := by
  have applied : ∀ (c : Observed L (Chronicle M)) frame, c.Sound →
      Sound { c with core := (c.core.apply frame).1 } := by
    intro c frame h
    show Books.Sound { c.books with lastId := (c.core.apply frame).1.lastId }
    rw [c.core.lastId_apply frame]
    exact h
  have roster : Keeps Sound (publishRoster react) :=
    publishRoster_keeps (fun _ h => h) (fun _ _ _ h => h) fun listener roster =>
      called listener (.roster roster)
  have broadcast : ∀ routed, Keeps Sound ((attentive (L := L) (M := M)).broadcast routed) :=
    fun _ _ h => h
  have settle : ∀ id outcome, Keeps Sound ((attentive (L := L) (M := M)).settle id outcome) :=
    fun id outcome _ h => h.hear (.reply id outcome)
  exact routeBy_keeps (fun _ _ h => h) applied (publishObjects_sound called) roster broadcast settle
    frame

theorem run_sound (frames : List Frame) : Keeps Sound (runTold react frames) := by
  have routed : Keeps Sound (routeAllTold react frames) := by
    induction frames with
    | nil => exact .pure ()
    | cons frame rest ih => exact (route_sound called frame).bind fun _ => ih
  exact routed.bind fun _ c h => h.hear .ended

omit called in
/-- What neither takes a number nor fails is not written down. -/
theorem unwritten_sound {op : Operation L} (idle : ∀ p, op.spends? p = none)
    (succeeds : ∀ {c answer d}, op.performAttentive react c = .ok answer d →
      op.tiding? answer = none)
    (kept : Keeps Sound (op.performAttentive react)) : Keeps Sound (op.performTold react) := by
  intro c h
  have begun : (tell (op.spends? c.core)).after c = c := by
    rw [idle]
    rfl
  have performed := kept c h
  cases ended : op.performAttentive react c with
  | error fault d =>
    rw [← begun] at ended
    rw [performTold_after_of_error ended, ← after_of_error ended, begun]
    exact performed
  | ok answer d =>
    rw [after_of_ok ended] at performed
    have silent := succeeds ended
    rw [← begun] at ended
    rw [performTold_after ended, silent]
    exact performed

theorem performTold_sound (op : Operation L) : Keeps Sound (op.performTold react) := by
  cases op with
  | request command => exact request_sound command
  | fragment f => exact fragment_sound f
  | push edit => exact push_sound called edit
  | route frame =>
    refine unwritten_sound (fun _ => rfl) (fun ended => ?_)
      ((route_sound called frame).bind fun outcome => .pure _)
    obtain ⟨outcome, _, -, answered⟩ := ok_of_bind ended
    cases answered
    rfl
  | run frames =>
    refine unwritten_sound (fun _ => rfl) (fun ended => ?_)
      ((run_sound called frames).bind fun _ => .pure _)
    obtain ⟨_, _, -, answered⟩ := ok_of_bind ended
    cases answered
    rfl
  | advance milliseconds =>
    refine unwritten_sound (fun _ => rfl) (fun ended => ?_)
      (advance_performed (fun _ _ h => h) milliseconds)
    obtain ⟨_, _, -, performed⟩ := ok_of_bind ended
    obtain ⟨_, _, -, answered⟩ := ok_of_bind performed
    cases answered
    rfl
  | _ =>
    refine unwritten_sound (fun _ => rfl) (fun ended => ?_) fun _ h => h
    cases ended
    rfl

end Operations

/-- Every operation keeps the books sound, whatever the listeners do. -/
theorem sound_abiding : Abiding (L := L) (M := M) Sound where
  performed op called := performTold_sound called op
  written _ _ _ h := h
  remembered _ h := h

theorem sound_create {ids : IdSource} {settings : Settings} {own : M} {fresh : Observed L M}
    (created : create (Participant.create ids) settings (Diary.blank own) = .ok fresh)
    (patient : settings.replyTimeout = none) (link : Link) :
    ({ fresh with link } : Observed L M).chronicled.Sound := by
  obtain ⟨feed, rfl⟩ := eq_of_create created
  exact ⟨patient, fun _ => ⟨rfl, .nothing, nofun⟩⟩

/-! ### What callers find -/

section Callers

variable {N : Type} {c e : Client Participant L N}

/-- Looking at a handle without a time limit gives what it leads to and changes nothing. -/
theorem poll_of_holds {wait : Wait} (untimed : wait.limit = none)
    {outcome? : Option (Except SyncError SystemEvent)} (h : c.replies.Holds wait.reply outcome?) :
    poll wait c = .ok outcome? c := by
  have endless : wait.isOver c.now = false := by rw [Wait.isOver, untimed]
  have looked : c.replies.poll wait c.now = (c.replies, outcome?) := by
    rw [Replies.poll, h.outcome?_eq, endless]
    cases outcome? with
    | none => rfl
    | some outcome => rfl
  have silent : c.replies.pollNotes wait c.now = [] := by
    rw [Replies.pollNotes, h.outcome?_eq, endless]
    cases outcome? <;> rfl
  rw [poll_eq, looked, silent, List.append_nil]

/-- When the stream has ended, no reply is awaited. -/
theorem count_of_run {react : Reaction Participant L N} {frames : List Frame}
    (ended : run react frames c = .ok () e) : e.replies.count = 0 := by
  obtain ⟨_, c₁, -, closed⟩ := ok_of_bind ended
  obtain ⟨_, rfl⟩ := EStateM.Result.ok.inj closed
  exact c₁.replies.count_abandonAll

theorem not_pending_of_count {r : Replies} (none : r.count = 0) (id : CommandId) :
    r.isPending id = false := by
  have nothing : r.pending = ∅ := Std.ExtTreeMap.eq_empty_iff_size_eq_zero.mpr none
  rw [Replies.isPending, nothing]
  rfl

end Callers

/-- Requests get the replies to themselves. Take any run of a new client without a time limit,
whatever its listeners do, and the chronicle of the run. Without its chronicle the run is the same,
what is written down stays so, and every operation that returns tells what it should. If fewer than
`2 ^ 32 - 1` numbers were given out, then

* a request that was sent was asked for, and the link accepted its frame; its caller finds what the
  first tiding afterwards that concerns its number says, and its number is pending as long as there
  is none;
* a reply finds nobody if its number went to a segment or an edit, or to nobody, or was not given to
  a request before;
* no operation fails because its number is pending;
* if no number is pending, then every caller finds something.

When the stream of frames has ended, no number is pending. It ends unless a frame comes to a fault,
if the listeners return. -/
theorem replies_not_crossed (habits : Habits L M) {ids : IdSource} {settings : Settings} {own : M}
    {fresh : Observed L M}
    (created : create (Participant.create ids) settings (Diary.blank own) = .ok fresh)
    (patient : settings.replyTimeout = none) (link : Link) (ops : List (Operation L)) :
    let start := { fresh with link }
    let c := operateAllNoted habits start ops
    let told := tidings habits start ops
    ((operateAllTold habits start.chronicled ops).plain = c ∧
      (∀ more, told <+: tidings habits start (ops ++ more)) ∧
      ∀ op answer d, op.performNoted habits.reaction c = .ok answer d →
        ∃ since, tidings habits start (ops ++ [op]) = told ++ since ∧
          op.Tells habits.OnlyLook c.core answer since) ∧
    (c.memory.asked.length + c.memory.announced.length < 2 ^ 32 - 1 →
      (∀ command wait since, .sent command wait :: since <:+ told →
        ⟨wait.reply.id, command⟩ ∈ c.memory.asked ∧
          Request.toFrame ⟨wait.reply.id, command⟩ ∈ c.link.accepted ∧
          poll wait c = .ok (settlement? wait.reply.id since) c ∧
          (c.replies.isPending wait.reply.id = true ↔ settlement? wait.reply.id since = none)) ∧
      (∀ before id outcome awaited, before ++ [.heard (.reply id outcome) awaited] <+: told →
        (.spent id ∈ told ∨ id = 0 ∨ c.core.lastId < id ∨
          ∀ command wait, .sent command wait ∈ before → wait.reply.id ≠ id) →
        awaited.resolve id outcome = (awaited, false)) ∧
      (∀ id, .failed (.duplicate id) ∉ told) ∧
      (c.replies.count = 0 → ∀ command wait since, .sent command wait :: since <:+ told →
        settlement? wait.reply.id since ≠ none)) ∧
    (∀ frames d e, run habits.reaction frames d = .ok () e → e.replies.count = 0) ∧
    (habits.ComeBack → ∀ frames d,
      (∃ e, run habits.reaction frames d = .ok () e) ↔ ∀ frame ∈ frames, frame.fault? = none) := by
  intro start c told
  let t := operateAllTold habits start.chronicled ops
  have plain : t.plain = c := operateAllTold_plain habits start.chronicled ops
  refine ⟨⟨plain, tidings_prefix habits start ops,
      fun op answer d ended => tidings_tells habits start ops ended⟩,
    fun few => ?_, fun frames d e => count_of_run, fun back frames d => run_returns_iff back⟩
  · have first := sound_create created patient link
    have sound : t.Sound := sound_abiding.operateAllTold habits first ops
    clear_value c
    subst plain
    have balanced := sound.balanced (Nat.lt_of_lt_of_le few (Nat.sub_le _ _))
    have leads : LeadsTo told t.core.lastId t.replies := balanced.leads
    refine ⟨fun command wait since sent => ?_, fun before id outcome awaited heard unmatched => ?_,
      leads.not_duplicate, fun none command wait since sent unsettled => ?_⟩
    · obtain ⟨untimed, asked, accepted⟩ := balanced.sent (sent.subset List.mem_cons_self)
      have holds : t.plain.replies.Holds wait.reply _ := leads.holds sent
      exact ⟨asked, accepted, poll_of_holds untimed holds, leads.isPending_iff sent⟩
    · refine leads.resolve_of_unsent heard fun command wait mem same => ?_
      have known : .sent command wait ∈ told :=
        heard.subset (List.mem_append_left _ mem)
      obtain ⟨positive, le⟩ := leads.sent_given known
      rcases unmatched with spent | rfl | beyond | unsent
      · exact leads.sent_ne_spent known spent same
      · rw [same] at positive
        exact UInt32.lt_irrefl _ positive
      · rw [same] at le
        exact UInt32.lt_irrefl _ (UInt32.lt_of_lt_of_le beyond le)
      · exact unsent command wait mem same
    · have pending := (leads.isPending_iff sent).mpr unsettled
      have free : t.replies.isPending wait.reply.id = false := not_pending_of_count none _
      rw [free] at pending
      cases pending

/-- A listener that draws something and then asks to leave. -/
def eager : Habits Unit Unit := fun _ _ _ =>
  .perform (.fragment diagonal) idle fun _ _ =>
    .perform (.request .leaveSession) idle fun _ _ => .finish ()

/-- A listener is added and called when a session is entered. Then the echo of what it drew comes,
the reply to what it asked for, and another one, and the stream ends. -/
def eventful : List (Operation Unit) :=
  [.watchObject ⟨"plan"⟩ (),
    .route (Inbound.notice (.joinedSession 7 ⟨[3]⟩ ⟨some ⟨"plan"⟩, [], []⟩)).toFrame,
    .route (Inbound.reply 1 (.event (.session (.fragment diagonal)))).toFrame,
    .run [(Inbound.reply 2 (.refused .invalidSession)).toFrame,
      (Inbound.reply 2 (.event (.connected 3))).toFrame]]

/-- The listener's request is the second tiding, and of those that follow the third settles it. -/
theorem tidings_eventful :
    ∃ since, .sent .leaveSession ⟨⟨2, 0⟩, none, 0⟩ :: since <:+
        tidings eager { diarist with link := .create } eventful ∧
      settlement? 2 since = some (.error (.rejected .invalidSession)) := by
  let told := tidings eager { diarist with link := .create } eventful
  have second : (told.drop 1).head?.bind Tiding.sent? =
      some (.leaveSession, ⟨⟨2, 0⟩, none, 0⟩) := by decide +kernel
  have signals : (told.drop 1).tail.filterMap Tiding.signal? =
      [.reply 1 (.event (.session (.fragment diagonal))), .reply 2 (.refused .invalidSession),
        .reply 2 (.event (.connected 3)), .ended] := by decide +kernel
  have suffix : told.drop 1 <:+ told := List.drop_suffix 1 told
  cases later : told.drop 1 with
  | nil =>
    rw [later] at second
    cases second
  | cons t since =>
    rw [later] at second signals suffix
    obtain rfl := Tiding.eq_of_sent? second
    refine ⟨since, suffix, ?_⟩
    rw [settlement?, show since.filterMap Tiding.signal? = _ from signals]
    rfl

theorem replies_not_crossed_eventful :
    let c := operateAllNoted eager { diarist with link := .create } eventful
    create (.create (.labelled 1)) .usual (.blank ()) = .ok diarist ∧
      Settings.usual.replyTimeout = none ∧
      c.memory.asked.length + c.memory.announced.length < 2 ^ 32 - 1 ∧
      Request.toFrame ⟨2, .leaveSession⟩ ∈ c.link.accepted ∧
      poll ⟨⟨2, 0⟩, none, 0⟩ c = .ok (some (.error (.rejected .invalidSession))) c := by
  have few : (operateAllNoted eager { diarist with link := .create } eventful).memory.asked.length +
      (operateAllNoted eager { diarist with link := .create } eventful).memory.announced.length <
        2 ^ 32 - 1 := by decide +kernel
  have settled := replies_not_crossed eager create_diarist rfl .create eventful
  obtain ⟨since, sent, said⟩ := tidings_eventful
  dsimp only at settled ⊢
  generalize operateAllNoted eager { diarist with link := .create } eventful = c at few settled ⊢
  obtain ⟨-, accepted, found, -⟩ := (settled.2.1 few).1 _ _ since sent
  rw [said] at found
  exact ⟨create_diarist, rfl, few, accepted, found⟩

/-- Not every stream settles those who wait: their replies are not given up if a frame comes to a
fault. -/
theorem replies_left_waiting :
    ¬ ∀ (habits : Habits Unit Unit) (ops : List (Operation Unit)) (frames : List Frame),
      let c := operateAllNoted habits diarist (ops ++ [.run frames])
      ∀ command wait, .sent command wait ∈ tidings habits diarist ops →
        ∃ outcome, poll wait c = .ok (some outcome) c := by
  intro settled
  have told : (.leaveSession, ⟨⟨1, 0⟩, none, 0⟩) ∈
      (tidings idle diarist [.request .leaveSession]).filterMap Tiding.sent? := by decide +kernel
  obtain ⟨t, mem, sent⟩ := List.mem_filterMap.mp told
  obtain rfl := Tiding.eq_of_sent? sent
  obtain ⟨outcome, found⟩ := settled idle _ [Participant.overlongRefusal] _ _ mem
  have waiting : (poll ⟨⟨1, 0⟩, none, 0⟩ (operateAllNoted idle diarist
      ([.request .leaveSession] ++ [.run [Participant.overlongRefusal]])) matches
        .ok none _) = true := by decide +kernel
  rw [found] at waiting
  cases waiting

end Client

end Whiteboard
