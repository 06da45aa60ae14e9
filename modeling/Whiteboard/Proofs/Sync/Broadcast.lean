import Whiteboard.Proofs.Participant.Apply
import Whiteboard.Proofs.Sync.Logging
import Whiteboard.Proofs.Sync.Runs
import Whiteboard.Proofs.Sync.Subscribers

/-!
# The events of arriving frames reach the subscribers

While frames arrive, the event of every frame that is routed goes to the subscribers, with its
origin. It does not matter whether the participant could apply it, nor whether its reply was
awaited. Frames that cannot be read leave no trace but in the log, so that everything else is as if
they had not arrived.

There is one kind of frame for which this is not so clear-cut: a frame that claims to hold a string
longer than memory cannot be given up like others, and its routing comes to a fault.

The listeners here only look, and remember what they saw. They may fail; the event of the frame at
which they do so does not reach the subscribers.
-/

namespace Whiteboard

/-- The event of a message, with its origin. -/
def Inbound.routed? (message : Inbound) : Option Routed :=
  message.event?.map fun event => ⟨message.origin, event⟩

/-- The event of a frame, with its origin. -/
def Frame.routed? (frame : Frame) : Option Routed :=
  (Inbound.ofFrame frame).toOption.bind Inbound.routed?

theorem Frame.routed?_of_silent {frame : Frame} (silent : frame.event? = none) :
    frame.routed? = none := by
  unfold Frame.event? at silent
  unfold Frame.routed?
  cases hread : Inbound.ofFrame frame with
  | error e => rfl
  | ok message =>
    rw [hread] at silent
    exact congrArg (Option.map _) silent

theorem Frame.routed?_of_fault {frame : Frame} {fault : Fault} (h : frame.fault? = some fault) :
    frame.routed? = none := by
  unfold Frame.fault? at h
  unfold Frame.routed?
  cases hread : Inbound.ofFrame frame with
  | error e => rfl
  | ok message =>
    rw [hread] at h
    cases h

/-- The event that a subscriber receives. -/
def Received.event? : Received → Option Routed
  | .event e => some e
  | _ => none

namespace Operation

variable {L : Type}

/-- A frame arrives, or a subscriber receives what is next. -/
def isIntake : Operation L → Bool
  | .route _ | .receive _ => true
  | _ => false

/-- Whether an operation is something else than the arrival of an unreadable frame. -/
def isReadable : Operation L → Bool
  | .route frame => (Inbound.ofFrame frame).isOk
  | _ => true

/-- The event of the frame that arrives. -/
def routed? : Operation L → Option Routed
  | .route frame => frame.routed?
  | _ => none

/-- What a subscriber receives. -/
def receipt (f : Feed) (id : SubscriptionId) : Operation L → Option Received
  | .receive other => if other = id then some (f.receive id).2 else none
  | _ => none

end Operation

/-- Listeners that return. -/
def Habits.Return {L M : Type} (habits : Habits L M) : Prop :=
  ∀ listener notice c, ∃ own, habits listener notice c = .finish own

namespace Client

open Whiteboard.Action

variable {L M : Type} {habits : Habits L M} {c d : Observed L M} {op : Operation L}
  {ops : List (Operation L)} {id : SubscriptionId} {frame : Frame}

/-- The events of the frames whose routing comes to no fault, in order. -/
def broadcast (habits : Habits L M) : Observed L M → List (Operation L) → List Routed
  | _, [] => []
  | c, op :: rest =>
    (if Performs habits c op then op.routed? else none).toList ++
      broadcast habits (operateNoted habits c op) rest

/-- What a subscriber receives, in order. -/
def receipts (habits : Habits L M) (id : SubscriptionId) :
    Observed L M → List (Operation L) → List Received
  | _, [] => []
  | c, op :: rest =>
    (op.receipt c.feed id).toList ++ receipts habits id (operateNoted habits c op) rest

/-! ### What a frame sends -/

theorem performs_route :
    Performs habits c (.route frame) ↔
      ∃ outcome d, route habits.reaction frame c = .ok outcome d := by
  constructor
  · rintro ⟨answer, d, performed⟩
    cases routed : route habits.reaction frame c with
    | ok outcome e => exact ⟨outcome, e, rfl⟩
    | error fault e =>
      have broken : (Operation.route frame).performNoted habits.reaction c = .error fault e :=
        bind_of_error routed _
      exact nomatch broken.symm.trans performed
  · rintro ⟨outcome, d, routed⟩
    exact ⟨_, d, bind_of_ok routed _⟩

theorem reaction_feed (looking : habits.OnlyLook) (f : Feed) (listener : L) (notice : Notice) :
    Keeps (fun c => c.feed = f) (habits.reaction listener notice) := by
  intro c same
  obtain ⟨made, own, -, ended, -⟩ := tells_reaction looking listener notice c
  rw [ended]
  exact same

/-- An action ends with some events sent, or in a fault with none. -/
def Sends {α : Type} (events : List Routed) (x : Action Participant L (Diary L M) α)
    (c : Observed L M) : Prop :=
  (∃ a d, x c = .ok a d ∧ d.feed = events.foldl Feed.send c.feed) ∨
    ∃ fault d, x c = .error fault d ∧ d.feed = c.feed

theorem sends_nil {α : Type} {x : Action Participant L (Diary L M) α}
    (same : (x.after c).feed = c.feed) : Sends [] x c := by
  cases h : x c with
  | ok a d => exact .inl ⟨a, d, h, after_of_ok h ▸ same⟩
  | error fault d => exact .inr ⟨fault, d, h, after_of_error h ▸ same⟩

theorem Sends.bind {α β : Type} {events : List Routed}
    {x : Action Participant L (Diary L M) α} {f : α → Action Participant L (Diary L M) β}
    (hx : Sends [] x c) (hf : ∀ a d, Sends events (f a) d) : Sends events (x >>= f) c := by
  rcases hx with ⟨a, d, h, same⟩ | ⟨fault, d, h, same⟩
  · have second := hf a d
    have feed : d.feed = c.feed := same
    unfold Sends at second ⊢
    rw [bind_of_ok h, ← feed]
    exact second
  · exact .inr ⟨fault, d, bind_of_error h f, same⟩

theorem announce_sends (looking : habits.OnlyLook) (message : Inbound) (event : SystemEvent)
    (c : Observed L M) :
    Sends [⟨message.origin, event⟩] (announce habits.reaction message event) c := by
  have objects : ∀ c, Sends [] (publishObjects habits.reaction) c := fun c =>
    sends_nil (publishObjects_keeps_feed (P := (· = c.feed)) (reaction_feed looking c.feed) c rfl)
  have roster : ∀ c, Sends [] (publishRoster habits.reaction) c := fun c =>
    sends_nil (publishRoster_keeps_feed (P := (· = c.feed)) (reaction_feed looking c.feed) c rfl)
  refine (objects c).bind fun calls c₁ => (roster c₁).bind fun change c₂ => ?_
  obtain ⟨outcome, notes, replies, -, ended⟩ := conclude_sends message event c₂
  exact .inl ⟨outcome, _, ended, rfl⟩

/-- Routing a frame sends its event, if it has one, unless it ends in a fault. -/
theorem route_sends (looking : habits.OnlyLook) (frame : Frame) (c : Observed L M) :
    Sends frame.routed?.toList (route habits.reaction frame) c := by
  rcases event?_cases frame with silent | ⟨message, event, hread, found⟩
  · rw [Frame.routed?_of_silent silent]
    refine sends_nil ?_
    obtain ⟨notes, replies, -, ended⟩ := route_of_silent (c := c) habits.reaction silent
    rw [ended]
  · have carried : frame.routed? = some ⟨message.origin, event⟩ := by
      simp [Frame.routed?, hread, Except.toOption, Inbound.routed?, found]
    have sends := announce_sends looking message event
      { c with
        core := (c.core.applyEvent event).1
        log := c.log ++ eventNotes c.core frame event }
    unfold Sends at sends ⊢
    rw [carried, route_of_message habits.reaction hread found]
    exact sends

theorem feed_route (looking : habits.OnlyLook) (frame : Frame) (c : Observed L M) :
    (operateNoted habits c (.route frame)).feed =
      (if Performs habits c (.route frame) then frame.routed? else none).toList.foldl
        Feed.send c.feed := by
  rw [operateNoted_route]
  rcases route_sends looking frame c with ⟨outcome, d, ended, sent⟩ | ⟨fault, d, ended, same⟩
  · rw [after_of_ok ended, if_pos (performs_route.mpr ⟨outcome, d, ended⟩)]
    exact sent
  · have broken : ¬Performs habits c (.route frame) := by
      intro performs
      obtain ⟨outcome, e, returned⟩ := performs_route.mp performs
      exact nomatch ended.symm.trans returned
    rw [after_of_error ended, if_neg broken]
    exact same

/-! ### What is due to a subscriber -/

/-- What was due before an operation, and what is sent meanwhile, is received or due after it. -/
theorem owes_operateNoted (looking : habits.OnlyLook) (intake : op.isIntake) {due : List Routed}
    (owed : c.feed.Owes id due) (present : ∀ n, op.receipt c.feed id ≠ some (.missed n)) :
    ∃ left,
      due ++ (if Performs habits c op then op.routed? else none).toList =
        (op.receipt c.feed id).toList.filterMap Received.event? ++ left ∧
      (operateNoted habits c op).feed.Owes id left := by
  cases op with
  | route frame =>
    refine ⟨_, rfl, ?_⟩
    rw [feed_route looking]
    exact owed.foldl_send _
  | receive other =>
    have silent : (if Performs habits c (.receive other) then
        (Operation.receive other : Operation L).routed? else none) = none := ite_self none
    have feed : (operateNoted habits c (.receive other)).feed = (c.feed.receive other).1 := rfl
    rw [silent, feed]
    by_cases same : other = id
    · subst same
      have told : (Operation.receive other : Operation L).receipt c.feed other =
          some (c.feed.receive other).2 := if_pos rfl
      rw [told] at present ⊢
      -- the subscriber is not slow, so that it finds nothing or receives what is due first
      rcases owed.receive_cases with ⟨n, slow⟩ | ⟨rfl, nothing⟩ | ⟨e, rest, f, rfl, next, owed⟩
      · exact absurd (congrArg some slow) (present n)
      · rw [nothing]
        exact ⟨[], rfl, owed⟩
      · rw [next]
        exact ⟨rest, by simp [Received.event?], owed⟩
    · have told : (Operation.receive other : Operation L).receipt c.feed id = none := if_neg same
      rw [told]
      exact ⟨due, by simp, owed.receive_other same⟩
  | _ => cases intake

theorem owes_operateAllNoted (looking : habits.OnlyLook) (intake : ∀ op ∈ ops, op.isIntake)
    {due : List Routed} (owed : c.feed.Owes id due)
    (present : ∀ n, .missed n ∉ receipts habits id c ops) :
    ∃ left,
      due ++ broadcast habits c ops =
        (receipts habits id c ops).filterMap Received.event? ++ left ∧
      (operateAllNoted habits c ops).feed.Owes id left := by
  induction ops generalizing c due with
  | nil => exact ⟨due, by simp [broadcast, receipts], owed⟩
  | cons op rest ih =>
    rw [receipts] at present
    have first : ∀ n, op.receipt c.feed id ≠ some (.missed n) := by
      intro n told
      exact present n (List.mem_append_left _ (Option.mem_toList.mpr told))
    obtain ⟨mid, here, owed⟩ := owes_operateNoted looking (intake op List.mem_cons_self) owed first
    obtain ⟨left, later, owed⟩ := ih (fun op mem => intake op (List.mem_cons_of_mem _ mem)) owed
      fun n mem => present n (List.mem_append_right _ mem)
    refine ⟨left, ?_, owed⟩
    rw [broadcast, receipts, List.filterMap_append, List.append_assoc, ← later,
      ← List.append_assoc, here, List.append_assoc]

/-! ### Listeners that return -/

theorem comeBack_of_return (returns : habits.Return) : habits.ComeBack := by
  intro listener notice c
  let d : Observed L M :=
    { c with memory := c.memory.noteCall ⟨listener, notice, c.core.view, c.core.roster⟩ }
  obtain ⟨own, conduct⟩ := returns listener notice d
  have ended : habits.reaction listener notice c = (habits listener notice d).act d := rfl
  rw [ended, conduct]
  exact ⟨_, _, rfl⟩

theorem sent_of_return (returns : habits.Return) (c : Observed L M) (op : Operation L) :
    (if Performs habits c op then op.routed? else none) = op.routed? := by
  cases op with
  | route frame =>
    cases sound : frame.fault? with
    | none =>
      obtain ⟨outcome, d, routed⟩ := route_returns (comeBack_of_return returns) sound c
      exact if_pos (performs_route.mpr ⟨outcome, d, routed⟩)
    | some fault =>
      -- a frame at which routing comes to a fault of its own has no event
      have nothing : (Operation.route frame : Operation L).routed? = none :=
        Frame.routed?_of_fault sound
      rw [nothing, ite_self]
  | _ => exact ite_self none

/-- If the listeners return, the event of every frame is sent. -/
theorem broadcast_of_return (returns : habits.Return) (c : Observed L M)
    (ops : List (Operation L)) : broadcast habits c ops = ops.filterMap Operation.routed? := by
  induction ops generalizing c with
  | nil => rfl
  | cons op rest ih =>
    rw [broadcast, sent_of_return returns, ih]
    cases routed : op.routed? with
    | none => rw [List.filterMap_cons_none routed]; rfl
    | some e => rw [List.filterMap_cons_some routed]; rfl

/-! ### Unreadable frames -/

theorem isReadable_route (unreadable : (Operation.route frame : Operation L).isReadable = false) :
    ∃ e, Inbound.ofFrame frame = .error e := by
  cases hread : Inbound.ofFrame frame with
  | error e => exact ⟨e, rfl⟩
  | ok message =>
    rw [Operation.isReadable, hread] at unreadable
    cases unreadable

/-- An unreadable frame leaves no trace but in the log. -/
theorem operateNoted_unreadable (habits : Habits L M) (unreadable : op.isReadable = false)
    (c : Observed L M) :
    (operateNoted habits c op).unlogged = c.unlogged ∧ op.routed? = none ∧
      ∀ f id, op.receipt f id = none := by
  cases op with
  | route frame =>
    obtain ⟨e, hread⟩ := isReadable_route unreadable
    refine ⟨?_, ?_, fun _ _ => rfl⟩
    · rw [operateNoted_route]
      cases hfault : frame.fault? with
      | none => rw [after_of_ok (route_eq_dropped hread hfault c)]; rfl
      | some fault => rw [after_of_error (route_of_fault hfault c)]
    · rw [Operation.routed?, Frame.routed?, hread]
      rfl
  | _ => cases unreadable

theorem performNoted_ignoresLog (looking : habits.OnlyLook) (unread : habits.IgnoreLog)
    (intake : op.isIntake) : IgnoresLog (op.performNoted habits.reaction) := by
  have noted : IgnoresLog (modify fun c => { c with memory := c.memory.note c.core op } :
      Action Participant L (Diary L M) Unit) := .modifyGet fun _ => rfl
  refine noted.bind fun _ => ?_
  cases op with
  | route frame =>
    exact (route_ignoresLog (reaction_ignoresLog looking unread) frame).bind fun outcome =>
      .pure (Answer.routed outcome)
  | receive other => exact (onFeed_ignoresLog _).bind fun _ => .pure Answer.done
  | _ => cases intake

/-- A run goes as if the unreadable frames had not arrived. -/
theorem filter_isReadable (looking : habits.OnlyLook) (unread : habits.IgnoreLog)
    (intake : ∀ op ∈ ops, op.isIntake) (same : c.unlogged = d.unlogged) :
    (operateAllNoted habits d (ops.filter (·.isReadable))).unlogged =
        (operateAllNoted habits c ops).unlogged ∧
      broadcast habits d (ops.filter (·.isReadable)) = broadcast habits c ops ∧
      ∀ id, receipts habits id d (ops.filter (·.isReadable)) = receipts habits id c ops := by
  induction ops generalizing c d with
  | nil => exact ⟨same.symm, rfl, fun _ => rfl⟩
  | cons op rest ih =>
    have others : ∀ op ∈ rest, op.isIntake := fun op mem => intake op (List.mem_cons_of_mem _ mem)
    cases readable : op.isReadable with
    | false =>
      obtain ⟨unchanged, silent, nothing⟩ := operateNoted_unreadable habits readable c
      have skip := ih others (unchanged.trans same)
      rw [List.filter_cons_of_neg (by simp [readable])]
      refine ⟨skip.1, ?_, fun id => ?_⟩
      · rw [skip.2.1, broadcast, silent, ite_self]
        rfl
      · rw [skip.2.2 id, receipts, nothing]
        rfl
    | true =>
      have ignores := performNoted_ignoresLog looking unread (intake op List.mem_cons_self)
      have performs : Performs habits d op ↔ Performs habits c op := by
        rw [Performs, Performs, ok_iff_apparent, ok_iff_apparent, ignores same]
      have next : (operateNoted habits c op).unlogged = (operateNoted habits d op).unlogged := by
        rw [operateNoted, operateNoted, unlogged_after, unlogged_after, ignores same]
      have feed : c.feed = d.feed := by
        show c.unlogged.feed = d.unlogged.feed
        rw [same]
      have go := ih others next
      rw [List.filter_cons_of_pos readable]
      refine ⟨go.1, ?_, fun id => ?_⟩
      · rw [broadcast, broadcast, go.2.1]
        simp only [performs]
      · rw [receipts, receipts, go.2.2 id, feed]

/-! ### A stream of frames -/

/-- Routing a stream of frames, while subscribers receive.

A frame that cannot be read is dropped, which only the log tells, unless its reading comes to a
fault, and then nothing changes. Without such frames, the client ends up the same but for its log,
and the same is broadcast and received. A subscriber who is never told that events are gone
receives, in order, what was due to it and then the events that are broadcast, and has received all
of them when it finds nothing new. What is broadcast are the events of the frames whose routing
comes to no fault; if the listeners return, those of all frames that can be read. -/
theorem stream_reaches_subscribers (looking : habits.OnlyLook) (unread : habits.IgnoreLog)
    (c : Observed L M) (intake : ∀ op ∈ ops, op.isIntake) :
    (∀ frame e d, Inbound.ofFrame frame = .error e →
      match frame.fault? with
      | none => ∃ log, route habits.reaction frame d = .ok .dropped { d with log }
      | some fault => route habits.reaction frame d = .error fault d) ∧
    ((operateAllNoted habits c (ops.filter (·.isReadable))).unlogged =
        (operateAllNoted habits c ops).unlogged ∧
      broadcast habits c (ops.filter (·.isReadable)) = broadcast habits c ops ∧
      ∀ id, receipts habits id c (ops.filter (·.isReadable)) = receipts habits id c ops) ∧
    (∀ id due, c.feed.Owes id due → (∀ n, .missed n ∉ receipts habits id c ops) →
      let heard := (receipts habits id c ops).filterMap Received.event?
      heard <+: due ++ broadcast habits c ops ∧
      (((operateAllNoted habits c ops).feed.receive id).2 = .empty →
        heard = due ++ broadcast habits c ops)) ∧
    (habits.Return → broadcast habits c ops = ops.filterMap Operation.routed?) := by
  refine ⟨?_, filter_isReadable looking unread intake rfl, ?_, fun returns => ?_⟩
  · intro frame e d hread
    cases hfault : frame.fault? with
    | none => exact ⟨_, route_eq_dropped hread hfault d⟩
    | some fault => exact route_of_fault hfault d
  · intro id due owed present heard
    obtain ⟨left, total, later⟩ := owes_operateAllNoted looking intake owed present
    refine ⟨⟨left, total.symm⟩, fun nothing => ?_⟩
    rcases later.receive_cases with ⟨n, slow⟩ | ⟨rfl, -⟩ | ⟨e, rest, f, -, next, -⟩
    · exact nomatch nothing.symm.trans slow
    · rw [total, List.append_nil]
    · rw [next] at nothing
      cases nothing
  · exact broadcast_of_return returns c ops

theorem idle_ignoreLog : idle.IgnoreLog := fun _ _ _ => rfl

/-- A client with one subscriber. -/
def overheard : Observed Unit Unit := operateNoted idle diarist .subscribe

/-- A reply to nobody, an unreadable frame, an event that cannot be applied, and a subscriber who
receives in between and afterwards. -/
def noisy : List (Operation Unit) :=
  [.route (Inbound.reply 4 (.event (.connected 3))).toFrame, .receive 0, .route [9],
    .route (Inbound.notice (.session (.someoneJoined 8))).toFrame, .receive 0]

theorem stream_reaches_subscribers_noisy :
    idle.OnlyLook ∧ idle.IgnoreLog ∧ (∀ op ∈ noisy, op.isIntake) ∧
      overheard.feed.Owes 0 [] ∧ (∀ n, .missed n ∉ receipts idle 0 overheard noisy) ∧
      (receipts idle 0 overheard noisy).filterMap Received.event? =
        [⟨.myself 4, .connected 3⟩, ⟨.system, .session (.someoneJoined 8)⟩] := by
  have intake : ∀ op ∈ noisy, op.isIntake := by decide
  have owed : overheard.feed.Owes 0 [] := owes_subscribe create_diarist idle []
  have received : receipts idle 0 overheard noisy =
      [.event ⟨.myself 4, .connected 3⟩, .event ⟨.system, .session (.someoneJoined 8)⟩] := by
    decide +kernel
  have present : ∀ n, .missed n ∉ receipts idle 0 overheard noisy := by simp [received]
  have nothing : ((operateAllNoted idle overheard noisy).feed.receive 0).2 = .empty := by
    decide +kernel
  obtain ⟨-, -, heard, sent⟩ :=
    stream_reaches_subscribers onlyLook_idle idle_ignoreLog overheard intake
  refine ⟨onlyLook_idle, idle_ignoreLog, intake, owed, present, ?_⟩
  rw [(heard 0 [] owed present).2 nothing, sent fun _ _ _ => ⟨(), rfl⟩]
  decide +kernel

/-- Not every unreadable frame is dropped. -/
theorem unreadable_not_dropped :
    ¬ ∀ frame e, Inbound.ofFrame frame = .error e → ∀ c : Observed Unit Unit,
      ∃ d, route idle.reaction frame c = .ok .dropped d := by
  intro dropped
  have hread : Inbound.ofFrame Participant.overlongRefusal = .error (.decode .overlong) := rfl
  obtain ⟨d, routed⟩ := dropped _ _ hread diarist
  have broken : route idle.reaction Participant.overlongRefusal diarist = .error .overflow diarist :=
    route_of_fault rfl diarist
  exact nomatch broken.symm.trans routed

end Client

end Whiteboard
