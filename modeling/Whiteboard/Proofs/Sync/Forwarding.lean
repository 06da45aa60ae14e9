import Whiteboard.Proofs.Participant.Queue
import Whiteboard.Proofs.Sync.Operation

/-!
# Forwarding the queue

The frames in a participant's queue are offered to the link from the front, until the queue is empty
or the link refuses one. That one goes back to where it came from, and what is behind it has not
been touched. So the link gets the queue in pieces, perhaps over many attempts, but it gets it in
order, each frame once.
-/

namespace Whiteboard

namespace Link

/-- Why an attempt to send is refused, if it is. Any answers that a link can give one after the
other are the refusals of some link. -/
def refusal? (l : Link) (attempt : Nat) : Option LinkError :=
  (l.refuses attempt).or (if l.isOpen then none else some .closed)

/-- The link after it accepted some frames, one after the other. -/
def taking (l : Link) (frames : List Frame) : Link :=
  { l with accepted := l.accepted ++ frames, attempts := l.attempts + frames.length }

variable {l : Link}

theorem send_of_accepting (frame : Frame) (accepts : l.refusal? l.attempts = none) :
    l.send frame = (l.taking [frame], .ok ()) := by
  obtain ⟨ready, there⟩ := Option.or_eq_none_iff.mp accepts
  by_cases opened : l.isOpen
  · rw [send, ready, if_pos opened]
    rfl
  · rw [if_neg opened] at there
    cases there

theorem send_of_refusing (frame : Frame) {e : LinkError}
    (refuses : l.refusal? l.attempts = some e) :
    l.send frame = ({ l with attempts := l.attempts + 1 }, .error e) := by
  rw [refusal?] at refuses
  rw [send]
  cases ready : l.refuses l.attempts with
  | some e' =>
    rw [ready] at refuses
    obtain rfl := Option.some.inj refuses
    rfl
  | none =>
    rw [ready, Option.none_or] at refuses
    by_cases opened : l.isOpen
    · rw [if_pos opened] at refuses
      cases refuses
    · rw [if_neg opened] at refuses ⊢
      obtain rfl := Option.some.inj refuses
      rfl

@[simp] theorem refusal?_taking (frames : List Frame) (attempt : Nat) :
    (l.taking frames).refusal? attempt = l.refusal? attempt := rfl

@[simp] theorem attempts_taking (frames : List Frame) :
    (l.taking frames).attempts = l.attempts + frames.length := rfl

theorem taking_taking (frames more : List Frame) :
    (l.taking frames).taking more = l.taking (frames ++ more) := by
  simp [taking, Nat.add_assoc]

/-- Of some attempts either all succeed or there is a first one that is refused. -/
theorem first_refusal (l : Link) (start n : Nat) :
    (∀ i < n, l.refusal? (start + i) = none) ∨
      ∃ j e, j < n ∧ (∀ i < j, l.refusal? (start + i) = none) ∧
        l.refusal? (start + j) = some e := by
  induction n with
  | zero => exact .inl fun i less => absurd less (Nat.not_lt_zero i)
  | succ n ih =>
    rcases ih with accepts | ⟨j, e, less, before, refused⟩
    · cases last : l.refusal? (start + n) with
      | some e => exact .inr ⟨n, e, by omega, accepts, last⟩
      | none =>
        refine .inl fun i less => ?_
        by_cases same : i = n
        · rw [same, last]
        · exact accepts i (by omega)
    · exact .inr ⟨j, e, by omega, before, refused⟩

end Link

namespace Client

open Whiteboard.Action

variable {L M : Type} {c : Client Participant L M} {frame : Frame} {rest : List Frame}

/-- The client after the link accepted some frames from the queue, with the given ones left. -/
def forwarded (c : Client Participant L M) (frames rest : List Frame) : Client Participant L M :=
  { c with core := { c.core with outbound := rest }, link := c.link.taking frames }

theorem forwarded_nil (queue : c.core.outbound = rest) : c.forwarded [] rest = c := by
  subst queue
  simp [forwarded, Link.taking]

theorem forwarded_forwarded (frames more between : List Frame) :
    (c.forwarded frames between).forwarded more rest = c.forwarded (frames ++ more) rest := by
  simp [forwarded, Link.taking_taking]

/-! ### One attempt -/

/-- What the link accepts leaves the queue from the front. -/
theorem drainFrom_append (first rest : List Frame) (limit sent : Nat)
    (queue : c.core.outbound = first ++ rest)
    (accepts : ∀ i < first.length, c.link.refusal? (c.link.attempts + i) = none) :
    drainFrom (first.length + limit) sent c =
      drainFrom limit (sent + first.length) (c.forwarded first rest) := by
  induction first generalizing c sent with
  | nil =>
    have nothing : c.forwarded [] rest = c := forwarded_nil queue
    rw [nothing]
    simp
  | cons frame first ih =>
    have now := accepts 0 (by simp)
    have later := ih (c := c.forwarded [frame] (first ++ rest)) (sent + 1) rfl (by
      intro i less
      have := accepts (i + 1) (by simpa using less)
      simpa [forwarded, Nat.add_assoc, Nat.add_comm 1] using this)
    have passes : (frame :: first).length + limit = first.length + limit + 1 := by
      simp only [List.length_cons]
      omega
    rw [passes, drainFrom_cons _ _ queue, Link.send_of_accepting frame now]
    refine later.trans ?_
    rw [forwarded_forwarded, List.length_cons]
    congr 1
    omega

/-- A frame that the link refuses goes back to the front of the queue. -/
theorem drainFrom_refused (limit sent : Nat) {e : LinkError}
    (queue : c.core.outbound = frame :: rest)
    (refuses : c.link.refusal? c.link.attempts = some e) :
    drainFrom (limit + 1) sent c = .ok (.error (.link e))
      { c with
        link := { c.link with attempts := c.link.attempts + 1 }
        log := c.log ++ [.sendFailed sent e] } := by
  have restored : ({ c.core with outbound := rest } : Participant).requeue frame = c.core := by
    rw [Participant.requeue, ← queue]
  have back : onCore (L := L) (M := M) (fun core : Participant => (Core.requeue core frame, ()))
      { c with
        core := { c.core with outbound := rest }
        link := { c.link with attempts := c.link.attempts + 1 } } =
        .ok () { c with link := { c.link with attempts := c.link.attempts + 1 } } := by
    rw [← restored]
    rfl
  rw [drainFrom_cons _ _ queue, Link.send_of_refusing frame refuses]
  exact bind_of_ok back _

/-- An attempt that the link refuses ends there. Any bound on the frames will do that lets it get
that far. -/
theorem drainFrom_of_refusing {limit j : Nat} {e : LinkError} (inside : j < c.core.outbound.length)
    (enough : j < limit) (accepts : ∀ i < j, c.link.refusal? (c.link.attempts + i) = none)
    (refuses : c.link.refusal? (c.link.attempts + j) = some e) :
    drainFrom limit 0 c = .ok (.error (.link e))
      { c with
        core := { c.core with outbound := c.core.outbound.drop j }
        link :=
          { c.link with
            accepted := c.link.accepted ++ c.core.outbound.take j
            attempts := c.link.attempts + j + 1 }
        log := c.log ++ [.sendFailed j e] } := by
  have taken : (c.core.outbound.take j).length = j := by
    rw [List.length_take]
    omega
  have behind : (c.forwarded (c.core.outbound.take j) (c.core.outbound.drop j)).core.outbound =
      c.core.outbound[j] :: c.core.outbound.drop (j + 1) := List.drop_eq_getElem_cons inside
  have passed := drainFrom_append (c.core.outbound.take j) (c.core.outbound.drop j)
    (limit - (j + 1) + 1) 0
    (List.take_append_drop j c.core.outbound).symm (by rwa [taken])
  have stops := drainFrom_refused (limit - (j + 1)) (0 + j) behind (by
    simpa [forwarded, taken] using refuses)
  have bound : limit = j + (limit - (j + 1) + 1) := by omega
  rw [taken, ← bound] at passed
  rw [passed, stops, Nat.zero_add]
  simp [forwarded, Link.taking, taken]

/-- An attempt in which the link refuses nothing empties the queue. -/
theorem drainFrom_of_accepting {limit : Nat} (enough : c.core.outbound.length ≤ limit)
    (accepts : ∀ i < c.core.outbound.length, c.link.refusal? (c.link.attempts + i) = none) :
    drainFrom limit 0 c =
      .ok (.ok c.core.outbound.length) (c.forwarded c.core.outbound []) := by
  have passed := drainFrom_append c.core.outbound [] (limit - c.core.outbound.length) 0
    (List.append_nil _).symm accepts
  rw [Nat.add_sub_cancel' enough] at passed
  rw [passed, drainFrom_nil _ _ rfl, Nat.zero_add]

theorem drain_of_refusing {j : Nat} {e : LinkError} (inside : j < c.core.outbound.length)
    (accepts : ∀ i < j, c.link.refusal? (c.link.attempts + i) = none)
    (refuses : c.link.refusal? (c.link.attempts + j) = some e) :
    drain c = .ok (.error (.link e))
      { c with
        core := { c.core with outbound := c.core.outbound.drop j }
        link :=
          { c.link with
            accepted := c.link.accepted ++ c.core.outbound.take j
            attempts := c.link.attempts + j + 1 }
        log := c.log ++ [.sendFailed j e] } := by
  have enough : j < Core.queued c.core := inside
  have stops := drainFrom_of_refusing inside enough accepts refuses
  rw [drain, get_bind, bind_of_ok stops]
  rfl

theorem drain_of_accepting
    (accepts : ∀ i < c.core.outbound.length, c.link.refusal? (c.link.attempts + i) = none) :
    drain c = .ok (.ok c.core.outbound.length)
      { c.forwarded c.core.outbound [] with
        log := c.log ++
          if 0 < c.core.outbound.length then [.drained c.core.outbound.length] else [] } := by
  have enough : c.core.outbound.length ≤ Core.queued c.core := Nat.le_refl _
  have ends := drainFrom_of_accepting enough accepts
  rw [drain, get_bind, bind_of_ok ends]
  dsimp only
  by_cases something : 0 < c.core.outbound.length
  · rw [if_pos something, if_pos something]
    rfl
  · rw [if_neg something, if_neg something, List.append_nil]
    rfl

/-- The bound on the number of frames never cuts an attempt short. -/
theorem drainFrom_of_le {limit : Nat} (enough : c.core.outbound.length ≤ limit) :
    drainFrom limit 0 c = drainFrom c.core.outbound.length 0 c := by
  rcases c.link.first_refusal c.link.attempts c.core.outbound.length with
    accepts | ⟨j, e, inside, before, refused⟩
  · rw [drainFrom_of_accepting enough accepts, drainFrom_of_accepting (Nat.le_refl _) accepts]
  · rw [drainFrom_of_refusing inside (by omega) before refused,
      drainFrom_of_refusing inside inside before refused]

/-- What was queued has been accepted in order, or is still there in order. -/
theorem drain_conserving (c : Client Participant L M) :
    ∃ result c', drain c = .ok result c' ∧
      ∃ sent, c'.link.accepted = c.link.accepted ++ sent ∧
        sent ++ c'.core.outbound = c.core.outbound := by
  rcases c.link.first_refusal c.link.attempts c.core.outbound.length with
    accepts | ⟨j, e, inside, before, refused⟩
  · exact ⟨_, _, drain_of_accepting accepts, c.core.outbound, rfl, List.append_nil _⟩
  · exact ⟨_, _, drain_of_refusing inside before refused, c.core.outbound.take j, rfl,
      List.take_append_drop j _⟩

end Client

/-! ### Several attempts -/

/-- What can happen while frames are on their way. -/
inductive Errand
  /-- An edit is made. -/
  | push (edit : Edit)
  /-- A frame arrives. -/
  | apply (frame : Frame)
  /-- The link behaves differently from now on. -/
  | relink (refuses : Nat → Option LinkError) (isOpen : Bool)
  /-- All that is queued is sent, as far as the link accepts it. -/
  | drain

namespace Errand

/-- Runs an errand. -/
def perform {L M : Type} : Errand → Action Participant L M Unit
  | .push edit => discard (Client.pushCore edit)
  | .apply frame => discard (Client.applyFrame frame)
  | .relink refuses isOpen =>
    Client.onLink fun l => ({ l.setRefusals refuses with isOpen }, ())
  | .drain => discard Client.drain

/-- The frames that an errand adds to the queue. -/
def queued (p : Participant) : Errand → List Frame
  | .push edit => Participant.Step.queued (.push edit) p
  | .apply _ | .relink _ _ | .drain => []

end Errand

namespace Client

open Whiteboard.Action

variable {L M : Type}

/-- The client after some errands. -/
def errands (c : Client Participant L M) (todo : List Errand) : Client Participant L M :=
  todo.foldl (fun c errand => errand.perform.after c) c

/-- The frames that some errands add to the queue. -/
def queuedBy : Client Participant L M → List Errand → List Frame
  | _, [] => []
  | c, errand :: rest => errand.queued c.core ++ queuedBy (errand.perform.after c) rest

theorem sent_append_outbound_step (c : Client Participant L M) (errand : Errand) :
    ∃ sent, (errand.perform.after c).link.accepted = c.link.accepted ++ sent ∧
      sent ++ (errand.perform.after c).core.outbound =
        c.core.outbound ++ errand.queued c.core := by
  cases errand with
  | push edit => exact ⟨[], (List.append_nil _).symm, c.core.outbound_push edit⟩
  | apply frame =>
    refine ⟨[], (List.append_nil _).symm, ?_⟩
    exact (c.core.outbound_apply frame).trans (List.append_nil _).symm
  | relink refuses isOpen => exact ⟨[], (List.append_nil _).symm, (List.append_nil _).symm⟩
  | drain =>
    obtain ⟨result, c', drained, sent, accepted, kept⟩ := drain_conserving c
    have ends : (Errand.perform (L := L) (M := M) .drain).after c = c' :=
      after_of_ok (bind_of_ok drained _)
    rw [ends]
    exact ⟨sent, accepted, kept.trans (List.append_nil _).symm⟩

theorem sent_append_outbound (todo : List Errand) (c : Client Participant L M) :
    ∃ sent, (c.errands todo).link.accepted = c.link.accepted ++ sent ∧
      sent ++ (c.errands todo).core.outbound = c.core.outbound ++ c.queuedBy todo := by
  induction todo generalizing c with
  | nil => exact ⟨[], (List.append_nil _).symm, (List.append_nil _).symm⟩
  | cons errand rest ih =>
    obtain ⟨now, accepted, kept⟩ := c.sent_append_outbound_step errand
    obtain ⟨later, acceptedLater, keptLater⟩ := ih (errand.perform.after c)
    refine ⟨now ++ later, ?_, ?_⟩
    · rw [← List.append_assoc, ← accepted]
      exact acceptedLater
    · rw [queuedBy, ← List.append_assoc, ← kept, List.append_assoc, List.append_assoc]
      exact congrArg (now ++ ·) keptLater

/-- No frame of the queue gets lost, doubled or overtaken, whatever the link does. An attempt to
send the queue ends, and no bound on its length cuts it short. If the first frame that the link
refuses is the one at position `j`, it fails with the reason of the link, the frames before that one
were accepted in order, and the queue is what is left from there on. If the link refuses none, it
succeeds, all were accepted in order, and the queue is empty. So through any edits and attempts to
send, with frames coming in and the link changing in between, what the link accepted and what is
still queued are in this order what was queued in the beginning and what the edits added. -/
theorem drain_conserves (c : Client Participant L M) :
    let queue := c.core.outbound
    (∀ j e, j < queue.length → (∀ i < j, c.link.refusal? (c.link.attempts + i) = none) →
      c.link.refusal? (c.link.attempts + j) = some e →
      drain c = .ok (.error (.link e))
        { c with
          core := { c.core with outbound := queue.drop j }
          link :=
            { c.link with
              accepted := c.link.accepted ++ queue.take j
              attempts := c.link.attempts + j + 1 }
          log := c.log ++ [.sendFailed j e] }) ∧
    ((∀ i < queue.length, c.link.refusal? (c.link.attempts + i) = none) →
      drain c = .ok (.ok queue.length)
        { c with
          core := { c.core with outbound := [] }
          link :=
            { c.link with
              accepted := c.link.accepted ++ queue
              attempts := c.link.attempts + queue.length }
          log := c.log ++ if 0 < queue.length then [.drained queue.length] else [] }) ∧
    (∀ limit, queue.length ≤ limit → drainFrom limit 0 c = drainFrom queue.length 0 c) ∧
    (∃ result c', drain c = .ok result c' ∧
      ∃ sent, c'.link.accepted = c.link.accepted ++ sent ∧ sent ++ c'.core.outbound = queue) ∧
    ∀ todo, ∃ sent, (c.errands todo).link.accepted = c.link.accepted ++ sent ∧
      sent ++ (c.errands todo).core.outbound = queue ++ c.queuedBy todo := by
  refine ⟨?_, ?_, ?_, drain_conserving c, fun todo => sent_append_outbound todo c⟩
  · intro j e inside before refused
    exact drain_of_refusing inside before refused
  · intro accepts
    exact drain_of_accepting accepts
  · intro limit enough
    exact drainFrom_of_le enough

/-- A session is entered and the title is changed three times, with a link that refuses the second
frame that it is offered. -/
def faltering : Client Participant Unit Unit :=
  { newcomer with
    core := newcomer.core.run
      [.apply (Inbound.notice (.joinedSession 7 ⟨[3]⟩ .empty)).toFrame, .push (.retitle "a"),
        .push (.retitle "b"), .push (.retitle "c")]
    link := { Link.create with refuses := fun n => if n = 1 then some .closed else none } }

/-- Only the first frame is sent. After another edit and one more attempt all four are. -/
theorem drain_conserves_faltering :
    let queue := faltering.core.outbound
    queue.length = 3 ∧
      (∃ c', drain faltering = .ok (.error (.link .closed)) c' ∧
        c'.link.accepted = queue.take 1 ∧ c'.core.outbound = queue.drop 1) ∧
      let c := faltering.errands [.drain, .push (.retitle "d"), .drain]
      c.core.outbound = [] ∧ c.link.accepted.length = 4 ∧ c.link.accepted.take 3 = queue := by
  intro queue
  have three : queue.length = 3 := by decide +kernel
  obtain ⟨stops, -, -, -, runs⟩ := faltering.drain_conserves
  have first := stops 1 .closed (by rw [three]; decide) (by decide) rfl
  refine ⟨three, ⟨_, first, List.nil_append _, rfl⟩, ?_⟩
  intro c
  have empty : c.core.outbound = [] := by decide +kernel
  have four : c.link.accepted.length = 4 := by decide +kernel
  have served := runs [.drain, .push (.retitle "d"), .drain]
  -- of the client after the errands only these facts matter from here on
  generalize hc : faltering.errands [.drain, .push (.retitle "d"), .drain] = c' at served
  have same : c = c' := hc
  rw [same] at empty four ⊢
  have before : faltering.link.accepted = [] := rfl
  obtain ⟨sent, accepted, kept⟩ := served
  rw [empty, List.append_nil] at kept
  rw [before, List.nil_append, kept] at accepted
  refine ⟨empty, four, ?_⟩
  rw [accepted, ← three, List.take_left]

end Client

end Whiteboard
