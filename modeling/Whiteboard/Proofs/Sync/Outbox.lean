import Whiteboard.Proofs.Message.RoundTrip
import Whiteboard.Proofs.Sync.Conduct

/-!
# Edits on their way to the relay

An edit that is made inside a session stays pending until the relay answers, so its frame must not
get lost on the way, nor be sent twice. The frame is queued first and offered to the link at the
end of every edit; what the link refuses goes back to the front of the queue. Whatever the link
does, the announcements that it accepted and those that are still queued are therefore, in this
order, the announcements of all edits so far.
-/

namespace Whiteboard

/-- The transaction that a request announces. -/
def Request.transaction? (r : Request) : Option Transaction :=
  match r.command with
  | .session (.transaction tx) => some tx
  | _ => none

namespace Frame

/-- The request in a frame, if it announces a transaction. -/
def announcement? (frame : Frame) : Option Request :=
  (Request.ofFrame frame).toOption.filter (·.transaction?.isSome)

/-- The transaction that a frame announces. -/
def transaction? (frame : Frame) : Option Transaction :=
  frame.announcement?.bind Request.transaction?

end Frame

theorem Request.announcement?_toFrame {r : Request} (h : Frame.Storable r) :
    r.toFrame.announcement? = if r.transaction?.isSome then some r else none := by
  rw [Frame.announcement?, Request.ofFrame_toFrame h]
  rfl

theorem Request.filterMap_announcement?_toFrame {rs : List Request}
    (h : ∀ r ∈ rs, Frame.Storable r) :
    (rs.map Request.toFrame).filterMap Frame.announcement? =
      rs.filter (·.transaction?.isSome) := by
  induction rs with
  | nil => rfl
  | cons r rest ih =>
    have here := announcement?_toFrame (h r List.mem_cons_self)
    have later := ih fun q hq => h q (List.mem_cons_of_mem _ hq)
    rw [List.map_cons, List.filterMap_cons, here, later, List.filter_cons]
    cases r.transaction?.isSome <;> rfl

theorem Transaction.filter_id_eq_singleton {tx : Transaction} {txs : List Transaction}
    (distinct : (txs.map Transaction.id).Nodup) (mem : tx ∈ txs) :
    txs.filter (·.id = tx.id) = [tx] := by
  induction txs with
  | nil => exact absurd mem List.not_mem_nil
  | cons first rest ih =>
    obtain ⟨fresh, others⟩ := List.nodup_cons.mp distinct
    rcases List.mem_cons.mp mem with rfl | later
    · have none_left : rest.filter (·.id = tx.id) = [] := by
        refine List.filter_eq_nil_iff.mpr fun other hother same => ?_
        exact fresh (of_decide_eq_true same ▸ List.mem_map_of_mem hother)
      rw [List.filter_cons_of_pos (by simp), none_left]
    · have ne : first.id ≠ tx.id := fun same => fresh (same ▸ List.mem_map_of_mem later)
      rw [List.filter_cons_of_neg (by simpa using ne)]
      exact ih others later

/-! ### What becomes pending -/

namespace Replica

theorem pending_accept (r : Replica) (id : Uuid) : (r.accept id).1.pending ⊆ r.pending := by
  rw [accept]
  cases r.find? id with
  | none => exact List.Subset.refl _
  | some tx => exact List.eraseP_subset

theorem pending_reject (r : Replica) (id : Uuid) : (r.reject id).1.pending ⊆ r.pending := by
  rw [reject]
  cases r.find? id with
  | none => exact List.Subset.refl _
  | some tx => exact List.eraseP_subset

end Replica

namespace Participant

variable (p : Participant)

/-- The transactions of the session's document that wait for an answer. -/
def awaiting (p : Participant) : List Transaction :=
  match p.session? with
  | some s => s.document.pending
  | none => []

theorem awaiting_of_session {s : Session} (h : p.session? = some s) :
    p.awaiting = s.document.pending := by rw [awaiting, h]

theorem awaiting_setAnswered {s : Session} (h : p.session? = some s) (tx : Uuid)
    {answer : Replica × Option ObjectSet} (fewer : answer.1.pending ⊆ s.document.pending) :
    (p.setAnswered s tx answer).1.awaiting ⊆ p.awaiting := by
  rcases answer with ⟨document, _ | touched⟩
  · exact List.Subset.refl _
  · rw [p.awaiting_of_session h]
    exact fewer

theorem awaiting_applySession {s : Session} (h : p.session? = some s) (e : SessionEvent) :
    (p.applySession s e).1.awaiting ⊆ p.awaiting := by
  have same : s.document.pending ⊆ p.awaiting := by
    rw [p.awaiting_of_session h]
    exact List.Subset.refl _
  cases e with
  | fragment f => exact List.Subset.refl _
  | accepted tx => exact p.awaiting_setAnswered h tx (s.document.pending_accept tx)
  | rejected tx reason => exact p.awaiting_setAnswered h tx (s.document.pending_reject tx)
  | _ => exact same

/-- An event makes no edit pending. It may end the wait for some. -/
theorem awaiting_applyEvent (e : SystemEvent) : (p.applyEvent e).1.awaiting ⊆ p.awaiting := by
  cases e with
  | connected connection => exact List.Subset.refl _
  | joinedSession id roster snapshot => exact List.nil_subset _
  | leftSession =>
    rw [applyEvent]
    cases h : p.session? with
    | some s => exact List.nil_subset _
    | none => exact List.Subset.refl _
  | session event =>
    rw [applyEvent]
    cases h : p.session? with
    | some s => exact p.awaiting_applySession h event
    | none => exact List.Subset.refl _

end Participant

/-! ### The outbox -/

/-- What the way of an edit depends on. -/
structure Outbox where
  /-- The frames that the link accepted. -/
  accepted : List Frame
  /-- The frames that wait to be sent. -/
  queued : List Frame
  /-- The transactions that wait for an answer. -/
  awaiting : List Transaction
  /-- The number given out last. -/
  lastId : CommandId
  /-- The requests that the client was asked to send at once. -/
  asked : List Request
  /-- The requests that announce edits. -/
  announced : List Request

namespace Outbox

variable {o : Outbox}

/-- How many numbers were given out. -/
def assigned (o : Outbox) : Nat := o.asked.length + o.announced.length

/-- Nothing got lost, and nothing is on its way twice. -/
structure Complete (o : Outbox) : Prop where
  /-- The accepted frames are those of some requests. Those of them that announce edits come before
  the requests whose frames are queued, and no other edits were announced. -/
  underway : (∀ r ∈ o.asked, r.transaction? = none) → ∃ delivered waiting : List Request,
    o.accepted = delivered.map Request.toFrame ∧ o.queued = waiting.map Request.toFrame ∧
      delivered.filter (·.transaction?.isSome) ++ waiting = o.announced ∧
      ∀ r ∈ delivered, r ∈ o.asked ++ o.announced
  /-- What is announced are transactions. -/
  announcing : ∀ r ∈ o.announced, r.transaction?.isSome
  /-- A transaction that waits for an answer was announced. -/
  awaiting : ∀ tx ∈ o.awaiting, ∃ r ∈ o.announced, r.transaction? = some tx
  /-- As long as the numbers last, each announcement has a greater one than those before. -/
  numbers : o.assigned < 2 ^ 32 →
    o.lastId.toNat = o.assigned ∧ o.announced.Pairwise (·.id < ·.id) ∧
      ∀ r ∈ o.announced, r.id ≤ o.lastId

namespace Complete

/-- A new number is greater than all that were given out. -/
theorem numbers_next (h : o.Complete) (room : o.assigned + 1 < 2 ^ 32) {next : CommandId}
    (successor : o.lastId.toNat + 1 < 2 ^ 32 → next.toNat = o.lastId.toNat + 1) :
    next.toNat = o.assigned + 1 ∧ o.announced.Pairwise (·.id < ·.id) ∧
      ∀ r ∈ o.announced, r.id < next := by
  obtain ⟨count, increasing, bounded⟩ := h.numbers (by omega)
  have next_eq := successor (by omega)
  refine ⟨by omega, increasing, fun r hr => ?_⟩
  have le := UInt32.le_iff_toNat_le.mp (bounded r hr)
  rw [UInt32.lt_iff_toNat_lt]
  omega

/-- A request that is sent at once takes a number, and perhaps the link accepts its frame. -/
theorem ask (h : o.Complete) (r : Request)
    (successor : o.lastId.toNat + 1 < 2 ^ 32 → r.id.toNat = o.lastId.toNat + 1)
    {accepted : List Frame}
    (sent : accepted = o.accepted ∨ accepted = o.accepted ++ [r.toFrame]) :
    Complete { o with accepted, lastId := r.id, asked := o.asked ++ [r] } := by
  refine ⟨fun plain => ?_, h.announcing, h.awaiting, fun room => ?_⟩
  · obtain ⟨delivered, waiting, hdelivered, hwaiting, order, known⟩ :=
      h.underway fun r hr => plain r (List.mem_append_left _ hr)
    have known' : ∀ q ∈ delivered, q ∈ (o.asked ++ [r]) ++ o.announced := by
      intro q hq
      have := known q hq
      grind
    rcases sent with rfl | rfl
    · exact ⟨delivered, waiting, hdelivered, hwaiting, order, known'⟩
    · refine ⟨delivered ++ [r], waiting, ?_, hwaiting, ?_, ?_⟩
      · rw [List.map_append, hdelivered]
        rfl
      · have silent : r.transaction? = none := plain r List.mem_concat_self
        simpa [List.filter_append, silent] using order
      · intro q hq
        rcases List.mem_append.mp hq with old | new
        · exact known' q old
        · grind
  · have total : o.assigned + 1 < 2 ^ 32 := by
      simpa [assigned, Nat.add_right_comm] using room
    obtain ⟨count, increasing, bounded⟩ := h.numbers_next total successor
    refine ⟨?_, increasing, fun q hq => UInt32.le_of_lt (bounded q hq)⟩
    simpa [assigned, Nat.add_right_comm] using count

/-- An edit takes a number, becomes pending, and its announcement is queued. -/
theorem announce (h : o.Complete) (r : Request) {tx : Transaction}
    (announces : r.transaction? = some tx)
    (successor : o.lastId.toNat + 1 < 2 ^ 32 → r.id.toNat = o.lastId.toNat + 1) :
    Complete { o with
      queued := o.queued ++ [r.toFrame]
      awaiting := o.awaiting ++ [tx]
      lastId := r.id
      announced := o.announced ++ [r] } := by
  refine ⟨fun plain => ?_, ?_, ?_, fun room => ?_⟩
  · obtain ⟨delivered, waiting, hdelivered, hwaiting, order, known⟩ := h.underway plain
    refine ⟨delivered, waiting ++ [r], hdelivered, ?_, ?_, fun q hq => ?_⟩
    · rw [List.map_append, hwaiting]
      rfl
    · rw [← List.append_assoc, order]
    · rw [← List.append_assoc]
      exact List.mem_append_left _ (known q hq)
  · intro q hq
    rcases List.mem_append.mp hq with old | new
    · exact h.announcing q old
    · obtain rfl := List.mem_singleton.mp new
      rw [announces]
      rfl
  · intro other hother
    rcases List.mem_append.mp hother with old | new
    · obtain ⟨q, hq, same⟩ := h.awaiting other old
      exact ⟨q, List.mem_append_left _ hq, same⟩
    · obtain rfl := List.mem_singleton.mp new
      exact ⟨r, List.mem_concat_self, announces⟩
  · have total : o.assigned + 1 < 2 ^ 32 := by simpa [assigned, Nat.add_assoc] using room
    obtain ⟨count, increasing, bounded⟩ := h.numbers_next total successor
    refine ⟨by simpa [assigned, Nat.add_assoc] using count, ?_, fun q hq => ?_⟩
    · refine List.pairwise_append.mpr ⟨increasing, List.pairwise_singleton _ _, ?_⟩
      intro q hq last hlast
      rw [List.mem_singleton.mp hlast]
      exact bounded q hq
    · rcases List.mem_append.mp hq with old | new
      · exact UInt32.le_of_lt (bounded q old)
      · rw [List.mem_singleton.mp new]
        exact UInt32.le_refl _

/-- The oldest queued frame is accepted. -/
theorem forward (h : o.Complete) {frame : Frame} {rest : List Frame}
    (oldest : o.queued = frame :: rest) :
    Complete { o with accepted := o.accepted ++ [frame], queued := rest } := by
  refine ⟨fun plain => ?_, h.announcing, h.awaiting, h.numbers⟩
  obtain ⟨delivered, waiting, hdelivered, hwaiting, order, known⟩ := h.underway plain
  obtain ⟨r, waiting, rfl, rfl, rfl⟩ := List.map_eq_cons_iff.mp (hwaiting.symm.trans oldest)
  have here : r ∈ o.announced := by
    rw [← order]
    exact List.mem_append_right _ List.mem_cons_self
  refine ⟨delivered ++ [r], waiting, ?_, rfl, ?_, ?_⟩
  · rw [List.map_append, hdelivered]
    rfl
  · simpa [List.filter_append, h.announcing r here] using order
  · intro q hq
    rcases List.mem_append.mp hq with old | new
    · exact known q old
    · rw [List.mem_singleton.mp new]
      exact List.mem_append_right _ here

/-- Some transactions need not wait any more. -/
theorem settle (h : o.Complete) {awaiting : List Transaction} (fewer : awaiting ⊆ o.awaiting) :
    Complete { o with awaiting } :=
  ⟨h.underway, h.announcing, fun tx htx => h.awaiting tx (fewer htx), h.numbers⟩

/-- The announcements that are accepted or queued are those of all edits, in order. -/
theorem announcements (h : o.Complete) (plain : ∀ r ∈ o.asked, r.transaction? = none)
    (storable : ∀ r ∈ o.asked ++ o.announced, Frame.Storable r) :
    (o.accepted ++ o.queued).filterMap Frame.announcement? = o.announced := by
  obtain ⟨delivered, waiting, hdelivered, hwaiting, order, known⟩ := h.underway plain
  have queued : ∀ r ∈ waiting, r ∈ o.announced := by
    intro r hr
    rw [← order]
    exact List.mem_append_right _ hr
  have all : waiting.filter (·.transaction?.isSome) = waiting :=
    List.filter_eq_self.mpr fun r hr => h.announcing r (queued r hr)
  rw [hdelivered, hwaiting, ← List.map_append, Request.filterMap_announcement?_toFrame,
    List.filter_append, all, order]
  intro r hr
  rcases List.mem_append.mp hr with old | new
  · exact storable r (known r old)
  · exact storable r (List.mem_append_right _ (queued r new))

end Complete

end Outbox

namespace Client

variable {L M : Type}

/-- What the way of an edit depends on. -/
def outbox (c : Observed L M) : Outbox :=
  ⟨c.link.accepted, c.core.outbound, c.core.awaiting, c.core.lastId, c.memory.asked,
    c.memory.announced⟩

theorem outbox_eq_of_matches {c c' : Observed L M} (same : c.Matches c') :
    c'.outbox = c.outbox := by
  rw [outbox, same.link, same.core, same.memory]
  rfl

theorem accepted_of_refused {l : Link} {frame : Frame} {e : LinkError}
    (h : (l.send frame).2 = .error e) : (l.send frame).1.accepted = l.accepted := by
  rw [Link.send] at h ⊢
  cases hr : l.refuses l.attempts with
  | some e => rfl
  | none =>
    rw [hr] at h
    by_cases hopen : l.isOpen
    · simp [hopen] at h
    · simp [hopen]

theorem accepted_send (l : Link) (frame : Frame) :
    (l.send frame).1.accepted = l.accepted ∨ (l.send frame).1.accepted = l.accepted ++ [frame] := by
  cases h : (l.send frame).2 with
  | ok done => exact .inr (accepted_of_send h)
  | error e => exact .inl (accepted_of_refused h)

/-- Every step of the client keeps the outbox complete. -/
theorem complete_upheld : UpheldRouting fun c : Observed L M => c.outbox.Complete where
  aside h c' same := by
    rw [outbox_eq_of_matches same]
    exact h
  watched _ h := h
  rosterWatched _ h := h
  rosterUnwatched _ h := h
  remembered _ h := h
  called _ _ h := h
  rosterCalled _ _ h := h
  taken h := h
  rosterTaken h := h
  asked {c} command link h sent := by
    refine h.ask ⟨c.core.nextId, command⟩ c.core.toNat_nextId ?_
    rcases sent with rfl | rfl
    · exact .inl rfl
    · exact accepted_send _ _
  pushed {c} edit h := by
    cases hs : c.core.session? with
    | none =>
      have home : (c.core.push edit).1 = c.core.pushHome edit := by rw [Participant.push, hs]
      have silent : c.memory.note c.core (.push edit) = c.memory := by
        simp [Diary.note, Participant.announcement?, hs]
      have still : (c.core.pushHome edit).awaiting = c.core.awaiting := by
        rw [Participant.awaiting, Participant.awaiting]
        rfl
      rw [home, silent, outbox, still]
      exact h
    | some s =>
      have pushed : (c.core.push edit).1 = c.core.pushSession s edit := by
        rw [Participant.push, hs]
      have noted : c.memory.note c.core (.push edit) =
          { c.memory with announced := c.memory.announced ++ [⟨c.core.nextId,
            .session (.transaction (s.document.transactionFor edit c.core.ids.draw.1))⟩] } := by
        simp [Diary.note, Participant.announcement?, hs]
      have announced := h.announce ⟨c.core.nextId,
        .session (.transaction (s.document.transactionFor edit c.core.ids.draw.1))⟩ rfl
        c.core.toNat_nextId
      rw [outbox, c.core.awaiting_of_session hs] at announced
      rw [pushed, noted]
      exact announced
  forwarded {c} frame rest queue sent h := by
    have forward := h.forward queue
    rw [outbox, accepted_of_send sent]
    exact forward
  refused {c} frame rest e queue refused h := by
    rw [outbox, accepted_of_refused refused]
    exact h
  applied {c} event h := by
    have settled := h.settle (c.core.awaiting_applyEvent event)
    obtain ⟨_, _, _, _, _, same⟩ := c.core.applyEvent_eq event
    rw [outbox, same]
    rw [same] at settled
    exact settled

/-- In a new client nothing is on its way. -/
theorem complete_create {ids : IdSource} {settings : Settings} {own : M} {fresh : Observed L M}
    (created : create (Participant.create ids) settings (Diary.blank own) = .ok fresh)
    {link : Link} (unused : link.accepted = []) : { fresh with link }.outbox.Complete := by
  have empty : { fresh with link }.outbox = ⟨[], [], [], 0, [], []⟩ := by
    obtain ⟨feed, rfl⟩ := eq_of_create created
    rw [outbox, unused]
    rfl
  rw [empty]
  exact ⟨fun _ => ⟨[], [], rfl, rfl, rfl, nofun⟩, nofun, nofun, fun _ => ⟨rfl, .nil, nofun⟩⟩

/-- Edits inside a session get to the relay in order, whatever the link refuses and whatever the
listeners do. Take any run of a new client, and the frames that the link accepted together with
those still queued. If the requests announce no transactions themselves, fewer than `2 ^ 32 - 1`
numbers were given out and the transactions have different identifiers, then

* each transaction pending in the session is announced by one of these frames, and no other frame
  announces a transaction with its identifier;
* the announcements are those of all edits, in the order of the edits;
* those that the link accepted have greater and greater numbers. -/
theorem edits_dispatched_once (habits : Habits L M) {ids : IdSource} {settings : Settings} {own : M}
    {fresh : Observed L M}
    (created : create (Participant.create ids) settings (Diary.blank own) = .ok fresh)
    {link : Link} (unused : link.accepted = []) (ops : List (Operation L)) :
    let c := operateAllNoted habits { fresh with link } ops
    let underway := c.link.accepted ++ c.core.outbound
    (∀ r ∈ c.memory.asked, r.transaction? = none) →
      (∀ r ∈ c.memory.asked ++ c.memory.announced, Frame.Storable r) →
      c.memory.asked.length + c.memory.announced.length < 2 ^ 32 - 1 →
      ((c.memory.announced.filterMap Request.transaction?).map Transaction.id).Nodup →
      (∀ s tx, c.core.session? = some s → tx ∈ s.document.pending →
        (underway.filterMap Frame.transaction?).filter (·.id = tx.id) = [tx]) ∧
      underway.filterMap Frame.announcement? = c.memory.announced ∧
      (c.link.accepted.filterMap Frame.announcement?).Pairwise (·.id < ·.id) := by
  intro c underway plain storable few distinct
  have complete : c.outbox.Complete :=
    operateAllNoted_keeps complete_upheld habits (complete_create created unused) ops
  have announcements : underway.filterMap Frame.announcement? = c.memory.announced :=
    complete.announcements plain storable
  refine ⟨fun s tx hs htx => ?_, announcements, ?_⟩
  · have transactions : underway.filterMap Frame.transaction? =
        c.memory.announced.filterMap Request.transaction? := by
      rw [← announcements, List.filterMap_filterMap]
      rfl
    have announced : tx ∈ c.memory.announced.filterMap Request.transaction? := by
      have waits : tx ∈ c.core.awaiting := by rwa [c.core.awaiting_of_session hs]
      exact List.mem_filterMap.mpr (complete.awaiting tx waits)
    rw [transactions]
    exact Transaction.filter_id_eq_singleton distinct announced
  · have count : c.outbox.assigned < 2 ^ 32 := Nat.lt_of_lt_of_le few (Nat.sub_le _ _)
    obtain ⟨-, increasing, -⟩ := complete.numbers count
    have first : c.link.accepted.filterMap Frame.announcement? <+: c.memory.announced := by
      rw [← announcements, List.filterMap_append]
      exact List.prefix_append _ _
    exact increasing.sublist first.sublist

/-- A link that refuses every other frame. -/
def stubborn : Link :=
  { Link.create with refuses := fun attempt => if attempt % 2 = 0 then some .closed else none }

/-- A session is entered, something is drawn, and two edits are made. -/
def twoEdits : List (Operation Unit) :=
  [.route (Inbound.notice (.joinedSession 7 ⟨[3]⟩ .empty)).toFrame, .fragment diagonal,
    .push (.retitle "a"), .push (.retitle "b")]

theorem edits_dispatched_once_two_edits :
    let c := operateAllNoted idle { diarist with link := stubborn } twoEdits
    create (.create (.labelled 1)) .usual (.blank ()) = .ok diarist ∧ stubborn.accepted = [] ∧
      (∀ r ∈ c.memory.asked, r.transaction? = none) ∧
      (∀ r ∈ c.memory.asked ++ c.memory.announced, Frame.Storable r) ∧
      c.memory.asked.length + c.memory.announced.length < 2 ^ 32 - 1 ∧
      ((c.memory.announced.filterMap Request.transaction?).map Transaction.id).Nodup ∧
      c.core.awaiting.length = 2 ∧ c.link.accepted.length = 1 ∧ c.core.outbound.length = 1 ∧
      ∀ tx ∈ c.core.awaiting, ((c.link.accepted ++ c.core.outbound).filterMap
        Frame.transaction?).filter (·.id = tx.id) = [tx] := by
  intro c
  have plain : ∀ r ∈ c.memory.asked, r.transaction? = none := by decide +kernel
  have storable : ∀ r ∈ c.memory.asked ++ c.memory.announced, Frame.Storable r := by
    decide +kernel
  have few : c.memory.asked.length + c.memory.announced.length < 2 ^ 32 - 1 := by decide +kernel
  have distinct :
      ((c.memory.announced.filterMap Request.transaction?).map Transaction.id).Nodup := by
    decide +kernel
  obtain ⟨s, hs⟩ := Option.isSome_iff_exists.mp (by decide +kernel : c.core.session?.isSome)
  obtain ⟨once, -⟩ := edits_dispatched_once idle create_diarist rfl twoEdits plain storable few
    distinct
  refine ⟨create_diarist, rfl, plain, storable, few, distinct, by decide +kernel,
    by decide +kernel, by decide +kernel, fun tx htx => ?_⟩
  rw [c.core.awaiting_of_session hs] at htx
  exact once s tx hs htx

end Client

end Whiteboard
