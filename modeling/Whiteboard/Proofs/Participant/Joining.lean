import Whiteboard.Proofs.Participant.Runs

/-!
# Joining starts afresh

A participant that enters a session takes the roster and the document from the frame that lets it
in. What it was before, in other sessions or on its own, has no influence on what it shows inside
the session, nor on what becomes of the frames that arrive there. Two participants that enter a
session with the same frame and then go through the same steps therefore cannot be told apart, as
long as they stay inside; only the identifiers of their transactions must be the same too.
-/

namespace Whiteboard

/-- Whether an event leaves the participant in its session, or takes it to one whose document has a
name of its own. -/
def SystemEvent.staysInside : SystemEvent → Bool
  | .leftSession => false
  | .joinedSession _ _ snapshot => snapshot.documentId.isSome
  | .connected _ | .session _ => true

/-- The document of a snapshot that names it does not depend on the supply of identifiers. -/
theorem Replica.openFrom_of_name {snapshot : Snapshot} {name : ObjectId}
    (named : snapshot.documentId = some name) (ids : IdSource) :
    openFrom snapshot ids = (⟨.ofSnapshot name snapshot, []⟩, ids) := by
  rw [openFrom, Store.openFrom, Snapshot.nameFrom, named]

namespace Participant

/-- Whether a step does not lead out of sessions. -/
def Step.staysInside : Step → Bool
  | apply frame => frame.event?.all (·.staysInside)
  | _ => true

/-- The edits among the steps draw the same identifiers in both runs. -/
def DrawAlike : Participant → Participant → List Step → Prop
  | _, _, [] => True
  | p, q, s :: rest =>
    (∀ edit, s = .push edit → p.ids.draw.1 = q.ids.draw.1) ∧ DrawAlike (p.step s) (q.step s) rest

/-- Both are in one session, with the same roster and the same document. -/
def Fellow (p q : Participant) : Prop := ∃ s, p.session? = some s ∧ q.session? = some s

variable {p q : Participant} {frame : Frame}

/-- An edit inside a session begins a transaction of the session's document. -/
theorem session?_push {s : Session} (h : p.session? = some s) (edit : Edit) :
    (p.push edit).1.session? =
      some { s with
        document := (s.document.begin (s.document.transactionFor edit p.ids.draw.1)).1 } := by
  rw [push, h]
  rfl

/-- Whoever enters a session with the same frame has the same document there. -/
theorem fellow_join (p q : Participant) (id : SessionId) (roster : Roster) {snapshot : Snapshot}
    (named : snapshot.documentId.isSome) :
    (p.join id roster snapshot).Fellow (q.join id roster snapshot) := by
  obtain ⟨name, named⟩ := Option.isSome_iff_exists.mp named
  refine ⟨⟨id, roster, ⟨.ofSnapshot name snapshot, []⟩⟩, ?_, ?_⟩
  · rw [join, Replica.openFrom_of_name named]
    rfl
  · rw [join, Replica.openFrom_of_name named]
    rfl

namespace Fellow

/-- An event in the session has the same result at both, and leaves them in one session. -/
theorem applySession {s : Session} (hp : p.session? = some s) (hq : q.session? = some s)
    (e : SessionEvent) :
    (p.applySession s e).2 = (q.applySession s e).2 ∧
      (p.applySession s e).1.Fellow (q.applySession s e).1 := by
  cases e with
  | fragment f => exact ⟨rfl, s, hp, hq⟩
  | someoneJoined connection => exact ⟨rfl, _, rfl, rfl⟩
  | someoneLeft connection => exact ⟨rfl, _, rfl, rfl⟩
  | rosterChanged roster => exact ⟨rfl, _, rfl, rfl⟩
  | othersTransaction tx => exact ⟨rfl, _, rfl, rfl⟩
  | accepted tx =>
    dsimp only [Participant.applySession]
    rcases s.document.accept tx with ⟨document, _ | touched⟩
    · exact ⟨rfl, s, hp, hq⟩
    · exact ⟨rfl, _, rfl, rfl⟩
  | rejected tx reason =>
    dsimp only [Participant.applySession]
    rcases s.document.reject tx with ⟨document, _ | touched⟩
    · exact ⟨rfl, s, hp, hq⟩
    · exact ⟨rfl, _, rfl, rfl⟩

/-- Every frame has the same result at both, also one that leads out of the session. -/
theorem apply_result (h : p.Fellow q) (frame : Frame) : (p.apply frame).2 = (q.apply frame).2 := by
  obtain ⟨s, hp, hq⟩ := h
  cases found : frame.event? with
  | none =>
    obtain ⟨result, same⟩ := apply_of_no_event found
    rw [same p, same q]
  | some event =>
    rw [apply_of_event found p, apply_of_event found q]
    cases event with
    | connected connection => rfl
    | joinedSession id roster snapshot => rfl
    | leftSession => rw [applyEvent, applyEvent, hp, hq]
    | session e =>
      rw [applyEvent, applyEvent, hp, hq]
      exact (applySession hp hq e).1

theorem applyEvent (h : p.Fellow q) {event : SystemEvent} (stays : event.staysInside) :
    (p.applyEvent event).1.Fellow (q.applyEvent event).1 := by
  obtain ⟨s, hp, hq⟩ := h
  cases event with
  | connected connection => exact ⟨s, hp, hq⟩
  | joinedSession id roster snapshot => exact fellow_join p q id roster stays
  | leftSession => cases stays
  | session e =>
    rw [Participant.applyEvent, Participant.applyEvent, hp, hq]
    exact (applySession hp hq e).2

theorem push (h : p.Fellow q) (same : p.ids.draw.1 = q.ids.draw.1) (edit : Edit) :
    (p.push edit).1.Fellow (q.push edit).1 := by
  obtain ⟨s, hp, hq⟩ := h
  refine ⟨_, session?_push hp edit, ?_⟩
  rw [session?_push hq edit, same]

theorem step (h : p.Fellow q) {s : Step} (stays : s.staysInside)
    (same : ∀ edit, s = .push edit → p.ids.draw.1 = q.ids.draw.1) :
    (p.step s).Fellow (q.step s) := by
  cases s with
  | apply frame =>
    rw [Step.staysInside] at stays
    rw [Participant.step, Participant.step]
    cases found : frame.event? with
    | none =>
      obtain ⟨result, unchanged⟩ := apply_of_no_event found
      rw [unchanged p, unchanged q]
      exact h
    | some event =>
      rw [found] at stays
      rw [apply_of_event found p, apply_of_event found q]
      exact h.applyEvent stays
  | push edit => exact h.push (same edit rfl) edit
  | takeOutbound =>
    have kept : ∀ p : Participant, p.takeOutbound.1.session? = p.session? := by
      intro p
      rw [takeOutbound]
      cases p.outbound <;> rfl
    obtain ⟨s, hp, hq⟩ := h
    exact ⟨s, (kept p).trans hp, (kept q).trans hq⟩
  | _ => exact h

theorem run (h : p.Fellow q) {steps : List Step} (stay : ∀ s ∈ steps, s.staysInside)
    (alike : DrawAlike p q steps) : (p.run steps).Fellow (q.run steps) := by
  induction steps generalizing p q with
  | nil => exact h
  | cons s rest ih =>
    have next := h.step (stay s List.mem_cons_self) alike.1
    exact ih next (fun other mem => stay other (List.mem_cons_of_mem _ mem)) alike.2

/-- Both show the same. -/
theorem shows (h : p.Fellow q) :
    p.sessionId? = q.sessionId? ∧ p.roster = q.roster ∧ p.view = q.view ∧
      p.pendingCount = q.pendingCount := by
  obtain ⟨s, hp, hq⟩ := h
  have document : p.document = q.document := by
    rw [Participant.document, Participant.document, hp, hq]
  refine ⟨?_, ?_, ?_, ?_⟩
  · rw [sessionId?, sessionId?, hp, hq]
  · rw [roster, roster, hp, hq]
  · rw [view, view, document]
  · rw [pendingCount, pendingCount, document]

end Fellow

/-- Joining starts afresh. Let two participants, whatever happened to them before, enter a session
with the same frame, which names the document, and then go through the same steps. Let no step lead
out of sessions, and let their edits draw the same identifiers. Then both show the same session,
roster, document and number of pending transactions, and every frame has the same result at both:
the one with which they entered, and any that arrives next. -/
theorem joining_starts_afresh (p q : Participant) {frame : Frame} {id : SessionId} {roster : Roster}
    {snapshot : Snapshot}
    (joins : frame.event? = some (.joinedSession id roster snapshot))
    (named : snapshot.documentId.isSome) {steps : List Step}
    (stay : ∀ s ∈ steps, s.staysInside)
    (alike : DrawAlike (p.apply frame).1 (q.apply frame).1 steps) :
    let p' := (p.apply frame).1.run steps
    let q' := (q.apply frame).1.run steps
    (p'.sessionId? = q'.sessionId? ∧ p'.roster = q'.roster ∧ p'.view = q'.view ∧
        p'.pendingCount = q'.pendingCount) ∧
      (p.apply frame).2 = (q.apply frame).2 ∧ ∀ next, (p'.apply next).2 = (q'.apply next).2 := by
  intro p' q'
  have entered : (p.apply frame).1.Fellow (q.apply frame).1 := by
    rw [apply_of_event joins p, apply_of_event joins q]
    exact fellow_join p q id roster named
  have fellow : p'.Fellow q' := entered.run stay alike
  refine ⟨fellow.shows, ?_, fellow.apply_result⟩
  rw [apply_of_event joins p, apply_of_event joins q]
  rfl

/-- A session with a document is entered. -/
def admission : Frame := (Inbound.notice (.joinedSession 7 ⟨[3]⟩ ⟨some ⟨"plan"⟩, [], []⟩)).toFrame

/-- A participant in another session, with an edit that is not answered yet. -/
def busy : Participant :=
  (create (.labelled 1)).run
    [.apply (Inbound.notice (.joinedSession 5 ⟨[1, 2]⟩ ⟨some ⟨"plan"⟩, [], []⟩)).toFrame,
      .push (.retitle "old")]

/-- A participant in no session, with a document of its own. -/
def alone : Participant := (create (.labelled 1)).run [.push (.retitle "mine")]

/-- An edit, its acceptance, an answer to the edit made before, and another edit. -/
def together : List Step :=
  [.push (.retitle "a"), .apply (Inbound.notice (.session (.accepted (.numbered 1 3)))).toFrame,
    .apply (Inbound.notice (.session (.accepted (.numbered 1 2)))).toFrame, .push (.retitle "b")]

theorem joining_starts_afresh_busy :
    admission.event? = some (.joinedSession 7 ⟨[3]⟩ ⟨some ⟨"plan"⟩, [], []⟩) ∧
      (∀ s ∈ together, s.staysInside) ∧
      DrawAlike (busy.apply admission).1 (alone.apply admission).1 together ∧
      busy.view = ⟨⟨"plan"⟩, "old"⟩ ∧ alone.view.title = "mine" ∧
      ((alone.apply admission).1.run together).view = ⟨⟨"plan"⟩, "b"⟩ ∧
      ((busy.apply admission).1.run together).view = ⟨⟨"plan"⟩, "b"⟩ := by
  have joins : admission.event? = some (.joinedSession 7 ⟨[3]⟩ ⟨some ⟨"plan"⟩, [], []⟩) := by
    decide +kernel
  have stay : ∀ s ∈ together, s.staysInside := by decide +kernel
  have alike : DrawAlike (busy.apply admission).1 (alone.apply admission).1 together :=
    ⟨fun _ _ => by decide +kernel, nofun, nofun, fun _ _ => by decide +kernel, trivial⟩
  have shown : ((alone.apply admission).1.run together).view = ⟨⟨"plan"⟩, "b"⟩ := by
    decide +kernel
  obtain ⟨⟨-, -, view, -⟩, -, -⟩ := joining_starts_afresh busy alone joins rfl stay alike
  exact ⟨joins, stay, alike, by decide +kernel, by decide +kernel, shown, view.trans shown⟩

end Participant

end Whiteboard
