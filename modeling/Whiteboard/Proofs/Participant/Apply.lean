import Whiteboard.Proofs.Document.Pending
import Whiteboard.Proofs.Relay.Network

/-!
# How applying a frame fails

Four things can come of applying a frame: it cannot be read, it tells of a session while there is
none, it answers a transaction that is not pending, or it is applied. Unless it is applied, nothing
has changed.
-/

namespace Whiteboard

namespace Participant

variable (p : Participant)

/-- An event in the session fails if it answers a transaction that is not pending, and then changes
nothing. -/
theorem applySession_cases (s : Session) (e : SessionEvent) :
    (∃ tx, e.answered? = some tx ∧ s.document.find? tx = none ∧
      p.applySession s e = (p, .error (.unknownTransaction tx))) ∨
    (∀ tx, e.answered? = some tx → s.document.find? tx ≠ none) ∧
      (p.applySession s e).2 = .ok () := by
  cases e with
  | fragment f => exact .inr ⟨fun _ h => (by cases h), rfl⟩
  | someoneJoined c => exact .inr ⟨fun _ h => (by cases h), rfl⟩
  | someoneLeft c => exact .inr ⟨fun _ h => (by cases h), rfl⟩
  | rosterChanged roster => exact .inr ⟨fun _ h => (by cases h), rfl⟩
  | othersTransaction tx => exact .inr ⟨fun _ h => (by cases h), rfl⟩
  | accepted tx =>
    rw [applySession, Replica.accept]
    cases hfind : s.document.find? tx with
    | none => exact .inl ⟨tx, rfl, hfind, rfl⟩
    | some t =>
      refine .inr ⟨fun tx' h => ?_, rfl⟩
      cases h
      simp [hfind]
  | rejected tx reason =>
    rw [applySession, Replica.reject]
    cases hfind : s.document.find? tx with
    | none => exact .inl ⟨tx, rfl, hfind, rfl⟩
    | some t =>
      refine .inr ⟨fun tx' h => ?_, rfl⟩
      cases h
      simp [hfind]

/-- An event fails if it is about a session and there is none, or as an event in the session. -/
theorem applyEvent_cases (event : SystemEvent) :
    (∃ e, event = .session e ∧ p.session? = none ∧
      p.applyEvent event = (p, .error .notInSession)) ∨
    (∃ e s tx, event = .session e ∧ p.session? = some s ∧ e.answered? = some tx ∧
      s.document.find? tx = none ∧ p.applyEvent event = (p, .error (.unknownTransaction tx))) ∨
    (∀ e, event = .session e → ∃ s, p.session? = some s ∧
      ∀ tx, e.answered? = some tx → s.document.find? tx ≠ none) ∧
      (p.applyEvent event).2 = .ok () := by
  cases event with
  | connected c => exact .inr (.inr ⟨fun _ h => (by cases h), rfl⟩)
  | joinedSession id roster snapshot => exact .inr (.inr ⟨fun _ h => (by cases h), rfl⟩)
  | leftSession =>
    refine .inr (.inr ⟨fun _ h => (by cases h), ?_⟩)
    rw [applyEvent]
    cases p.session? <;> rfl
  | session e =>
    rw [applyEvent]
    cases hsession : p.session? with
    | none => exact .inl ⟨e, rfl, rfl, rfl⟩
    | some s =>
      rcases p.applySession_cases s e with ⟨tx, htx, hfind, happly⟩ | ⟨hknown, hok⟩
      · exact .inr (.inl ⟨e, s, tx, rfl, rfl, htx, hfind, happly⟩)
      · refine .inr (.inr ⟨fun e' h => ?_, hok⟩)
        cases h
        exact ⟨s, rfl, hknown⟩

/-- What can come of applying a frame. -/
theorem apply_cases (frame : Frame) :
    (∃ fault, Inbound.ofFrame frame = .error fault ∧
      p.apply frame = (p, .error (.codec fault))) ∨
    (∃ m e, Inbound.ofFrame frame = .ok m ∧ m.event? = some (.session e) ∧ p.session? = none ∧
      p.apply frame = (p, .error .notInSession)) ∨
    (∃ m e s tx, Inbound.ofFrame frame = .ok m ∧ m.event? = some (.session e) ∧
      p.session? = some s ∧ e.answered? = some tx ∧ s.document.find? tx = none ∧
      p.apply frame = (p, .error (.unknownTransaction tx))) ∨
    (∃ m, Inbound.ofFrame frame = .ok m ∧ (p.apply frame).2 = .ok () ∧
      ∀ e, m.event? = some (.session e) → ∃ s, p.session? = some s ∧
        ∀ tx, e.answered? = some tx → s.document.find? tx ≠ none) := by
  rw [apply]
  cases Inbound.ofFrame frame with
  | error fault => exact .inl ⟨fault, rfl, rfl⟩
  | ok m =>
    right
    dsimp only
    cases hevent : m.event? with
    | none => exact .inr (.inr ⟨m, rfl, rfl, fun e h => by simp [hevent] at h⟩)
    | some event =>
      rcases p.applyEvent_cases event with ⟨e, rfl, hnone, happly⟩ |
        ⟨e, s, tx, rfl, hsome, htx, hfind, happly⟩ | ⟨hknown, hok⟩
      · exact .inl ⟨m, e, rfl, hevent, hnone, happly⟩
      · exact .inr (.inl ⟨m, e, s, tx, rfl, hevent, hsome, htx, hfind, happly⟩)
      · refine .inr (.inr ⟨m, rfl, hok, fun e h => hknown e ?_⟩)
        rw [hevent] at h
        exact Option.some.inj h

/-- A failure leaves everything as it was. -/
theorem apply_unchanged {frame : Frame} {e : CoreError} (h : (p.apply frame).2 = .error e) :
    (p.apply frame).1 = p := by
  rcases p.apply_cases frame with ⟨fault, -, happly⟩ | ⟨m, e', -, -, -, happly⟩ |
    ⟨m, e', s, tx, -, -, -, -, -, happly⟩ | ⟨m, -, hok, -⟩
  · rw [happly]
  · rw [happly]
  · rw [happly]
  · rw [hok] at h
    cases h

theorem apply_eq_codec_iff {frame : Frame} {fault : CodecError} :
    (p.apply frame).2 = .error (.codec fault) ↔ Inbound.ofFrame frame = .error fault := by
  rcases p.apply_cases frame with ⟨fault', hread, happly⟩ | ⟨m, e', hread, -, -, happly⟩ |
    ⟨m, e', s, tx, hread, -, -, -, -, happly⟩ | ⟨m, hread, hok, -⟩
  · simp [hread, happly]
  · simp [hread, happly]
  · simp [hread, happly]
  · simp [hread, hok]

theorem apply_eq_notInSession_iff {frame : Frame} :
    (p.apply frame).2 = .error .notInSession ↔
      (∃ m e, Inbound.ofFrame frame = .ok m ∧ m.event? = some (.session e)) ∧
        p.session? = none := by
  rcases p.apply_cases frame with ⟨fault', hread, happly⟩ | ⟨m, e', hread, hevent, hnone, happly⟩ |
    ⟨m, e', s, tx, hread, -, hsome, -, -, happly⟩ | ⟨m, hread, hok, hknown⟩
  · simp [hread, happly]
  · simp [hread, happly, hevent, hnone]
  · simp [happly, hsome]
  · rw [hok]
    refine ⟨fun h => (by cases h), ?_⟩
    rintro ⟨⟨m', e, hread', hevent⟩, hnone⟩
    rw [hread] at hread'
    cases hread'
    obtain ⟨s, hsome, -⟩ := hknown e hevent
    rw [hnone] at hsome
    cases hsome

theorem apply_eq_unknownTransaction_iff {frame : Frame} {tx : Uuid} :
    (p.apply frame).2 = .error (.unknownTransaction tx) ↔
      (∃ m e, Inbound.ofFrame frame = .ok m ∧ m.event? = some (.session e) ∧
        e.answered? = some tx) ∧
      ∃ s, p.session? = some s ∧ ∀ t ∈ s.document.pending, t.id ≠ tx := by
  simp only [← Replica.find?_eq_none]
  rcases p.apply_cases frame with ⟨fault', hread, happly⟩ | ⟨m, e', hread, hevent, hnone, happly⟩ |
    ⟨m, e', s, tx', hread, hevent, hsome, htx, hfind, happly⟩ | ⟨m, hread, hok, hknown⟩
  · simp [hread, happly]
  · simp [happly, hnone]
  · simp only [happly, hread, hsome, Except.error.injEq, CoreError.unknownTransaction.injEq]
    constructor
    · rintro rfl
      exact ⟨⟨m, e', rfl, hevent, htx⟩, s, rfl, hfind⟩
    · rintro ⟨⟨m', e, hread', hevent', htx'⟩, -⟩
      cases hread'
      rw [hevent] at hevent'
      cases hevent'
      rw [htx] at htx'
      exact Option.some.inj htx'
  · rw [hok]
    refine ⟨fun h => (by cases h), ?_⟩
    rintro ⟨⟨m', e, hread', hevent, htx⟩, s, hsome, hfind⟩
    rw [hread] at hread'
    cases hread'
    obtain ⟨s', hsome', hfound⟩ := hknown e hevent
    rw [hsome] at hsome'
    cases hsome'
    exact absurd hfind (hfound tx htx)

/-- The one failure after which the operation cannot go on is that of reading a string for which
there is no buffer. -/
theorem apply_faults_iff {frame : Frame} :
    (∃ e, (p.apply frame).2 = .error e ∧ e.fault? ≠ none) ↔
      Inbound.ofFrame frame = .error (.decode .overlong) := by
  rw [← p.apply_eq_codec_iff]
  constructor
  · rintro ⟨e, happly, hfault⟩
    cases e with
    | unknownTransaction tx => exact absurd rfl hfault
    | notInSession => exact absurd rfl hfault
    | codec fault =>
      rw [happly]
      simp only [CoreError.fault?, CodecError.fault?] at hfault
      split at hfault
      · rfl
      · exact absurd rfl hfault
  · intro happly
    exact ⟨_, happly, by simp [CoreError.fault?, CodecError.fault?]⟩

/-- A frame that cannot be read fails with the error of reading, which is a fault if there is no
buffer for one of its strings. A frame that tells of a session fails outside of every session, and
an answer fails if no pending transaction has its identifier. Every other frame is applied. A frame
that is not applied, and one that holds a refusal, leaves everything as it was. -/
theorem apply_eq_error_iff (frame : Frame) :
    (∀ fault, (p.apply frame).2 = .error (.codec fault) ↔ Inbound.ofFrame frame = .error fault) ∧
    ((p.apply frame).2 = .error .notInSession ↔
      (∃ m e, Inbound.ofFrame frame = .ok m ∧ m.event? = some (.session e)) ∧
        p.session? = none) ∧
    (∀ tx, (p.apply frame).2 = .error (.unknownTransaction tx) ↔
      (∃ m e, Inbound.ofFrame frame = .ok m ∧ m.event? = some (.session e) ∧
        e.answered? = some tx) ∧
      ∃ s, p.session? = some s ∧ ∀ t ∈ s.document.pending, t.id ≠ tx) ∧
    ((∃ e, (p.apply frame).2 = .error e ∧ e.fault? ≠ none) ↔
      Inbound.ofFrame frame = .error (.decode .overlong)) ∧
    ((p.apply frame).2 = .ok () ∨ (p.apply frame).1 = p) ∧
    (∀ id refusal, Inbound.ofFrame frame = .ok (.reply id (.refused refusal)) →
      p.apply frame = (p, .ok ())) := by
  refine ⟨fun _ => p.apply_eq_codec_iff, p.apply_eq_notInSession_iff,
    fun _ => p.apply_eq_unknownTransaction_iff, p.apply_faults_iff, ?_, ?_⟩
  · cases happly : (p.apply frame).2 with
    | ok u => exact .inl rfl
    | error e => exact .inr (p.apply_unchanged happly)
  · intro id refusal hread
    rw [apply, hread]
    rfl

/-- A refusal whose reason is said to have more bytes than any buffer. -/
def overlongRefusal : Frame := [0, 1, 1, 3, 253, 255, 255, 255, 255, 255, 255, 255, 0x8f]

/-- Not every frame is applied or fails with an error: a frame can end the operation. -/
theorem apply_not_total :
    ¬ ∀ (p : Participant) (frame : Frame),
      (p.apply frame).2 = .ok () ∨ ∃ e, (p.apply frame).2 = .error e ∧ e.fault? = none := by
  intro h
  have hread : Inbound.ofFrame overlongRefusal = .error (.decode .overlong) := rfl
  have happly := (apply_eq_codec_iff (create (.labelled 0))).mpr hread
  rcases h (create (.labelled 0)) overlongRefusal with hok | ⟨e, he, hfault⟩
  · rw [happly] at hok
    cases hok
  · rw [happly] at he
    cases he
    cases hfault

end Participant

end Whiteboard
