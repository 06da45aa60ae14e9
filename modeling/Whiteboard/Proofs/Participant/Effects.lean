import Mathlib.Algebra.Group.Nat.Defs
import Whiteboard.Participant

/-!
# What one step does to a participant

An inbound frame concerns the session, the connection and what waits for the listeners, and leaves
the numbering, the queue and the participant's own document alone. A number is used up by commands
and by edits inside a session only, and numbers follow each other without gaps as long as they last.
-/

namespace Whiteboard

/-- The event in a frame, if there is one. -/
def Frame.event? (frame : Frame) : Option SystemEvent :=
  (Inbound.ofFrame frame).toOption.bind Inbound.event?

theorem Frame.event?_of_read {frame : Frame} {message : Inbound} {event : SystemEvent}
    (hread : Inbound.ofFrame frame = .ok message) (found : message.event? = some event) :
    frame.event? = some event := by
  rw [event?, hread]
  exact found

namespace Participant

variable (p : Participant)

theorem push_ok (edit : Edit) : (p.push edit).2 = .ok () := by
  rw [push]
  cases p.session? with
  | some s => rfl
  | none => rfl

theorem lastId_push (edit : Edit) :
    (p.push edit).1.lastId = if p.session?.isSome then p.nextId else p.lastId := by
  rw [push]
  cases p.session? with
  | some s => rfl
  | none => rfl

/-- An event concerns the session, the connection and what waits for the listeners. -/
theorem applyEvent_eq (e : SystemEvent) : ∃ ids connection? session? invalidated rosterChanged,
    (p.applyEvent e).1 = { p with ids, connection?, session?, invalidated, rosterChanged } := by
  cases e with
  | connected connection => exact ⟨_, _, _, _, _, rfl⟩
  | joinedSession id roster snapshot => exact ⟨_, _, _, _, _, rfl⟩
  | leftSession =>
    rw [applyEvent]
    cases p.session? with
    | some s => exact ⟨_, _, _, _, _, rfl⟩
    | none => exact ⟨_, _, _, _, _, rfl⟩
  | session event =>
    rw [applyEvent]
    cases p.session? with
    | none => exact ⟨_, _, _, _, _, rfl⟩
    | some s =>
      cases event with
      | accepted tx =>
        dsimp only [applySession]
        rcases s.document.accept tx with ⟨document, _ | touched⟩ <;> exact ⟨_, _, _, _, _, rfl⟩
      | rejected tx reason =>
        dsimp only [applySession]
        rcases s.document.reject tx with ⟨document, _ | touched⟩ <;> exact ⟨_, _, _, _, _, rfl⟩
      | _ => exact ⟨_, _, _, _, _, rfl⟩

/-- A frame with an event has its effect. -/
theorem apply_of_event {frame : Frame} {event : SystemEvent} (h : frame.event? = some event)
    (p : Participant) : p.apply frame = p.applyEvent event := by
  rw [Frame.event?] at h
  rw [apply]
  cases hread : Inbound.ofFrame frame with
  | error e =>
    rw [hread] at h
    cases h
  | ok message =>
    rw [hread] at h
    have found : message.event? = some event := h
    dsimp only
    rw [found]

/-- A frame without an event has none, and what becomes of it does not depend on the participant. -/
theorem apply_of_no_event {frame : Frame} (h : frame.event? = none) :
    ∃ result, ∀ p : Participant, p.apply frame = (p, result) := by
  rw [Frame.event?] at h
  cases hread : Inbound.ofFrame frame with
  | error e => exact ⟨.error (.codec e), fun p => by rw [apply, hread]⟩
  | ok message =>
    rw [hread] at h
    have silent : message.event? = none := h
    refine ⟨.ok (), fun p => ?_⟩
    rw [apply, hread]
    dsimp only
    rw [silent]

/-- An inbound frame leaves the counter, the queue and the participant's own document alone. -/
theorem apply_eq (frame : Frame) : ∃ ids connection? session? invalidated rosterChanged,
    (p.apply frame).1 = { p with ids, connection?, session?, invalidated, rosterChanged } := by
  cases found : frame.event? with
  | none =>
    obtain ⟨result, unchanged⟩ := apply_of_no_event found
    rw [unchanged p]
    exact ⟨_, _, _, _, _, rfl⟩
  | some event =>
    rw [apply_of_event found p]
    exact p.applyEvent_eq event

theorem lastId_apply (frame : Frame) : (p.apply frame).1.lastId = p.lastId := by
  obtain ⟨_, _, _, _, _, h⟩ := p.apply_eq frame
  rw [h]

/-- Numbers are given out one after the other, as long as they last. -/
theorem toNat_nextId (room : p.lastId.toNat + 1 < 2 ^ 32) :
    p.nextId.toNat = p.lastId.toNat + 1 := by
  have succ : (p.lastId + 1).toNat = p.lastId.toNat + 1 := by
    rw [UInt32.toNat_add, UInt32.toNat_one, Nat.mod_eq_of_lt room]
  -- zero is passed over only when the counter wraps around
  have nonzero : p.lastId + 1 ≠ 0 := by
    intro zero
    rw [zero] at succ
    exact absurd succ (by simp)
  rw [Participant.nextId, if_neg nonzero, succ]

end Participant

end Whiteboard
