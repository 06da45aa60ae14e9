import Whiteboard.Proofs.Message.RoundTrip
import Whiteboard.Proofs.Participant.Runs

/-!
# The queue through a run

Frames join the queue at its end when edits are made inside a session, and leave it at its front
when they are taken. Nothing else moves them, except that a frame that was taken may be put back. In
particular the queue does not end with the session: what is left of it then is taken before anything
that later edits announce.
-/

namespace Whiteboard.Participant

open Step (taken queued)

/-- Only frames are put back that were taken before, in this run or among the given ones. -/
def ReturnsTaken : List Frame → Participant → List Step → Prop
  | _, _, [] => True
  | before, p, s :: rest =>
    (∀ frame, s = .requeue frame → frame ∈ before) ∧
      ReturnsTaken (before ++ s.taken p) (p.step s) rest

/-- The participant is in a session, which the frame ends or replaces by another one. -/
def EndsSession (p : Participant) (frame : Frame) : Prop :=
  p.session? ≠ none ∧ ∃ message, Inbound.ofFrame frame = .ok message ∧
    (message.event? = some .leftSession ∨
      ∃ id roster snapshot, message.event? = some (.joinedSession id roster snapshot))

/-- What a step does to the queue, unless it puts a frame back. -/
theorem taken_append_outbound_step (p : Participant) {s : Step}
    (forward : ∀ frame, s ≠ .requeue frame) :
    s.taken p ++ (p.step s).outbound = p.outbound ++ s.queued p := by
  cases s with
  | apply frame =>
    obtain ⟨_, _, _, _, _, same⟩ := p.apply_eq frame
    simp [taken, queued, step, same]
  | push edit => exact p.outbound_push edit
  | takeOutbound =>
    cases h : p.outbound with
    | nil => simp [taken, queued, step, takeOutbound, h]
    | cons frame rest => simp [taken, queued, step, takeOutbound, h]
  | requeue frame => exact absurd rfl (forward frame)
  | _ => simp [taken, queued, step, encode, takeInvalidated, takeRosterChange]

theorem taken_append_outbound (steps : List Step) (p : Participant)
    (forward : ∀ frame, .requeue frame ∉ steps) :
    gather taken p steps ++ (p.run steps).outbound = p.outbound ++ gather queued p steps := by
  induction steps generalizing p with
  | nil => simp
  | cons s rest ih =>
    have here := p.taken_append_outbound_step (s := s)
      fun frame same => forward frame (same ▸ List.mem_cons_self)
    have later := ih (p.step s) fun frame mem => forward frame (List.mem_cons_of_mem _ mem)
    rw [gather_cons, gather_cons, run_cons, List.append_assoc, later, ← List.append_assoc, here,
      List.append_assoc]

theorem mem_step {p : Participant} {s : Step} {before : List Frame} {frame : Frame}
    (returned : ∀ f, s = .requeue f → f ∈ before)
    (mem : frame ∈ s.taken p ++ (p.step s).outbound) :
    frame ∈ before ∨ frame ∈ p.outbound ∨ frame ∈ s.queued p := by
  by_cases h : ∃ f, s = .requeue f
  · obtain ⟨f, rfl⟩ := h
    rcases List.mem_cons.mp mem with rfl | old
    · exact .inl (returned _ rfl)
    · exact .inr (.inl old)
  · rw [p.taken_append_outbound_step fun f same => h ⟨f, same⟩] at mem
    exact .inr (List.mem_append.mp mem)

/-- A frame that is taken was taken before, was there in the beginning, or an edit added it. -/
theorem mem_of_returnsTaken {steps : List Step} {p : Participant} {before : List Frame}
    (returned : ReturnsTaken before p steps) {frame : Frame} (mem : frame ∈ gather taken p steps) :
    frame ∈ before ∨ frame ∈ p.outbound ∨ frame ∈ gather queued p steps := by
  induction steps generalizing p before with
  | nil => cases mem
  | cons s rest ih =>
    obtain ⟨here, later⟩ := returned
    rw [gather_cons] at mem ⊢
    have fromStep : ∀ f ∈ s.taken p ++ (p.step s).outbound,
        f ∈ before ∨ f ∈ p.outbound ∨ f ∈ s.queued p ++ gather queued (p.step s) rest := by
      intro f hf
      have := mem_step here hf
      grind
    rcases List.mem_append.mp mem with now | then_
    · exact fromStep frame (List.mem_append_left _ now)
    · rcases ih later then_ with old | waiting | added
      · rcases List.mem_append.mp old with old | now
        · exact .inl old
        · exact fromStep frame (List.mem_append_left _ now)
      · exact fromStep frame (List.mem_append_right _ waiting)
      · exact .inr (.inr (List.mem_append_right _ added))

theorem outbound_apply (p : Participant) (frame : Frame) :
    (p.apply frame).1.outbound = p.outbound := by
  obtain ⟨_, _, _, _, _, same⟩ := p.apply_eq frame
  rw [same]

/-- Only frames of later edits are taken, in every continuation, exactly if nothing is queued. -/
theorem forgets_iff (p : Participant) :
    (∀ steps, ReturnsTaken [] p steps → ∀ f ∈ gather taken p steps, f ∈ gather queued p steps) ↔
      p.outbound = [] := by
  constructor
  · intro forgets
    refine List.eq_nil_iff_forall_not_mem.mpr fun g mem => ?_
    obtain ⟨frame, rest, queue⟩ := List.exists_cons_of_ne_nil (List.ne_nil_of_mem mem)
    have first : frame ∈ gather taken p [.takeOutbound] := by
      simp [taken, takeOutbound, queue]
    have added := forgets [.takeOutbound] ⟨nofun, trivial⟩ frame first
    simp [queued] at added
  · intro queue steps returned f mem
    rcases mem_of_returnsTaken returned mem with old | waiting | added
    · cases old
    · rw [queue] at waiting
      cases waiting
    · exact added

/-- The queue outlives the session. Whatever frame arrives, also one that ends or replaces the
session, the queue stays as it is. In every continuation that puts back only what it took itself, a
frame that is taken was either in the queue already or is that of a later edit; and as long as
nothing is put back, what was in the queue comes first. So later edits alone decide what is taken,
in every continuation, exactly if the queue was empty. -/
theorem queue_outlives_session (p : Participant) (frame : Frame) :
    let q := (p.apply frame).1
    q.outbound = p.outbound ∧
    (∀ steps, ReturnsTaken [] q steps → ∀ f ∈ gather taken q steps,
      f ∈ p.outbound ∨ f ∈ gather queued q steps) ∧
    (∀ steps, (∀ f, .requeue f ∉ steps) →
      gather taken q steps ++ (q.run steps).outbound = p.outbound ++ gather queued q steps) ∧
    ((∀ steps, ReturnsTaken [] q steps → ∀ f ∈ gather taken q steps, f ∈ gather queued q steps) ↔
      p.outbound = []) := by
  intro q
  have queue : q.outbound = p.outbound := p.outbound_apply frame
  refine ⟨queue, fun steps returned f mem => ?_, fun steps forward => ?_, ?_⟩
  · rcases mem_of_returnsTaken returned mem with old | waiting | added
    · cases old
    · exact .inl (queue ▸ waiting)
    · exact .inr added
  · rw [← queue]
    exact taken_append_outbound steps q forward
  · rw [← queue]
    exact q.forgets_iff

/-- A session is entered and left again, with an edit in between that is never sent. -/
def unsent : List Step :=
  [.apply (Inbound.notice (.joinedSession 7 ⟨[3]⟩ ⟨some ⟨"plan"⟩, [], []⟩)).toFrame,
    .push (.retitle "a")]

/-- What is taken after a session may be left from it. -/
theorem queue_leaks :
    ¬ ∀ ids before frame, EndsSession ((create ids).run before) frame →
      let q := (((create ids).run before).apply frame).1
      ∀ steps, ReturnsTaken [] q steps → ∀ f ∈ gather taken q steps, f ∈ gather queued q steps := by
  intro forgets
  let p := (create (.labelled 1)).run unsent
  have leaves : EndsSession p (Inbound.notice .leftSession).toFrame := by
    refine ⟨?_, .notice .leftSession, Inbound.ofFrame_toFrame (by decide), .inl rfl⟩
    exact Option.isSome_iff_ne_none.mp (by decide +kernel)
  have empty := (forgets_iff _).mp (forgets (.labelled 1) unsent _ leaves)
  rw [outbound_apply] at empty
  have one : p.outbound.length = 1 := by decide +kernel
  exact absurd one (by rw [empty]; decide)

end Whiteboard.Participant
