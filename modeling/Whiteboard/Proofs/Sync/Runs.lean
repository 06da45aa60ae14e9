import Whiteboard.Proofs.Sync.Conduct

/-!
# Runs without faults

An operation comes to a fault when a listener fails, and on its own account only if it is given
too much. What comes after a fault depends on where the operation broke off, so that some
properties hold only of runs in which no operation did.

Routing a stream of frames is routing its frames one after the other. What is shown of every single
operation therefore need not be shown of streams.
-/

namespace Whiteboard

namespace Client

open Whiteboard.Action

variable {L M : Type} {P : Observed L M → Prop} {habits : Habits L M} {c : Observed L M}
  {op : Operation L} {ops rest : List (Operation L)}

/-- The operation comes to no fault. -/
def Performs (habits : Habits L M) (c : Observed L M) (op : Operation L) : Prop :=
  ∃ answer d, op.performNoted habits.reaction c = .ok answer d

/-- Operations that come to no fault, one after the other. -/
def Unbroken (habits : Habits L M) : Observed L M → List (Operation L) → Prop
  | _, [] => True
  | c, op :: rest => Performs habits c op ∧ Unbroken habits (operateNoted habits c op) rest

instance : Decidable (Performs habits c op) :=
  match h : op.performNoted habits.reaction c with
  | .ok answer d => isTrue ⟨answer, d, h⟩
  | .error _ _ => isFalse fun ⟨_, _, performs⟩ => nomatch h.symm.trans performs

instance decidableUnbroken (habits : Habits L M) :
    (c : Observed L M) → (ops : List (Operation L)) → Decidable (Unbroken habits c ops)
  | _, [] => isTrue trivial
  | c, op :: rest =>
    have := decidableUnbroken habits (operateNoted habits c op) rest
    inferInstanceAs (Decidable (_ ∧ _))

theorem operateNoted_route (habits : Habits L M) (c : Observed L M) (frame : Frame) :
    operateNoted habits c (.route frame) = (route habits.reaction frame).after c :=
  after_bind fun _ _ => ⟨_, rfl⟩

/-- Routing frames in one operation is routing them one after the other, up to a fault. -/
theorem routeAll_eq (habits : Habits L M) (c : Observed L M) (frames : List Frame) :
    ∃ done, done <+: frames ∧
      (routeAll habits.reaction frames).after c = operateAllNoted habits c (done.map .route) ∧
      ∀ d, routeAll habits.reaction frames c = .ok () d →
        done = frames ∧ Unbroken habits c (frames.map .route) := by
  induction frames generalizing c with
  | nil => exact ⟨[], List.nil_prefix, rfl, fun _ _ => ⟨rfl, trivial⟩⟩
  | cons frame others ih =>
    have single := operateNoted_route habits c frame
    rw [routeAll]
    cases hc : route habits.reaction frame c with
    | error fault m =>
      refine ⟨[frame], List.prefix_append _ _, ?_, fun d ended => ?_⟩
      · rw [after_bind_of_error hc]
        show m = operateNoted habits c (.route frame)
        rw [single, after_of_error hc]
      · exact absurd ended (bind_ne_ok hc)
    | ok outcome m =>
      rw [after_of_ok hc] at single
      obtain ⟨done, first_done, same, all⟩ := ih m
      refine ⟨frame :: done, (List.prefix_cons_inj frame).mpr first_done, ?_, fun d ended => ?_⟩
      · rw [after_bind_of_ok hc, same, ← single]
        rfl
      · rw [bind_of_ok hc] at ended
        obtain ⟨rfl, unbroken⟩ := all d ended
        refine ⟨rfl, ⟨_, m, bind_of_ok hc _⟩, ?_⟩
        rw [single]
        exact unbroken

/-- A stream of frames is routed one frame after the other, up to a fault. -/
theorem run_eq (habits : Habits L M) (c : Observed L M) (frames : List Frame) :
    ∃ done, done <+: frames ∧
      (operateAllNoted habits c (done.map .route)).Matches
        (operateNoted habits c (.run frames)) ∧
      (Performs habits c (.run frames) →
        done = frames ∧ Unbroken habits c (frames.map .route)) := by
  obtain ⟨done, first_done, same, all⟩ := routeAll_eq habits c frames
  have ending : ∀ m : Observed L M, ∃ d, (do
      let abandoned ← onReplies Replies.abandonAll
      note [.streamClosed frames.length abandoned] : Action Participant L (Diary L M) Unit) m =
        .ok () d ∧ m.Matches d := fun m => ⟨_, rfl, rfl, rfl, rfl, rfl, rfl⟩
  have kept : operateNoted habits c (.run frames) = (run habits.reaction frames).after c :=
    after_bind fun _ m => ⟨_, rfl⟩
  refine ⟨done, first_done, ?_, fun ⟨answer, d, ended⟩ => ?_⟩
  · rw [kept, ← same, run]
    cases hc : routeAll habits.reaction frames c with
    | error fault m =>
      rw [after_bind_of_error hc, after_of_error hc]
      exact ⟨rfl, rfl, rfl, rfl, rfl⟩
    | ok done m =>
      obtain ⟨d, hd, agree⟩ := ending m
      rw [after_bind_of_ok hc, after_of_ok hc, after_of_ok hd]
      exact agree
  · cases hc : routeAll habits.reaction frames c with
    | ok _ m => exact all m hc
    | error fault m =>
      have broken : run habits.reaction frames c = .error fault m := bind_of_error hc _
      have performed : (run habits.reaction frames >>= fun _ => pure Answer.done) c =
          .ok answer d := ended
      exact absurd performed (bind_ne_ok broken)

/-- What single operations preserve that come to no fault, runs of them preserve. A stream of
frames need not be looked at, since it is a run itself. -/
theorem Unbroken.keeps (aside : ∀ {c}, P c → ∀ d, c.Matches d → P d)
    (step : ∀ {c op}, P c → (∀ frames, op ≠ .run frames) → Performs habits c op →
      P (operateNoted habits c op))
    (h : Unbroken habits c ops) (hc : P c) : P (operateAllNoted habits c ops) := by
  have routes : ∀ (frames : List Frame) c, Unbroken habits c (frames.map .route) → P c →
      P (operateAllNoted habits c (frames.map .route)) := by
    intro frames
    induction frames with
    | nil => exact fun _ _ hc => hc
    | cons frame others ih => exact fun c h hc => ih _ h.2 (step hc nofun h.1)
  induction ops generalizing c with
  | nil => exact hc
  | cons op others ih =>
    refine ih h.2 ?_
    by_cases stream : ∃ frames, op = .run frames
    · obtain ⟨frames, rfl⟩ := stream
      obtain ⟨done, -, same, all⟩ := run_eq habits c frames
      obtain ⟨rfl, unbroken⟩ := all h.1
      exact aside (routes _ c unbroken hc) _ same
    · exact step hc (fun frames same => stream ⟨frames, same⟩) h.1

end Client

end Whiteboard
