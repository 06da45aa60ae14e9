import Whiteboard.Proofs.Participant.Effects

/-!
# Runs of a participant

Whoever owns a participant encodes commands, applies frames, makes edits, and takes what is
waiting, in any order. What the steps of a run bring forth is gathered step by step, each time from
the participant as it is then.

## Main definitions

- `Step`, `Participant.step`, `Participant.run` — what can be done with a participant
- `Participant.gather` — what the steps of a run bring forth
- `Step.taken`, `Step.queued` — the frames that leave the queue, and those that are new in it
- `Step.made`, `Step.commands` — the frames that are made, and the commands in them
-/

namespace Whiteboard

/-- What can be done with a participant. -/
inductive Participant.Step
  | encode (command : Command)
  | apply (frame : Frame)
  | push (edit : Edit)
  | takeInvalidated
  | takeRosterChange
  | takeOutbound
  | requeue (frame : Frame)
  deriving DecidableEq

namespace Participant

/-- The participant after a step. -/
def step (p : Participant) : Step → Participant
  | .encode command => (p.encode command).1
  | .apply frame => (p.apply frame).1
  | .push edit => (p.push edit).1
  | .takeInvalidated => p.takeInvalidated.1
  | .takeRosterChange => p.takeRosterChange.1
  | .takeOutbound => p.takeOutbound.1
  | .requeue frame => p.requeue frame

def run (p : Participant) (steps : List Step) : Participant := steps.foldl step p

/-- What all steps of a run bring forth, in order. -/
def gather {α : Type} (f : Step → Participant → List α) : Participant → List Step → List α
  | _, [] => []
  | p, s :: rest => f s p ++ gather f (p.step s) rest

namespace Step

/-- The frame that a step takes from the queue, if it takes one. -/
def taken (s : Step) (p : Participant) : List Frame :=
  match s with
  | takeOutbound => p.takeOutbound.2.toList
  | _ => []

/-- The frames that a step adds to the end of the queue. -/
def queued (s : Step) (p : Participant) : List Frame :=
  match s with
  | push edit => (p.push edit).1.outbound.drop p.outbound.length
  | _ => []

/-- The frames that a step makes, whether they are handed out or queued. -/
def made (s : Step) (p : Participant) : List Frame :=
  match s with
  | encode command => (p.encode command).2.toOption.toList
  | _ => s.queued p

/-- The commands for which a step makes frames. An edit inside a session becomes a transaction. -/
def commands (s : Step) (p : Participant) : List Command :=
  match s with
  | encode command => [command]
  | push edit =>
    (p.session?.map fun session =>
      .session (.transaction (session.document.transactionFor edit p.ids.draw.1))).toList
  | _ => []

end Step

@[simp] theorem run_nil (p : Participant) : p.run [] = p := rfl

@[simp] theorem run_cons (p : Participant) (s : Step) (rest : List Step) :
    p.run (s :: rest) = (p.step s).run rest := rfl

@[simp] theorem gather_nil {α : Type} (f : Step → Participant → List α) (p : Participant) :
    gather f p [] = [] := rfl

@[simp] theorem gather_cons {α : Type} (f : Step → Participant → List α) (p : Participant)
    (s : Step) (rest : List Step) :
    gather f p (s :: rest) = f s p ++ gather f (p.step s) rest := rfl

/-- Outside of every session an edit queues nothing. -/
theorem queued_push_of_none {p : Participant} (outside : p.session? = none) (edit : Edit) :
    Step.queued (.push edit) p = [] := by
  simp [Step.queued, push, outside, pushHome, invalidate]

/-- Inside a session an edit queues the frame of its transaction, with the next number. -/
theorem queued_push_of_some {p : Participant} {session : Session}
    (inside : p.session? = some session) (edit : Edit) :
    Step.queued (.push edit) p = [Request.toFrame ⟨p.nextId,
      .session (.transaction (session.document.transactionFor edit p.ids.draw.1))⟩] := by
  simp [Step.queued, push, inside, pushSession, setDocument, invalidate]

theorem outbound_push (p : Participant) (edit : Edit) :
    (p.push edit).1.outbound = p.outbound ++ Step.queued (.push edit) p := by
  cases h : p.session? with
  | none => simp [queued_push_of_none h, push, h, pushHome, invalidate]
  | some session =>
    rw [queued_push_of_some h, push, h]
    rfl

end Participant

end Whiteboard
