import Whiteboard.Proofs.Sync.Invalidation

/-!
# The log decides nothing

The client writes its log and never reads it. So what becomes of an arriving frame does not depend
on the log, as long as the listeners do not read it either.
-/

namespace Whiteboard

variable {C L M : Type}

/-- The client with an empty log. -/
def Client.unlogged (c : Client C L M) : Client C L M := { c with log := [] }

namespace Action

variable {α β : Type} {x : Action C L M α} {f : α → Action C L M β} {c d : Client C L M}

/-- What becomes of an action, apart from the log. -/
def apparent (x : Action C L M α) (c : Client C L M) : Except Fault α × Client C L M :=
  match x c with
  | .ok a c' => (.ok a, c'.unlogged)
  | .error fault c' => (.error fault, c'.unlogged)

/-- What becomes of the action does not depend on the log. -/
def IgnoresLog (x : Action C L M α) : Prop :=
  ∀ ⦃c d : Client C L M⦄, c.unlogged = d.unlogged → x.apparent c = x.apparent d

theorem unlogged_after (x : Action C L M α) (c : Client C L M) :
    (x.after c).unlogged = (x.apparent c).2 := by
  rw [after, apparent]
  cases x c <;> rfl

/-- Whether an action comes to a fault can be seen without the log. -/
theorem ok_iff_apparent : (∃ a c', x c = .ok a c') ↔ ∃ a, (x.apparent c).1 = .ok a := by
  unfold apparent
  cases x c with
  | ok a c' => exact ⟨fun _ => ⟨a, rfl⟩, fun _ => ⟨a, c', rfl⟩⟩
  | error fault c' => exact ⟨nofun, nofun⟩

theorem apparent_bind (hf : ∀ a, IgnoresLog (f a)) (c : Client C L M) :
    (x >>= f).apparent c =
      match x.apparent c with
      | (.ok a, c') => (f a).apparent c'
      | (.error fault, c') => (.error fault, c') := by
  unfold apparent
  cases h : x c with
  | ok a c' =>
    rw [bind_of_ok h]
    exact hf a rfl
  | error fault c' => rw [bind_of_error h]

protected theorem IgnoresLog.bind (hx : IgnoresLog x) (hf : ∀ a, IgnoresLog (f a)) :
    IgnoresLog (x >>= f) := by
  intro c d same
  rw [apparent_bind hf, apparent_bind hf, hx same]

protected theorem IgnoresLog.pure (a : α) : IgnoresLog (pure a : Action C L M α) := by
  intro c d same
  show (Except.ok a, c.unlogged) = (Except.ok a, d.unlogged)
  rw [same]

protected theorem IgnoresLog.throw (fault : Fault) :
    IgnoresLog (throw fault : Action C L M α) := by
  intro c d same
  show (Except.error fault, c.unlogged) = (Except.error fault, d.unlogged)
  rw [same]

protected theorem IgnoresLog.get_bind {g : Client C L M → Action C L M β}
    (unread : ∀ c, g c.unlogged = g c) (hg : ∀ c, IgnoresLog (g c)) : IgnoresLog (get >>= g) := by
  intro c d same
  show (g c).apparent c = (g d).apparent d
  rw [← unread c, ← unread d, same]
  exact hg _ same

theorem IgnoresLog.modifyGet {step : Client C L M → α × Client C L M}
    (unread : ∀ c, ((step c).1, (step c).2.unlogged) =
      ((step c.unlogged).1, (step c.unlogged).2.unlogged)) :
    IgnoresLog (modifyGet step : Action C L M α) := by
  intro c d same
  show (Except.ok (step c).1, (step c).2.unlogged) = (Except.ok (step d).1, (step d).2.unlogged)
  have left := Prod.ext_iff.mp (unread c)
  have right := Prod.ext_iff.mp (unread d)
  dsimp only at left right
  rw [left.1, left.2, right.1, right.2, same]

end Action

/-- Listeners that do not read the log. -/
def Habits.IgnoreLog (habits : Habits L M) : Prop :=
  ∀ listener notice c, habits listener notice c.unlogged = habits listener notice c

namespace Client

open Whiteboard.Action

section Primitives

variable {α : Type}

theorem note_ignoresLog (notes : List Log.Note) :
    IgnoresLog (note notes : Action C L M Unit) := .modifyGet fun _ => rfl

theorem onCore_ignoresLog (step : C → C × α) : IgnoresLog (onCore step : Action C L M α) :=
  .modifyGet fun _ => rfl

theorem onFeed_ignoresLog (step : Feed → Feed × α) : IgnoresLog (onFeed step : Action C L M α) :=
  .modifyGet fun _ => rfl

theorem onReplies_ignoresLog (step : Replies → Replies × α) :
    IgnoresLog (onReplies step : Action C L M α) := .modifyGet fun _ => rfl

theorem resolve_ignoresLog (id : CommandId) (outcome : Outcome) :
    IgnoresLog (resolve id outcome : Action C L M Bool) :=
  .get_bind (fun _ => rfl) fun _ =>
    (note_ignoresLog _).bind fun _ => onReplies_ignoresLog _

end Primitives

section Listeners

variable {react : Reaction C L M}

theorem callObjectListeners_ignoresLog
    (called : ∀ listener notice, IgnoresLog (react listener notice)) (object : ObjectId)
    (listeners : List (ListenerId × L)) :
    IgnoresLog (callObjectListeners react object listeners) := by
  induction listeners with
  | nil => exact .pure 0
  | cons entry rest ih =>
    refine .get_bind (fun _ => rfl) fun c => ?_
    split
    · exact (called entry.2 _).bind fun _ => ih.bind fun calls => .pure (calls + 1)
    · exact ih

theorem notifyObjects_ignoresLog
    (called : ∀ listener notice, IgnoresLog (react listener notice)) (objects : List ObjectId) :
    IgnoresLog (notifyObjects react objects) := by
  induction objects with
  | nil => exact .pure 0
  | cons object rest ih =>
    refine .get_bind (fun _ => rfl) fun c => ?_
    exact (callObjectListeners_ignoresLog called object _).bind fun calls =>
      ih.bind fun others => .pure (calls + others)

theorem callRosterListeners_ignoresLog
    (called : ∀ listener notice, IgnoresLog (react listener notice)) (roster : Roster)
    (listeners : List (ListenerId × L)) :
    IgnoresLog (callRosterListeners react roster listeners) := by
  induction listeners with
  | nil => exact .pure ()
  | cons entry rest ih =>
    refine .get_bind (fun _ => rfl) fun c => ?_
    split
    · exact (called entry.2 _).bind fun _ => ih
    · exact ih

variable [Core C]

theorem publishRoster_ignoresLog
    (called : ∀ listener notice, IgnoresLog (react listener notice)) :
    IgnoresLog (publishRoster react) := by
  refine (onCore_ignoresLog _).bind fun change => ?_
  cases change with
  | none => exact .pure none
  | some roster =>
    have notify : IgnoresLog (notifyRoster react roster) :=
      (note_ignoresLog _).bind fun _ => .get_bind (fun _ => rfl) fun c =>
        callRosterListeners_ignoresLog called roster _
    exact notify.bind fun _ => .pure (some roster)

theorem spread_ignoresLog (called : ∀ listener notice, IgnoresLog (react listener notice))
    (frame : Frame) (origin : Origin) (event : SystemEvent) :
    IgnoresLog (spread react frame origin event) := by
  have apply : IgnoresLog (applyFrame frame : Action C L M (Except CoreError Unit)) :=
    .get_bind (fun _ => rfl) fun _ => (note_ignoresLog _).bind fun _ => onCore_ignoresLog _
  have publish : IgnoresLog (do
      let _ ← publishObjects react
      let _ ← publishRoster react
      onFeed fun feed => (feed.send ⟨origin, event⟩, ()) : Action C L M Unit) := by
    have objects : IgnoresLog (publishObjects react) :=
      (onCore_ignoresLog _).bind fun objects => notifyObjects_ignoresLog called objects
    exact objects.bind fun _ => (publishRoster_ignoresLog called).bind fun _ =>
      onFeed_ignoresLog _
  refine apply.bind fun result => ?_
  cases result with
  | ok done => exact publish
  | error e => exact (note_ignoresLog _).bind fun _ => publish

theorem route_ignoresLog (called : ∀ listener notice, IgnoresLog (react listener notice))
    (frame : Frame) : IgnoresLog (route react frame) := by
  rw [route_eq]
  cases Inbound.ofFrame frame with
  | error e =>
    dsimp only
    rw [dropFrame]
    cases e.fault? with
    | some fault => exact .throw fault
    | none => exact (note_ignoresLog _).bind fun _ => .pure RouteOutcome.dropped
  | ok message =>
    cases message with
    | notice event => exact (spread_ignoresLog called frame .system event).bind fun _ => .pure _
    | reply id outcome =>
      have answer := (resolve_ignoresLog (C := C) (L := L) (M := M) id outcome).bind
        fun awaited => .pure (RouteOutcome.routed (.myself id) awaited)
      cases outcome with
      | refused refusal => exact answer
      | event event =>
        exact (spread_ignoresLog called frame (.myself id) event).bind fun _ => answer

end Listeners

variable {habits : Habits L M}

theorem reaction_ignoresLog (looking : habits.OnlyLook) (unread : habits.IgnoreLog) (listener : L)
    (notice : Notice) : IgnoresLog (habits.reaction listener notice) := by
  have write : IgnoresLog (writeCall listener notice : Action Participant L (Diary L M) Unit) :=
    .modifyGet fun _ => rfl
  refine write.bind fun _ => .get_bind (fun c => ?_) fun c => ?_
  · rw [unread listener notice c]
  · have within := looking listener notice c
    cases conduct : habits listener notice c with
    | finish own => exact .modifyGet fun _ => rfl
    | fail fault => exact .throw fault
    | perform op others next =>
      rw [conduct] at within
      exact absurd within.1 id

end Client

end Whiteboard
