import Whiteboard.Proofs.Sync.Operation

/-!
# What listeners remember decides nothing

The client keeps what its listeners remember, and never looks at it. So if listeners act alike but
for what they remember, then the client does the same with the ones as with the others. In
particular more can be remembered behind their backs.

This is so for every action of the client, since it is so for the steps that actions are made of,
and for one action after another.
-/

namespace Whiteboard

variable {C L M N : Type}

/-- The same client, with something else made of what its listeners remember. -/
def Client.project (f : N → M) (c : Client C L N) : Client C L M := { c with memory := f c.memory }

namespace Action

variable {α β : Type} {f : N → M}

/-- The end of an action, with something else made of what the listeners remember. -/
def projected (f : N → M) :
    EStateM.Result Fault (Client C L N) α → EStateM.Result Fault (Client C L M) α
  | .ok a c => .ok a (c.project f)
  | .error fault c => .error fault (c.project f)

/-- The second action does what the first one does, with something else made of what the listeners
remember. -/
def Projects (f : N → M) (x' : Action C L N α) (x : Action C L M α) : Prop :=
  ∀ c, x (c.project f) = projected f (x' c)

namespace Projects

variable {x' : Action C L N α} {x : Action C L M α}

protected theorem pure (a : α) : Projects (C := C) (L := L) f (pure a) (pure a) := fun _ => rfl

protected theorem throw (fault : Fault) :
    Projects (C := C) (L := L) (α := α) f (throw fault) (throw fault) := fun _ => rfl

protected theorem bind {g' : α → Action C L N β} {g : α → Action C L M β} (first : Projects f x' x)
    (rest : ∀ a, Projects f (g' a) (g a)) : Projects f (x' >>= g') (x >>= g) := by
  intro c
  have same := first c
  cases h : x' c with
  | ok a d =>
    rw [h] at same
    rw [bind_of_ok h, bind_of_ok same]
    exact rest a d
  | error fault d =>
    rw [h] at same
    rw [bind_of_error h, bind_of_error same]
    rfl

protected theorem get_bind {g' : Client C L N → Action C L N β}
    {g : Client C L M → Action C L M β}
    (h : ∀ c, g (c.project f) (c.project f) = projected f (g' c c)) :
    Projects f (get >>= g') (get >>= g) := h

theorem after_eq (h : Projects f x' x) (c : Client C L N) :
    x.after (c.project f) = (x'.after c).project f := by
  rw [after, h c, after]
  cases x' c <;> rfl

end Projects

end Action

namespace Client

open Whiteboard.Action

variable {f : N → M}

/-! ### Commands -/

theorem sendExpecting_projects (frame : Frame) (id : CommandId) :
    Projects f (sendExpecting (C := C) (L := L) frame id) (sendExpecting frame id) := by
  refine .bind (fun _ => rfl) fun registered => ?_
  cases registered with
  | error e => exact .pure (Except.error e)
  | ok reply =>
    refine .bind (fun _ => rfl) fun sent => ?_
    cases sent with
    | ok done => exact .pure (Except.ok reply)
    | error e => exact .bind (fun _ => rfl) fun _ _ => rfl

theorem submit_projects [Core C] (command : Command) (mode : ReplyMode) :
    Projects f (submit (C := C) (L := L) command mode) (submit command mode) := by
  intro c
  let encoded : Client C L N :=
    { c with
      core := (Core.encode c.core command).1
      log := c.log ++ c.submitNotes command }
  have core : (c.project f).core = c.core := rfl
  rw [submit_encode, submit_encode, core]
  cases (Core.encode c.core command).2 with
  | error e => rfl
  | ok frame =>
    cases mode with
    | expect =>
      exact ((sendExpecting_projects frame (Core.lastId encoded.core)).bind fun reply =>
        .pure (reply.map some)) encoded
    | ignore =>
      have sent : Projects f (onLink (C := C) (L := L) (·.send frame)) (onLink (·.send frame)) :=
        fun _ => rfl
      refine (sent.bind fun answer => ?_) encoded
      cases answer with
      | ok done => exact fun _ => rfl
      | error e => exact fun _ => rfl

theorem request_projects [Core C] (command : Command) :
    Projects f (request (C := C) (L := L) command) (request command) := by
  refine (submit_projects command .expect).bind fun result => ?_
  rcases result with e | _ | reply
  · exact .pure (Except.error e)
  · exact fun _ => rfl
  · exact fun _ => rfl

theorem sendFragment_projects [Core C] (segment : Fragment) :
    Projects f (sendFragment (C := C) (L := L) segment) (sendFragment segment) :=
  (submit_projects _ .ignore).bind fun result => .pure (result.map fun _ => ())

theorem advance_projects (milliseconds : Nat) :
    Projects f (advance (C := C) (L := L) milliseconds) (advance milliseconds) := by
  refine .get_bind fun c => ?_
  have now : (c.project f).now = c.now := rfl
  rw [now]
  cases Clock.advance c.now milliseconds with
  | error fault => rfl
  | ok now => rfl

/-! ### What is queued -/

theorem drainFrom_projects [Core C] (limit : Nat) : ∀ sent,
    Projects f (drainFrom (C := C) (L := L) limit sent) (drainFrom limit sent) := by
  induction limit with
  | zero => exact fun sent => .pure (Except.ok sent)
  | succ limit ih =>
    intro sent
    refine .bind (fun _ => rfl) fun oldest => ?_
    cases oldest with
    | none => exact .pure (Except.ok sent)
    | some frame =>
      refine .bind (fun _ => rfl) fun offered => ?_
      cases offered with
      | ok done => exact ih (sent + 1)
      | error e => exact fun _ => rfl

theorem drain_projects [Core C] : Projects f (drain (C := C) (L := L)) drain := by
  refine .get_bind fun c => ?_
  refine ((drainFrom_projects (Core.queued c.core) 0).bind fun result => ?_) c
  cases result with
  | error e => exact .pure (Except.error e)
  | ok sent =>
    dsimp only
    split
    · exact fun _ => rfl
    · exact .pure (Except.ok sent)

/-! ### The listeners -/

section Listeners

variable {react' : Reaction C L N} {react : Reaction C L M}

theorem callObjectListeners_projects {object : ObjectId}
    (called : ∀ listener,
      Projects f (react' listener (.object object)) (react listener (.object object)))
    (listeners : List (ListenerId × L)) :
    Projects f (callObjectListeners react' object listeners)
      (callObjectListeners react object listeners) := by
  induction listeners with
  | nil => exact .pure 0
  | cons entry rest ih =>
    refine .get_bind fun c => ?_
    have registry : (c.project f).objectWatchers = c.objectWatchers := rfl
    rw [registry]
    by_cases registered : c.objectWatchers.isRegistered object entry.1
    · rw [if_pos registered, if_pos registered]
      exact ((called entry.2).bind fun _ => ih.bind fun calls => .pure (calls + 1)) c
    · rw [if_neg registered, if_neg registered]
      exact ih c

theorem callRosterListeners_projects {roster : Roster}
    (called : ∀ listener,
      Projects f (react' listener (.roster roster)) (react listener (.roster roster)))
    (listeners : List (ListenerId × L)) :
    Projects f (callRosterListeners react' roster listeners)
      (callRosterListeners react roster listeners) := by
  induction listeners with
  | nil => exact .pure ()
  | cons entry rest ih =>
    refine .get_bind fun c => ?_
    have registry : (c.project f).rosterWatchers = c.rosterWatchers := rfl
    rw [registry]
    by_cases registered : c.rosterWatchers.isRegistered entry.1
    · rw [if_pos registered, if_pos registered]
      exact ((called entry.2).bind fun _ => ih) c
    · rw [if_neg registered, if_neg registered]
      exact ih c

variable (called : ∀ listener notice, Projects f (react' listener notice) (react listener notice))

include called

theorem notifyObjects_projects (objects : List ObjectId) :
    Projects f (notifyObjects react' objects) (notifyObjects react objects) := by
  induction objects with
  | nil => exact .pure 0
  | cons object rest ih =>
    refine .get_bind fun c => ?_
    have first := callObjectListeners_projects (called · (.object object))
      (c.objectWatchers.of object).toList
    exact (first.bind fun calls => ih.bind fun others => .pure (calls + others)) c

variable [Core C]

theorem publishObjects_projects : Projects f (publishObjects react') (publishObjects react) :=
  .bind (fun _ => rfl) fun objects => notifyObjects_projects called objects

theorem publishRoster_projects : Projects f (publishRoster react') (publishRoster react) := by
  refine .bind (fun _ => rfl) fun change => ?_
  cases change with
  | none => exact .pure none
  | some roster =>
    have notify : Projects f (notifyRoster react' roster) (notifyRoster react roster) := by
      refine .bind (fun _ => rfl) fun _ => .get_bind fun c => ?_
      exact callRosterListeners_projects (called · (.roster roster)) _ c
    exact notify.bind fun _ => .pure (some roster)

theorem pushDocument_projects (edit : Edit) :
    Projects f (pushDocument react' edit) (pushDocument react edit) := by
  refine .bind (fun _ => rfl) fun pushed => ?_
  cases pushed with
  | error e => exact fun _ => rfl
  | ok done => exact (publishObjects_projects called).bind fun _ => drain_projects

/-! ### Inbound frames -/

theorem routeBy_projects {delivery' : Delivery C L N} {delivery : Delivery C L M}
    (broadcast : ∀ routed, Projects f (delivery'.broadcast routed) (delivery.broadcast routed))
    (settle : ∀ id outcome, Projects f (delivery'.settle id outcome) (delivery.settle id outcome))
    (frame : Frame) :
    Projects f (routeBy delivery' react' frame) (routeBy delivery react frame) := by
  have spread : ∀ origin event, Projects f (spreadBy delivery' react' frame origin event)
      (spreadBy delivery react frame origin event) := by
    intro origin event
    have rest : Projects f
        (do
          let _ ← publishObjects react'
          let _ ← publishRoster react'
          delivery'.broadcast ⟨origin, event⟩)
        (do
          let _ ← publishObjects react
          let _ ← publishRoster react
          delivery.broadcast ⟨origin, event⟩) :=
      (publishObjects_projects called).bind fun _ => (publishRoster_projects called).bind fun _ =>
        broadcast _
    refine .bind (fun _ => rfl) fun applied => ?_
    cases applied with
    | ok done => exact rest
    | error e => exact .bind (fun _ => rfl) fun _ => rest
  rw [routeBy, routeBy]
  cases Inbound.ofFrame frame with
  | error e =>
    dsimp only [dropFrame]
    cases e.fault? with
    | some fault => exact .throw fault
    | none => exact fun _ => rfl
  | ok message =>
    cases message with
    | reply id outcome =>
      have conclude : Projects f
          (do return RouteOutcome.routed (.myself id) (← delivery'.settle id outcome))
          (do return RouteOutcome.routed (.myself id) (← delivery.settle id outcome)) :=
        (settle id outcome).bind fun _ => .pure _
      dsimp only
      cases (Inbound.reply id outcome).event? with
      | none => exact conclude
      | some event => exact (spread _ event).bind fun _ => conclude
    | notice event => exact (spread _ event).bind fun _ => .pure _

end Listeners

end Client

end Whiteboard
