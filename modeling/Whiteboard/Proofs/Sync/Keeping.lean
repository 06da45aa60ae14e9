import Whiteboard.Proofs.Sync.Operation

/-!
# What the client keeps while it calls listeners

Listeners may do anything, so little can be said of the state in which a pass over them ends. But
what the client does between two calls is fixed: what every single step of it preserves, and every
call of a listener, is preserved by the whole pass, also when a fault ends it early.

## Main definitions

- `Action.Keeps` — an action preserves a property of the client
- `Action.Mirrors` — two actions do the same wherever the property holds, and preserve it
- `Client.Matches` — two clients have the same participant, link, listeners and memory
- `Client.announce` — what follows once the event of a frame is applied
-/

namespace Whiteboard

variable {C L M : Type}

namespace Action

variable {α β : Type}

/-- What holds of the client before the action holds after it, whatever becomes of the action. -/
def Keeps (P : Client C L M → Prop) (x : Action C L M α) : Prop := ∀ c, P c → P (x.after c)

/-- Wherever `P` holds, the two actions do the same, and `P` holds after them. -/
def Mirrors (P : Client C L M → Prop) (x y : Action C L M α) : Prop :=
  ∀ c, P c → x c = y c ∧ P (x.after c)

variable {P : Client C L M → Prop} {x y : Action C L M α} {f g : α → Action C L M β}

theorem after_bind_of_ok {a : α} {c c' : Client C L M} (h : x c = .ok a c') :
    (x >>= f).after c = (f a).after c' := by
  rw [after, bind_of_ok h, after]

theorem after_bind_of_error {fault : Fault} {c c' : Client C L M} (h : x c = .error fault c') :
    (x >>= f).after c = c' := after_of_error (bind_of_error h f)

theorem bind_ne_ok {b : β} {fault : Fault} {c c' d : Client C L M} (h : x c = .error fault c') :
    (x >>= f) c ≠ .ok b d := by
  intro ended
  rw [bind_of_error h] at ended
  cases ended

/-- Whatever returns at the end did so in between. -/
theorem ok_of_bind {b : β} {c d : Client C L M} (h : (x >>= f) c = .ok b d) :
    ∃ a c₁, x c = .ok a c₁ ∧ f a c₁ = .ok b d := by
  cases first : x c with
  | ok a c₁ => exact ⟨a, c₁, rfl, (bind_of_ok first f).symm.trans h⟩
  | error fault c₁ => exact absurd h (bind_ne_ok first)

theorem bind_of_eq {c c' : Client C L M} (h : x c = y c')
    (f : α → Action C L M β) : (x >>= f) c = (y >>= f) c' := by
  show EStateM.bind x f c = EStateM.bind y f c'
  rw [EStateM.bind, EStateM.bind, h]

theorem after_get_bind (g : Client C L M → Action C L M β) (c : Client C L M) :
    (get >>= g).after c = (g c).after c := rfl

theorem Keeps.mirrors (h : Keeps P x) : Mirrors P x x := fun c hc => ⟨rfl, h c hc⟩

theorem Mirrors.keeps (h : Mirrors P x y) : Keeps P x := fun c hc => (h c hc).2

/-- Where two actions do the same and lead to `P`, what mirrors each other may follow. -/
theorem mirrors_after_bind {c : Client C L M} (same : x c = y c) (middle : P (x.after c))
    (hf : ∀ a, Mirrors P (f a) (g a)) :
    (x >>= f) c = (y >>= g) c ∧ P ((x >>= f).after c) := by
  cases hx : x c with
  | ok a d =>
    rw [after_of_ok hx] at middle
    rw [bind_of_ok hx, bind_of_ok (same.symm.trans hx), after_bind_of_ok hx]
    exact hf a d middle
  | error fault d =>
    rw [after_of_error hx] at middle
    rw [bind_of_error hx, bind_of_error (same.symm.trans hx), after_bind_of_error hx]
    exact ⟨rfl, middle⟩

theorem keeps_after_bind {c : Client C L M} (middle : P (x.after c)) (hf : ∀ a, Keeps P (f a)) :
    P ((x >>= f).after c) := (mirrors_after_bind rfl middle fun a => (hf a).mirrors).2

protected theorem Mirrors.bind (hx : Mirrors P x y) (hf : ∀ a, Mirrors P (f a) (g a)) :
    Mirrors P (x >>= f) (y >>= g) := fun c h => mirrors_after_bind (hx c h).1 (hx c h).2 hf

protected theorem Keeps.bind (hx : Keeps P x) (hf : ∀ a, Keeps P (f a)) : Keeps P (x >>= f) :=
  fun c h => keeps_after_bind (hx c h) hf

protected theorem Mirrors.pure (a : α) : Mirrors P (pure a) (pure a) := fun _ h => ⟨rfl, h⟩

protected theorem Keeps.pure (a : α) : Keeps P (pure a : Action C L M α) := fun _ h => h

protected theorem Keeps.throw (fault : Fault) : Keeps P (throw fault : Action C L M α) :=
  fun _ h => h

protected theorem Mirrors.get_bind {g g' : Client C L M → Action C L M β}
    (h : ∀ c, P c → g c c = g' c c ∧ P ((g c).after c)) :
    Mirrors P (get >>= g) (get >>= g') := h

protected theorem Keeps.get_bind {g : Client C L M → Action C L M β}
    (h : ∀ c, P c → P ((g c).after c)) : Keeps P (get >>= g) := h

end Action

/-- The second client has the participant, the link, the listeners and the memory of the first. -/
structure Client.Matches (c c' : Client C L M) : Prop where
  core : c'.core = c.core
  link : c'.link = c.link
  objectWatchers : c'.objectWatchers = c.objectWatchers
  rosterWatchers : c'.rosterWatchers = c.rosterWatchers
  memory : c'.memory = c.memory

/-! ### Notes

The log warns of an edit that begins before the invalidations of an earlier one were taken. Nothing
but an edit brings this warning.
-/

namespace Replies

variable (r : Replies)

theorem undrained_not_mem_resolveNotes (id : CommandId) : .undrained ∉ r.resolveNotes id := by
  rw [resolveNotes]
  cases (r.pending[id]?).bind fun box => r.boxes[box]? with
  | none => exact List.not_mem_nil
  | some box =>
    dsimp only
    split <;> simp

theorem undrained_not_mem_expireNotes (wait : Wait) : .undrained ∉ r.expireNotes wait := by
  rw [expireNotes]
  split <;> simp

theorem undrained_not_mem_pollNotes (wait : Wait) (now : Nat) :
    .undrained ∉ r.pollNotes wait now := by
  rw [pollNotes]
  split
  · exact List.not_mem_nil
  · split
    · exact r.undrained_not_mem_expireNotes wait
    · exact List.not_mem_nil

end Replies

namespace Participant

variable (p : Participant)

theorem undrained_not_mem_sessionNotes (s : Session) (e : SessionEvent) :
    .undrained ∉ sessionNotes s e := by
  cases e with
  | rejected tx reason =>
    rw [sessionNotes]
    split <;> simp
  | othersTransaction tx => simp [sessionNotes]
  | _ => exact List.not_mem_nil

theorem undrained_not_mem_messageNotes (message : Inbound) :
    .undrained ∉ p.messageNotes message := by
  have event : ∀ e : SystemEvent, .undrained ∉ p.messageNotes (.notice e) := by
    intro e
    cases e with
    | connected connection => simp [messageNotes]
    | joinedSession id roster snapshot => simp [messageNotes]
    | leftSession => cases h : p.session? <;> simp [messageNotes, h]
    | session e =>
      cases h : p.session? with
      | none => simp [messageNotes, h]
      | some s =>
        simp only [messageNotes, h]
        exact undrained_not_mem_sessionNotes s e
  cases message with
  | notice e => exact event e
  | reply id outcome =>
    cases outcome with
    | refused refusal => simp [messageNotes]
    | event e => exact event e

theorem undrained_not_mem_applyNotes (frame : Frame) : .undrained ∉ p.applyNotes frame := by
  rw [applyNotes]
  cases Inbound.ofFrame frame with
  | ok message => exact p.undrained_not_mem_messageNotes message
  | error e => exact List.not_mem_nil

end Participant

namespace Client

open Whiteboard.Action

variable {P : Client C L M → Prop} {react react' : Reaction C L M}

/-! ### Passes over the listeners

Two clients whose listeners mirror each other are shown to mirror each other themselves. If these
are the same listeners, this means that a pass preserves what every call preserves.
-/

section Mirrors

theorem callObjectListeners_mirrors {object : ObjectId}
    (called : ∀ listener,
      Mirrors P (react listener (.object object)) (react' listener (.object object)))
    (listeners : List (ListenerId × L)) :
    Mirrors P (callObjectListeners react object listeners)
      (callObjectListeners react' object listeners) := by
  induction listeners with
  | nil => exact .pure 0
  | cons entry rest ih =>
    refine .get_bind fun c h => ?_
    by_cases registered : c.objectWatchers.isRegistered object entry.1
    · rw [if_pos registered, if_pos registered]
      exact (called entry.2).bind (fun _ => ih.bind fun calls => .pure (calls + 1)) c h
    · rw [if_neg registered, if_neg registered]
      exact ih c h

theorem notifyObjects_mirrors
    (called : ∀ listener object,
      Mirrors P (react listener (.object object)) (react' listener (.object object)))
    (objects : List ObjectId) :
    Mirrors P (notifyObjects react objects) (notifyObjects react' objects) := by
  induction objects with
  | nil => exact .pure 0
  | cons object rest ih =>
    refine .get_bind fun c h => ?_
    have first := callObjectListeners_mirrors (called · object)
      (c.objectWatchers.of object).toList
    exact first.bind (fun calls => ih.bind fun others => .pure (calls + others)) c h

theorem callRosterListeners_mirrors {roster : Roster}
    (called : ∀ listener,
      Mirrors P (react listener (.roster roster)) (react' listener (.roster roster)))
    (listeners : List (ListenerId × L)) :
    Mirrors P (callRosterListeners react roster listeners)
      (callRosterListeners react' roster listeners) := by
  induction listeners with
  | nil => exact .pure ()
  | cons entry rest ih =>
    refine .get_bind fun c h => ?_
    by_cases registered : c.rosterWatchers.isRegistered entry.1
    · rw [if_pos registered, if_pos registered]
      exact (called entry.2).bind (fun _ => ih) c h
    · rw [if_neg registered, if_neg registered]
      exact ih c h

/-- A pass over the listeners for objects leads to what holds once the objects are taken and is
preserved by every call of a listener. -/
theorem publishObjects_mirrors [Core C] {c : Client C L M}
    (taken : P { c with core := (Core.takeInvalidated c.core).1 })
    (called : ∀ listener object,
      Mirrors P (react listener (.object object)) (react' listener (.object object))) :
    publishObjects react c = publishObjects react' c ∧ P ((publishObjects react).after c) :=
  mirrors_after_bind (x := onCore Core.takeInvalidated) rfl taken fun objects =>
    notifyObjects_mirrors called objects

/-- A pass over the listeners for the roster leads to what holds once the change is taken and is
preserved by every call of a listener. -/
theorem publishRoster_mirrors [Core C] {c : Client C L M}
    (taken : P { c with core := (Core.takeRosterChange c.core).1 })
    (noted : ∀ c n, n ≠ .undrained → P c → P { c with log := c.log ++ [n] })
    (called : ∀ listener roster,
      Mirrors P (react listener (.roster roster)) (react' listener (.roster roster))) :
    publishRoster react c = publishRoster react' c ∧ P ((publishRoster react).after c) := by
  refine mirrors_after_bind (x := onCore Core.takeRosterChange) rfl taken fun change => ?_
  cases change with
  | none => exact .pure none
  | some roster =>
    have written : Keeps P (note [.roster roster]) := fun c h => noted c _ nofun h
    have notify : Mirrors P (notifyRoster react roster) (notifyRoster react' roster) :=
      written.mirrors.bind fun _ => .get_bind fun c h =>
        callRosterListeners_mirrors (called · roster) _ c h
    exact notify.bind fun _ => .pure (some roster)

/-- Routing some frames is mirrored if routing any one of them is. -/
theorem routeAll_mirrors [Core C]
    (routed : ∀ frame, Mirrors P (route react frame) (route react' frame)) (frames : List Frame) :
    Mirrors P (routeAll react frames) (routeAll react' frames) := by
  induction frames with
  | nil => exact .pure ()
  | cons frame rest ih => exact (routed frame).bind fun _ => ih

end Mirrors

section Listeners

theorem publishObjects_keeps [Core C]
    (taken : ∀ c, P c → P { c with core := (Core.takeInvalidated c.core).1 })
    (called : ∀ listener object, Keeps P (react listener (.object object))) :
    Keeps P (publishObjects react) := fun c h =>
  (publishObjects_mirrors (taken c h) fun listener object => (called listener object).mirrors).2

theorem publishRoster_keeps [Core C]
    (taken : ∀ c, P c → P { c with core := (Core.takeRosterChange c.core).1 })
    (noted : ∀ c n, n ≠ .undrained → P c → P { c with log := c.log ++ [n] })
    (called : ∀ listener roster, Keeps P (react listener (.roster roster))) :
    Keeps P (publishRoster react) := fun c h =>
  (publishRoster_mirrors (taken c h) noted fun listener roster =>
    (called listener roster).mirrors).2

theorem routeAll_keeps [Core C] (routed : ∀ frame, Keeps P (route react frame))
    (frames : List Frame) : Keeps P (routeAll react frames) :=
  (routeAll_mirrors (fun frame => (routed frame).mirrors) frames).keeps

theorem advance_keeps (moved : ∀ c now, P c → P { c with now }) (milliseconds : Nat) :
    Keeps P (advance milliseconds) := by
  refine .get_bind fun c h => ?_
  cases Clock.advance c.now milliseconds with
  | error fault => exact h
  | ok now => exact moved c now h

end Listeners

section Queue

variable {P : Client Participant L M → Prop}

/-- Sending what is queued preserves what two steps preserve: the oldest frame leaves the queue
for the link, or the link refuses it and the queue stays as it was. -/
theorem drain_keeps
    (forwarded : ∀ c frame rest, c.core.outbound = frame :: rest →
      (c.link.send frame).2 = .ok () → P c →
      P { c with core := { c.core with outbound := rest }, link := (c.link.send frame).1 })
    (refused : ∀ c frame rest e, c.core.outbound = frame :: rest →
      (c.link.send frame).2 = .error e → P c → P { c with link := (c.link.send frame).1 })
    (noted : ∀ c n, n ≠ .undrained → P c → P { c with log := c.log ++ [n] }) :
    Keeps P (drain : Action Participant L M (Except SyncError Nat)) := by
  have loop : ∀ limit sent,
      Keeps P (drainFrom limit sent : Action Participant L M (Except SyncError Nat)) := by
    intro limit
    induction limit with
    | zero => exact fun sent => .pure (Except.ok sent)
    | succ limit ih =>
      intro sent c h
      cases hq : c.core.outbound with
      | nil =>
        rw [after_of_ok (drainFrom_nil _ _ hq)]
        exact h
      | cons frame rest =>
        rw [after, drainFrom_cons _ _ hq]
        cases hlink : (c.link.send frame).2 with
        | ok done => exact ih (sent + 1) _ (forwarded c frame rest hq hlink h)
        | error e =>
          -- the frame is put back, so that only the link and the log are new
          have queue : { c.core with outbound := frame :: rest } = c.core := by rw [← hq]
          have after := noted _ (.sendFailed sent e) (by simp) (refused c frame rest e hq hlink h)
          rw [← queue] at after
          exact after
  refine .get_bind fun c h => ?_
  refine (loop (Core.queued c.core) 0).bind (fun result => ?_) c h
  cases result with
  | error e => exact .pure (Except.error e)
  | ok sent =>
    dsimp only
    split
    · exact fun c h => noted c (.drained sent) (by simp) h
    · exact .pure (Except.ok sent)

end Queue

section Inbound

variable {react : Reaction Participant L M} {c : Client Participant L M} {frame : Frame}

/-- What follows once the listeners have heard of an event, with the given ways for events and
replies. -/
def concludeBy (delivery : Delivery Participant L M) (message : Inbound) (event : SystemEvent) :
    Action Participant L M RouteOutcome := do
  delivery.broadcast ⟨message.origin, event⟩
  match message with
  | .reply id outcome => return .routed (.myself id) (← delivery.settle id outcome)
  | .notice _ => return .routed .system false

/-- What follows once the event of a message is applied, with the given ways for events and
replies. -/
def announceBy (delivery : Delivery Participant L M) (react : Reaction Participant L M)
    (message : Inbound) (event : SystemEvent) : Action Participant L M RouteOutcome := do
  let _ ← publishObjects react
  let _ ← publishRoster react
  concludeBy delivery message event

section Spreading

variable {P : Client Participant L M → Prop} {delivery : Delivery Participant L M}
  (noted : ∀ c notes, P c → P { c with log := c.log ++ notes })
  (applied : ∀ c frame, P c → P { c with core := (c.core.apply frame).1 })
  (objects : Keeps P (publishObjects react)) (roster : Keeps P (publishRoster react))
  (broadcast : ∀ routed, Keeps P (delivery.broadcast routed))

include noted applied objects roster broadcast

theorem spreadBy_keeps (frame : Frame) (origin : Origin) (event : SystemEvent) :
    Keeps P (spreadBy delivery react frame origin event) := by
  have apply : Keeps P (applyFrame frame) := fun c h => applied _ frame (noted c _ h)
  refine apply.bind fun result => ?_
  have rest := objects.bind fun _ => roster.bind fun _ => broadcast ⟨origin, event⟩
  cases result with
  | ok done => exact rest
  | error e =>
    have note : Keeps P (note [.notApplied event e]) := fun c h => noted c _ h
    exact note.bind fun _ => rest

/-- Routing a frame preserves what its steps preserve. -/
theorem routeBy_keeps (settle : ∀ id outcome, Keeps P (delivery.settle id outcome))
    (frame : Frame) : Keeps P (routeBy delivery react frame) := by
  have spread := spreadBy_keeps noted applied objects roster broadcast frame
  rw [routeBy]
  cases Inbound.ofFrame frame with
  | error e =>
    dsimp only [dropFrame]
    cases e.fault? with
    | some fault => exact .throw fault
    | none => exact fun c h => noted c _ h
  | ok message =>
    have conclude : Keeps P
        (match message with
          | .reply id outcome => do
            return RouteOutcome.routed (.myself id) (← delivery.settle id outcome)
          | .notice _ => return .routed .system false) := by
      cases message with
      | reply id outcome => exact (settle id outcome).bind fun awaited => .pure _
      | notice event => exact .pure _
    dsimp only
    cases message.event? with
    | none => exact conclude
    | some event => exact (spread message.origin event).bind fun _ => conclude

end Spreading

/-- What follows once the listeners have heard of an event: the subscribers hear of it, and the
reply, if the message is one, is delivered. -/
def conclude (message : Inbound) (event : SystemEvent) : Action Participant L M RouteOutcome :=
  concludeBy delivery message event

/-- What follows once the event of a message is applied. -/
def announce (react : Reaction Participant L M) (message : Inbound) (event : SystemEvent) :
    Action Participant L M RouteOutcome :=
  announceBy delivery react message event

/-- The subscribers, the awaited replies and the log are all that is concerned in the end. -/
theorem conclude_sends (message : Inbound) (event : SystemEvent) (c : Client Participant L M) :
    ∃ outcome notes replies, .undrained ∉ notes ∧ conclude message event c = .ok outcome
      { c with
        replies
        feed := c.feed.send ⟨message.origin, event⟩
        log := c.log ++ notes } := by
  cases message with
  | notice event =>
    refine ⟨.routed .system false, [], c.replies, List.not_mem_nil, ?_⟩
    rw [List.append_nil]
    rfl
  | reply id outcome => exact ⟨_, _, _, c.replies.undrained_not_mem_resolveNotes id, rfl⟩

theorem conclude_returns (message : Inbound) (event : SystemEvent) (c : Client Participant L M) :
    ∃ outcome c', conclude message event c = .ok outcome c' ∧ c.Matches c' := by
  obtain ⟨outcome, notes, replies, -, ended⟩ := conclude_sends message event c
  exact ⟨outcome, _, ended, rfl, rfl, rfl, rfl, rfl⟩

theorem conclude_keeps {P : Client Participant L M → Prop}
    (aside : ∀ c, P c → ∀ c', c.Matches c' → P c') (message : Inbound) (event : SystemEvent) :
    Keeps P (conclude message event) := by
  intro c h
  obtain ⟨outcome, c', ended, same⟩ := conclude_returns message event c
  rw [after_of_ok ended]
  exact aside c h c' same

/-- A frame has no event, or it holds a message with one. -/
theorem event?_cases (frame : Frame) :
    frame.event? = none ∨ ∃ message event, Inbound.ofFrame frame = .ok message ∧
      message.event? = some event := by
  unfold Frame.event?
  cases Inbound.ofFrame frame with
  | error e => exact .inl rfl
  | ok message =>
    cases found : message.event? with
    | none => exact .inl found
    | some event => exact .inr ⟨message, event, rfl, found⟩

/-- A frame without an event concerns only the awaited replies and the log. -/
theorem route_of_silent (react : Reaction Participant L M) (silent : frame.event? = none) :
    ∃ notes replies, .undrained ∉ notes ∧
      (route react frame).after c = { c with replies, log := c.log ++ notes } := by
  unfold Frame.event? at silent
  rw [route_eq]
  cases hread : Inbound.ofFrame frame with
  | error e =>
    dsimp only
    rw [dropFrame]
    cases e.fault? with
    | some fault =>
      refine ⟨[], c.replies, List.not_mem_nil, ?_⟩
      rw [List.append_nil]
      rfl
    | none => exact ⟨[.undecodable frame.length e], c.replies, by simp, rfl⟩
  | ok message =>
    rw [hread] at silent
    cases message with
    | notice event => cases silent
    | reply id outcome =>
      cases outcome with
      | event event => cases silent
      | refused refusal => exact ⟨_, _, c.replies.undrained_not_mem_resolveNotes id, rfl⟩

/-- A frame without an event concerns no listener. -/
theorem route_eq_of_silent (silent : frame.event? = none)
    (react react' : Reaction Participant L M) : route react frame = route react' frame := by
  unfold Frame.event? at silent
  rw [route_eq, route_eq]
  cases hread : Inbound.ofFrame frame with
  | error e => rfl
  | ok message =>
    rw [hread] at silent
    have nothing : message.event? = none := silent
    dsimp only
    rw [nothing]

theorem route_of_no_event (silent : frame.event? = none) :
    c.Matches ((route react frame).after c) := by
  obtain ⟨notes, replies, -, ended⟩ := route_of_silent (c := c) react silent
  rw [ended]
  exact ⟨rfl, rfl, rfl, rfl, rfl⟩

/-- What the log says about the event of a frame once it is applied. -/
def eventNotes (p : Participant) (frame : Frame) (event : SystemEvent) : List Log.Note :=
  p.applyNotes frame ++
    match (p.applyEvent event).2 with
    | .ok () => []
    | .error e => [.notApplied event e]

theorem undrained_not_mem_eventNotes (p : Participant) (frame : Frame) (event : SystemEvent) :
    .undrained ∉ eventNotes p frame event := by
  rw [eventNotes, List.mem_append, not_or]
  refine ⟨p.undrained_not_mem_applyNotes frame, ?_⟩
  cases (p.applyEvent event).2 <;> simp

/-- The event of a message is applied before anything else happens, and only the log says more. -/
theorem routeBy_of_message (delivery : Delivery Participant L M) (react : Reaction Participant L M)
    {message : Inbound} {event : SystemEvent} (hread : Inbound.ofFrame frame = .ok message)
    (found : message.event? = some event) :
    routeBy delivery react frame c = announceBy delivery react message event
      { c with
        core := (c.core.applyEvent event).1
        log := c.log ++ eventNotes c.core frame event } := by
  have applying : applyFrame frame c = .ok (c.core.applyEvent event).2
      { c with
        core := (c.core.applyEvent event).1
        log := c.log ++ c.core.applyNotes frame } := by
    rw [← Participant.apply_of_event (Frame.event?_of_read hread found)]
    rfl
  have spreading : spreadBy delivery react frame message.origin event c = (do
      let _ ← publishObjects react
      let _ ← publishRoster react
      delivery.broadcast ⟨message.origin, event⟩)
        { c with
          core := (c.core.applyEvent event).1
          log := c.log ++ eventNotes c.core frame event } := by
    rw [spreadBy, bind_of_ok applying, eventNotes, ← List.append_assoc]
    cases (c.core.applyEvent event).2 with
    | error e => rfl
    | ok done => rw [List.append_nil]
  rw [routeBy, hread]
  dsimp only
  rw [found]
  refine (bind_of_eq spreading _).trans ?_
  simp only [bind_assoc]
  cases message <;> rfl

theorem route_of_message (react : Reaction Participant L M) {message : Inbound}
    {event : SystemEvent} (hread : Inbound.ofFrame frame = .ok message)
    (found : message.event? = some event) :
    route react frame c = announce react message event
      { c with
        core := (c.core.applyEvent event).1
        log := c.log ++ eventNotes c.core frame event } := by
  rw [route, routeBy_of_message delivery react hread found, announce]

/-- The event of a frame is applied first. -/
theorem route_of_event (react : Reaction Participant L M) {event : SystemEvent}
    (h : frame.event? = some event) :
    ∃ message c', { c with core := (c.core.applyEvent event).1 }.Matches c' ∧
      route react frame c = announce react message event c' := by
  unfold Frame.event? at h
  cases hread : Inbound.ofFrame frame with
  | error e =>
    rw [hread] at h
    cases h
  | ok message =>
    rw [hread] at h
    refine ⟨message, _, ?_, route_of_message react hread h⟩
    exact ⟨rfl, rfl, rfl, rfl, rfl⟩

end Inbound

end Client

end Whiteboard
