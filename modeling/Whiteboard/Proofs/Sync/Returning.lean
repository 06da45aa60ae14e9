import Whiteboard.Proofs.Sync.Settling
import Whiteboard.Sync.Client

/-!
# Actions that return

An action ends in some state also if it comes to a fault, and what follows it does not happen then.
Faults come from listeners, and from frames that cannot be read. If every listener returns, whatever
else it does, then a frame is routed to its end unless reading it comes to a fault, and a stream of
frames unless one of its frames does.
-/

namespace Whiteboard

variable {C L M : Type}

namespace Action

variable {α β : Type} {x : Action C L M α} {f : α → Action C L M β} {c c' : Client C L M} {a : α}

/-- The state in which an action ends, also when it ends in a fault. -/
def after (x : Action C L M α) (c : Client C L M) : Client C L M :=
  match x c with
  | .ok _ c' | .error _ c' => c'

theorem after_of_ok (h : x c = .ok a c') : x.after c = c' := by rw [after, h]

theorem after_of_error {fault : Fault} (h : x c = .error fault c') : x.after c = c' := by
  rw [after, h]

theorem bind_of_ok (h : x c = .ok a c') (f : α → Action C L M β) : (x >>= f) c = f a c' := by
  show EStateM.bind x f c = f a c'
  rw [EStateM.bind, h]

theorem bind_of_error {fault : Fault} (h : x c = .error fault c') (f : α → Action C L M β) :
    (x >>= f) c = .error fault c' := by
  show EStateM.bind x f c = .error fault c'
  rw [EStateM.bind, h]

/-- What is made of the result of an action does not matter to the state. -/
theorem after_bind (returns : ∀ a c', ∃ b, f a c' = .ok b c') :
    (x >>= f).after c = x.after c := by
  cases h : x c with
  | ok a c' =>
    obtain ⟨b, hb⟩ := returns a c'
    rw [after_of_ok h, after_of_ok ((bind_of_ok h f).trans hb)]
  | error fault c' => rw [after_of_error h, after_of_error (bind_of_error h f)]

theorem get_bind (f : Client C L M → Action C L M β) (c : Client C L M) :
    (get >>= f) c = f c c := rfl

/-- The action comes to no fault, whatever it begins with. -/
def Returns (x : Action C L M α) : Prop := ∀ c, ∃ a d, x c = .ok a d

protected theorem Returns.bind (hx : Returns x) (hf : ∀ a, Returns (f a)) : Returns (x >>= f) := by
  intro c
  obtain ⟨a, d, first⟩ := hx c
  obtain ⟨b, e, second⟩ := hf a d
  exact ⟨b, e, (bind_of_ok first f).trans second⟩

protected theorem Returns.pure (a : α) : Returns (pure a : Action C L M α) := fun c => ⟨a, c, rfl⟩

protected theorem Returns.get_bind {g : Client C L M → Action C L M β} (h : ∀ c, Returns (g c)) :
    Returns (get >>= g) := fun c => h c c

end Action

namespace Client

open Whiteboard.Action

variable {react : Reaction C L M}

/-! ### Passes over the listeners -/

theorem callObjectListeners_returns {object : ObjectId}
    (called : ∀ listener, Returns (react listener (.object object)))
    (listeners : List (ListenerId × L)) :
    Returns (callObjectListeners react object listeners) := by
  induction listeners with
  | nil => exact .pure 0
  | cons entry rest ih =>
    refine .get_bind fun c => ?_
    by_cases registered : c.objectWatchers.isRegistered object entry.1
    · rw [if_pos registered]
      exact (called entry.2).bind fun _ => ih.bind fun calls => .pure (calls + 1)
    · rw [if_neg registered]
      exact ih

theorem notifyObjects_returns
    (called : ∀ listener object, Returns (react listener (.object object)))
    (objects : List ObjectId) : Returns (notifyObjects react objects) := by
  induction objects with
  | nil => exact .pure 0
  | cons object rest ih =>
    refine .get_bind fun c => ?_
    have first := callObjectListeners_returns (called · object)
      (c.objectWatchers.of object).toList
    exact first.bind fun calls => ih.bind fun others => .pure (calls + others)

theorem callRosterListeners_returns {roster : Roster}
    (called : ∀ listener, Returns (react listener (.roster roster)))
    (listeners : List (ListenerId × L)) :
    Returns (callRosterListeners react roster listeners) := by
  induction listeners with
  | nil => exact .pure ()
  | cons entry rest ih =>
    refine .get_bind fun c => ?_
    by_cases registered : c.rosterWatchers.isRegistered entry.1
    · rw [if_pos registered]
      exact (called entry.2).bind fun _ => ih
    · rw [if_neg registered]
      exact ih

section Publishing

variable [Core C]

theorem publishObjects_returns
    (called : ∀ listener object, Returns (react listener (.object object))) :
    Returns (publishObjects react) := by
  have taken : Returns (onCore (L := L) (M := M) (C := C) Core.takeInvalidated) :=
    fun c => ⟨_, _, rfl⟩
  exact taken.bind fun objects => notifyObjects_returns called objects

theorem publishRoster_returns
    (called : ∀ listener roster, Returns (react listener (.roster roster))) :
    Returns (publishRoster react) := by
  have taken : Returns (onCore (L := L) (M := M) (C := C) Core.takeRosterChange) :=
    fun c => ⟨_, _, rfl⟩
  refine taken.bind fun roster? => ?_
  cases roster? with
  | none => exact .pure none
  | some roster =>
    have noted : Returns (note [.roster roster] : Action C L M Unit) := fun c => ⟨_, _, rfl⟩
    have told : Returns (notifyRoster react roster) := noted.bind fun _ => .get_bind fun c =>
      callRosterListeners_returns (called · roster) c.rosterWatchers.listeners.toList
    exact told.bind fun _ => .pure (some roster)

end Publishing

/-! ### Inbound frames -/

section Inbound

variable [Core C]

theorem route_eq (frame : Frame) :
    route react frame = (do
      match Inbound.ofFrame frame with
      | .error e => dropFrame frame e
      | .ok message =>
        match message.event? with
        | some event => spread react frame message.origin event
        | none => pure ()
        match message with
        | .reply id outcome => return .routed (.myself id) (← resolve id outcome)
        | .notice _ => return .routed .system false : Action C L M RouteOutcome) := rfl

/-- A frame whose reading comes to a fault ends the routing at once. -/
theorem route_of_fault {frame : Frame} {fault : Fault} (h : frame.fault? = some fault)
    (c : Client C L M) : route react frame c = .error fault c := by
  unfold Frame.fault? at h
  rw [route_eq]
  split at h
  · next e hread =>
    rw [hread]
    dsimp only
    rw [dropFrame, h]
    rfl
  · exact nomatch h

/-- A frame that cannot be read is given up, unless its reading comes to a fault. -/
theorem route_eq_dropped {frame : Frame} {e : CodecError} (h : Inbound.ofFrame frame = .error e)
    (sound : frame.fault? = none) (c : Client C L M) :
    route react frame c =
      .ok .dropped { c with log := c.log ++ [.undecodable frame.length e] } := by
  rw [Frame.fault?, h] at sound
  rw [route_eq, h]
  dsimp only at sound ⊢
  rw [dropFrame, sound]
  rfl

variable (called : ∀ listener notice, Returns (react listener notice))

include called

theorem spread_returns (frame : Frame) (origin : Origin) (event : SystemEvent) :
    Returns (spread react frame origin event) := by
  have applied : Returns (applyFrame frame : Action C L M _) := fun c => ⟨_, _, rfl⟩
  have sent : Returns (delivery.broadcast ⟨origin, event⟩ : Action C L M Unit) :=
    fun c => ⟨_, _, rfl⟩
  have rest := (publishObjects_returns fun listener object => called listener _).bind fun _ =>
    (publishRoster_returns fun listener roster => called listener _).bind fun _ => sent
  refine applied.bind fun result => ?_
  cases result with
  | ok done => exact rest
  | error e =>
    have noted : Returns (note [.notApplied event e] : Action C L M Unit) := fun c => ⟨_, _, rfl⟩
    exact noted.bind fun _ => rest

theorem route_returns {frame : Frame} (sound : frame.fault? = none) :
    Returns (route react frame) := by
  cases read : Inbound.ofFrame frame with
  | error e => exact fun c => ⟨_, _, route_eq_dropped read sound c⟩
  | ok message =>
    rw [route_eq, read]
    clear read
    have told : Returns
        (match message with
          | .reply id outcome => do return .routed (.myself id) (← resolve id outcome)
          | .notice _ => return .routed .system false : Action C L M RouteOutcome) := by
      cases message with
      | reply id outcome => exact fun c => ⟨_, _, rfl⟩
      | notice event => exact .pure _
    dsimp only
    cases message.event? with
    | none => exact told
    | some event => exact (spread_returns called frame message.origin event).bind fun _ => told

/-- A stream of frames is routed to its end exactly if none of them comes to a fault. -/
theorem run_returns_iff {frames : List Frame} {c : Client C L M} :
    (∃ d, run react frames c = .ok () d) ↔ ∀ frame ∈ frames, frame.fault? = none := by
  have all : (∃ d, routeAll react frames c = .ok () d) ↔
      ∀ frame ∈ frames, frame.fault? = none := by
    induction frames generalizing c with
    | nil => exact ⟨fun _ => nofun, fun _ => ⟨c, rfl⟩⟩
    | cons frame rest ih =>
      rw [List.forall_mem_cons]
      cases fault : frame.fault? with
      | some fault' =>
        have ended : routeAll react (frame :: rest) c = .error fault' c :=
          bind_of_error (route_of_fault fault c) _
        rw [ended]
        exact ⟨fun ⟨_, returned⟩ => (nomatch returned), fun ⟨sound, _⟩ => (nomatch sound)⟩
      | none =>
        obtain ⟨outcome, c₁, routed⟩ := route_returns called fault c
        have first : routeAll react (frame :: rest) c = routeAll react rest c₁ :=
          bind_of_ok routed _
        rw [first, ih]
        exact ⟨fun sound => ⟨rfl, sound⟩, And.right⟩
  rw [← all]
  constructor
  · rintro ⟨d, ended⟩
    cases routed : routeAll react frames c with
    | ok _ c₁ => exact ⟨c₁, rfl⟩
    | error fault c₁ => exact nomatch (bind_of_error routed _).symm.trans ended
  · rintro ⟨c₁, routed⟩
    exact ⟨_, bind_of_ok routed _⟩

end Inbound

end Client

end Whiteboard
