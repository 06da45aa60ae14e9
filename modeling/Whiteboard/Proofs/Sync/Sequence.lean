import Whiteboard.Proofs.Participant.Apply
import Whiteboard.Proofs.Sync.Conduct
import Whiteboard.Proofs.Sync.Submission

/-!
# The sequence of a routing

A frame that is routed is applied first, then the listeners are called, then the subscribers get the
event, and at the very end the reply is delivered. The states in which routings end do not tell the
last two apart. So a record is kept of everything that someone notices, with the client as it is at
that moment.

The listeners are left alone by all this, and a routing with a record does what it does without.
They may fail, and use the client as they like, as long as they leave its participant and the
awaited replies as they are.
-/

namespace Whiteboard

/-- What is done while a frame is routed, and noticed by someone. -/
inductive Deed (L : Type)
  /-- A listener is called. -/
  | call (listener : L) (notice : Notice)
  /-- An event is given to the subscribers. -/
  | broadcast (routed : Routed)
  /-- A reply is delivered. -/
  | settle (id : CommandId) (outcome : Outcome)

/-- A deed, and the client when it begins. -/
structure Scene (L M : Type) where
  /-- What is done. -/
  deed : Deed L
  /-- The client at that moment. -/
  client : Client Participant L M

variable {L M : Type}

namespace Client

/-- The client with a record that its listeners do not see. -/
def recorded (c : Client Participant L M) (record : List (Scene L M)) :
    Client Participant L (List (Scene L M) × M) := { c with memory := (record, c.memory) }

/-- The client as its listeners see it. -/
def unrecorded (c : Client Participant L (List (Scene L M) × M)) : Client Participant L M :=
  { c with memory := c.memory.2 }

end Client

namespace Action

variable {α β : Type}

/-- The end of an action, with a record. -/
def ended (record : List (Scene L M)) :
    EStateM.Result Fault (Client Participant L M) α →
      EStateM.Result Fault (Client Participant L (List (Scene L M) × M)) α
  | .ok a c => .ok a (c.recorded record)
  | .error fault c => .error fault (c.recorded record)

/-- Does a deed, which is recorded when it begins. -/
def recording (deed : Deed L) (x : Action Participant L M α) :
    Action Participant L (List (Scene L M) × M) α :=
  fun c => ended (c.memory.1 ++ [⟨deed, c.unrecorded⟩]) (x c.unrecorded)

end Action

/-- The same listeners, with their calls recorded. -/
def Reaction.recorded (react : Reaction Participant L M) :
    Reaction Participant L (List (Scene L M) × M) :=
  fun listener notice => Action.recording (.call listener notice) (react listener notice)

/-- The same ways, with events and replies recorded. -/
def Delivery.recorded (delivery : Delivery Participant L M) :
    Delivery Participant L (List (Scene L M) × M) where
  broadcast routed := Action.recording (.broadcast routed) (delivery.broadcast routed)
  settle id outcome := Action.recording (.settle id outcome) (delivery.settle id outcome)

/-- What is noticed when a frame is routed, in order. -/
def Client.course (c : Client Participant L M) (react : Reaction Participant L M) (frame : Frame) :
    List (Scene L M) :=
  ((Client.routeBy Client.delivery.recorded react.recorded frame).after (c.recorded [])).memory.1

/-- The listeners leave the participant and the awaited replies as they are. They may do anything
else, and they may fail. -/
def Reaction.Aloof (react : Reaction Participant L M) : Prop :=
  ∀ listener notice c, ((react listener notice).after c).core = c.core ∧
    ((react listener notice).after c).replies = c.replies

/-- Whether an operation leaves the participant and the awaited replies as they are. -/
def Operation.isAside : Operation L → Bool
  | .request _ | .fragment _ | .push _ | .route _ | .run _ => false
  | _ => true

/-- Listeners may add and remove listeners and subscribers, look at the client and remember things.
Those that they cause to be called do no more than that either. -/
theorem Habits.aloof {habits : Habits L M}
    (aside : ∀ listener notice c, (habits listener notice c).Within (·.isAside)) :
    habits.reaction.Aloof := by
  intro listener notice c
  let kept (c' : Observed L M) : Prop := c'.core = c.core ∧ c'.replies = c.replies
  have step : ∀ {op : Operation L} {react : Reaction Participant L (Diary L M)}, op.isAside →
      Action.Keeps kept (op.performNoted react) := by
    intro op react allowed
    cases op with
    | request _ | fragment _ | push _ | route _ | run _ => cases allowed
    | advance milliseconds =>
      exact Client.advance_performed (fun _ _ h => h) milliseconds
    | _ => exact fun _ h => h
  have write : ∀ listener notice, Action.Keeps kept (Client.writeCall listener notice) :=
    fun _ _ _ h => h
  have act : Action.Keeps kept (habits.reaction listener notice) := by
    refine (write listener notice).bind fun _ => .get_bind fun c' h => ?_
    exact Conduct.keeps (fun _ => True) (fun allowed _ => step allowed) (fun l n _ => write l n)
      (fun _ h => h) (aside listener notice c') c' h
  exact act c ⟨rfl, rfl⟩

namespace Scene

/-- A listener is called with such a notice, with the given participant and replies. -/
def IsCall (fits : Notice → Prop) (p : Participant) (r : Replies) (scene : Scene L M) : Prop :=
  (∃ listener notice, scene.deed = .call listener notice ∧ fits notice) ∧
    scene.client.core = p ∧ scene.client.replies = r

/-- A listener is called, and fails. -/
def Fails (react : Reaction Participant L M) (fault : Fault) (c' : Client Participant L M)
    (scene : Scene L M) : Prop :=
  ∃ listener notice, scene.deed = .call listener notice ∧
    react listener notice scene.client = .error fault c'

end Scene

namespace Action

variable {α β : Type} {x y : Action Participant L M α} {f : α → Action Participant L M β}
variable {x' y' : Action Participant L (List (Scene L M) × M) α}
variable {f' : α → Action Participant L (List (Scene L M) × M) β}
variable {c c₁ : Client Participant L M} {scenes more : List (Scene L M)}

/-! ### Actions with a record -/

/-- Started at `c`, the action `x'` does what `x` does, and records the given scenes. -/
def Records (x' : Action Participant L (List (Scene L M) × M) α) (x : Action Participant L M α)
    (c : Client Participant L M) (scenes : List (Scene L M)) : Prop :=
  ∀ before, x' (c.recorded before) = ended (before ++ scenes) (x c)

theorem Records.of_silent (same : ∀ before, x' (c.recorded before) = ended before (x c)) :
    Records x' x c [] := by
  intro before
  rw [List.append_nil, same]

theorem records_recording (deed : Deed L) (x : Action Participant L M α)
    (c : Client Participant L M) : Records (recording deed x) x c [⟨deed, c⟩] := fun _ => rfl

theorem Records.memory_after (h : Records x' x c scenes) :
    (x'.after (c.recorded [])).memory.1 = scenes := by
  rw [after, h []]
  cases x c <;> rfl

theorem Records.congr (h : Records y' y c₁ scenes)
    (same' : ∀ before, x' (c.recorded before) = y' (c₁.recorded before)) (same : x c = y c₁) :
    Records x' x c scenes := by
  intro before
  rw [same', h, same]

theorem Records.bind_ok {a : α} (first : Records x' x c scenes) (h : x c = .ok a c₁)
    (rest : Records (f' a) (f a) c₁ more) :
    Records (x' >>= f') (x >>= f) c (scenes ++ more) := by
  intro before
  have passed : x' (c.recorded before) = .ok a (c₁.recorded (before ++ scenes)) := by
    rw [first before, h]
    rfl
  rw [bind_of_ok passed, bind_of_ok h, rest, List.append_assoc]

theorem Records.bind_error {fault : Fault} (first : Records x' x c scenes)
    (h : x c = .error fault c₁) : Records (x' >>= f') (x >>= f) c scenes := by
  intro before
  have stopped : x' (c.recorded before) = .error fault (c₁.recorded (before ++ scenes)) := by
    rw [first before, h]
    rfl
  rw [bind_of_error stopped, bind_of_error h]
  rfl

/-! ### Actions that call listeners -/

/-- Started at `c`, the action records only calls with such notices, all of them with the given
participant and replies, and leaves these two behind. If it fails, it does so with the last call. -/
structure Calls (react : Reaction Participant L M) (fits : Notice → Prop) (p : Participant)
    (r : Replies) (x' : Action Participant L (List (Scene L M) × M) α)
    (x : Action Participant L M α) (c : Client Participant L M) (scenes : List (Scene L M)) :
    Prop where
  records : Records x' x c scenes
  calls : ∀ scene ∈ scenes, scene.IsCall fits p r
  core : (x.after c).core = p
  replies : (x.after c).replies = r
  failed : ∀ fault c', x c = .error fault c' →
    ∃ earlier scene, scenes = earlier ++ [scene] ∧ scene.Fails react fault c'

/-- Wherever it starts, the action only calls listeners with such notices. -/
def CallsOnly (react : Reaction Participant L M) (fits : Notice → Prop)
    (x' : Action Participant L (List (Scene L M) × M) α) (x : Action Participant L M α) : Prop :=
  ∀ c, ∃ scenes, Calls react fits c.core c.replies x' x c scenes

variable {react : Reaction Participant L M} {fits : Notice → Prop}

variable {p : Participant} {r : Replies}

theorem Calls.congr (h : Calls react fits p r y' y c₁ scenes)
    (same' : ∀ before, x' (c.recorded before) = y' (c₁.recorded before)) (same : x c = y c₁) :
    Calls react fits p r x' x c scenes := by
  have ends : x.after c = y.after c₁ := by rw [after, same, after]
  refine ⟨h.records.congr same' same, h.calls, ?_, ?_, ?_⟩
  · rw [ends, h.core]
  · rw [ends, h.replies]
  · rw [same]
    exact h.failed

theorem Calls.core_eq {a : α} (calls : Calls react fits p r x' x c scenes) (h : x c = .ok a c₁) :
    c₁.core = p ∧ c₁.replies = r := by
  rw [← after_of_ok h]
  exact ⟨calls.core, calls.replies⟩

/-- What neither fails nor concerns the participant or the replies need not be recorded. -/
theorem CallsOnly.of_silent (same : ∀ c before, x' (c.recorded before) = ended before (x c))
    (returns : ∀ c, ∃ a c', x c = .ok a c' ∧ c'.core = c.core ∧ c'.replies = c.replies) :
    CallsOnly react fits x' x := by
  intro c
  obtain ⟨a, c', ends, core, replies⟩ := returns c
  refine ⟨[], .of_silent (same c), ?_, ?_, ?_, ?_⟩
  · intro scene mem
    cases mem
  · rw [after_of_ok ends, core]
  · rw [after_of_ok ends, replies]
  · intro fault c' failed
    rw [ends] at failed
    cases failed

protected theorem CallsOnly.pure (a : α) : CallsOnly react fits (pure a) (pure a) :=
  .of_silent (fun _ _ => rfl) fun c => ⟨a, c, rfl, rfl, rfl⟩

protected theorem CallsOnly.note (notes : List Log.Note) :
    CallsOnly react fits (Client.note notes) (Client.note notes) :=
  .of_silent (fun _ _ => rfl) fun c => ⟨(), { c with log := c.log ++ notes }, rfl, rfl, rfl⟩

protected theorem CallsOnly.bind (first : CallsOnly react fits x' x)
    (rest : ∀ a, CallsOnly react fits (f' a) (f a)) :
    CallsOnly react fits (x' >>= f') (x >>= f) := by
  intro c
  obtain ⟨scenes, calls⟩ := first c
  cases h : x c with
  | error fault c₁ =>
    have ends : (x >>= f).after c = c₁ := after_bind_of_error h
    have before : x.after c = c₁ := after_of_error h
    refine ⟨scenes, calls.records.bind_error h, calls.calls, ?_, ?_, ?_⟩
    · rw [ends, ← before, calls.core]
    · rw [ends, ← before, calls.replies]
    · intro fault' c' failed
      rw [bind_of_error h] at failed
      cases failed
      exact calls.failed fault c₁ h
  | ok a c₁ =>
    obtain ⟨more, later⟩ := rest a c₁
    have ends : (x >>= f).after c = (f a).after c₁ := after_bind_of_ok h
    have core : c₁.core = c.core := by rw [← after_of_ok h, calls.core]
    have replies : c₁.replies = c.replies := by rw [← after_of_ok h, calls.replies]
    refine ⟨scenes ++ more, calls.records.bind_ok h later.records, ?_, ?_, ?_, ?_⟩
    · intro scene mem
      rcases List.mem_append.mp mem with early | late
      · exact calls.calls scene early
      · rw [← core, ← replies]
        exact later.calls scene late
    · rw [ends, later.core, core]
    · rw [ends, later.replies, replies]
    · intro fault c' failed
      rw [bind_of_ok h] at failed
      obtain ⟨earlier, scene, split, fails⟩ := later.failed fault c' failed
      exact ⟨scenes ++ earlier, scene, by rw [split, List.append_assoc], fails⟩

/-- What an action does with what it finds may not depend on the record. -/
protected theorem CallsOnly.get_bind {g : Client Participant L M → Action Participant L M β}
    {g' : Client Participant L (List (Scene L M) × M) →
      Action Participant L (List (Scene L M) × M) β}
    (unseen : ∀ (c : Client Participant L M) before,
      g' (c.recorded before) (c.recorded before) = g' (c.recorded []) (c.recorded before))
    (h : ∀ c, ∃ scenes, Calls react fits c.core c.replies (g' (c.recorded [])) (g c) c scenes) :
    CallsOnly react fits (get >>= g') (get >>= g) := by
  intro c
  obtain ⟨scenes, calls⟩ := h c
  exact ⟨scenes, calls.congr (unseen c) rfl⟩

end Action

namespace Client

open Whiteboard.Action

variable {react : Reaction Participant L M} {fits : Notice → Prop}

/-! ### The passes over the listeners -/

theorem call_calls (aloof : react.Aloof) (listener : L) {notice : Notice} (fit : fits notice) :
    CallsOnly react fits (react.recorded listener notice) (react listener notice) := by
  intro c
  obtain ⟨core, replies⟩ := aloof listener notice c
  refine ⟨[⟨.call listener notice, c⟩], records_recording _ _ c, ?_, core, replies, ?_⟩
  · intro scene mem
    obtain rfl := List.mem_singleton.mp mem
    exact ⟨⟨listener, notice, rfl, fit⟩, rfl, rfl⟩
  · intro fault c' failed
    exact ⟨[], _, rfl, listener, notice, rfl, failed⟩

theorem callObjectListeners_calls (aloof : react.Aloof) {object : ObjectId}
    (fit : fits (.object object)) (listeners : List (ListenerId × L)) :
    CallsOnly react fits (callObjectListeners react.recorded object listeners)
      (callObjectListeners react object listeners) := by
  induction listeners with
  | nil => exact .pure 0
  | cons entry rest ih =>
    obtain ⟨id, listener⟩ := entry
    refine .get_bind (fun _ _ => rfl) fun c => ?_
    by_cases registered : c.objectWatchers.isRegistered object id
    · have registered' : (c.recorded []).objectWatchers.isRegistered object id := registered
      rw [if_pos registered, if_pos registered']
      exact (call_calls aloof listener fit).bind (fun _ => ih.bind fun n => .pure (n + 1)) c
    · have registered' : ¬(c.recorded []).objectWatchers.isRegistered object id := registered
      rw [if_neg registered, if_neg registered']
      exact ih c

theorem notifyObjects_calls (aloof : react.Aloof) {objects : List ObjectId}
    (fit : ∀ object ∈ objects, fits (.object object)) :
    CallsOnly react fits (notifyObjects react.recorded objects) (notifyObjects react objects) := by
  induction objects with
  | nil => exact .pure 0
  | cons object rest ih =>
    have others := ih fun other mem => fit other (List.mem_cons_of_mem _ mem)
    refine .get_bind (fun _ _ => rfl) fun c => ?_
    exact (callObjectListeners_calls aloof (fit object List.mem_cons_self) _).bind
      (fun calls => others.bind fun more => .pure (calls + more)) c

theorem callRosterListeners_calls (aloof : react.Aloof) {roster : Roster}
    (fit : fits (.roster roster)) (listeners : List (ListenerId × L)) :
    CallsOnly react fits (callRosterListeners react.recorded roster listeners)
      (callRosterListeners react roster listeners) := by
  induction listeners with
  | nil => exact .pure ()
  | cons entry rest ih =>
    obtain ⟨id, listener⟩ := entry
    refine .get_bind (fun _ _ => rfl) fun c => ?_
    by_cases registered : c.rosterWatchers.isRegistered id
    · have registered' : (c.recorded []).rosterWatchers.isRegistered id := registered
      rw [if_pos registered, if_pos registered']
      exact (call_calls aloof listener fit).bind (fun _ => ih) c
    · have registered' : ¬(c.recorded []).rosterWatchers.isRegistered id := registered
      rw [if_neg registered, if_neg registered']
      exact ih c

/-- Tells the listeners a roster that was taken. -/
def announceRoster {N : Type} (react : Reaction Participant L N) :
    Option Roster → Action Participant L N (Option Roster)
  | none => return none
  | some roster => do
    notifyRoster react roster
    return some roster

theorem announceRoster_calls (aloof : react.Aloof) {change : Option Roster}
    (fit : ∀ roster, change = some roster → fits (.roster roster)) :
    CallsOnly react fits (announceRoster react.recorded change) (announceRoster react change) := by
  cases change with
  | none => exact .pure none
  | some roster =>
    have notify : CallsOnly react fits (notifyRoster react.recorded roster)
        (notifyRoster react roster) := by
      refine (CallsOnly.note _).bind fun _ => .get_bind (fun _ _ => rfl) fun c => ?_
      exact callRosterListeners_calls aloof (fit roster rfl) _ c
    exact notify.bind fun _ => .pure (some roster)

theorem publishRoster_eq {N : Type} (react : Reaction Participant L N)
    (c : Client Participant L N) :
    publishRoster react c = announceRoster react c.core.takeRosterChange.2
      { c with core := c.core.takeRosterChange.1 } := by
  have taken : onCore Core.takeRosterChange c = .ok c.core.takeRosterChange.2
      { c with core := c.core.takeRosterChange.1 } := rfl
  rw [publishRoster, bind_of_ok taken]
  cases c.core.takeRosterChange.2 <;> rfl

/-! ### The end of a routing -/

/-- How the routing of a message with an event ends after the given calls, with the participant and
the replies as they are then, and with the given record. -/
inductive EndsWith (react : Reaction Participant L M) (event : SystemEvent) (p : Participant)
    (r : Replies) (calls : List (Scene L M)) : Inbound → List (Scene L M) →
      EStateM.Result Fault (Client Participant L M) RouteOutcome → Prop
  /-- The last listener fails, which ends it at once. -/
  | failed {message : Inbound} {fault : Fault} {c' : Client Participant L M}
      {earlier : List (Scene L M)} {scene : Scene L M} (split : calls = earlier ++ [scene])
      (fails : scene.Fails react fault c') (replies : c'.replies = r) :
      EndsWith react event p r calls message [] (.error fault c')
  /-- The subscribers get the event. -/
  | spread {e : SystemEvent} {c c' : Client Participant L M} (core : c.core = p)
      (replies : c.replies = r) (coreAfter : c'.core = p) (repliesAfter : c'.replies = r) :
      EndsWith react event p r calls (.notice e) [⟨.broadcast ⟨.system, event⟩, c⟩]
        (.ok (.routed .system false) c')
  /-- The subscribers get the event, and then the reply is delivered. -/
  | settled {id : CommandId} {result : Outcome} {c c₁ c' : Client Participant L M}
      (core : c.core = p) (replies : c.replies = r) (coreThen : c₁.core = p)
      (repliesThen : c₁.replies = r) (coreAfter : c'.core = p)
      (repliesAfter : c'.replies = (r.resolve id result).1) :
      EndsWith react event p r calls (.reply id result)
        [⟨.broadcast ⟨.myself id, event⟩, c⟩, ⟨.settle id result, c₁⟩]
        (.ok (.routed (.myself id) (r.isPending id)) c')

theorem concludeBy_sequence (react : Reaction Participant L M) (message : Inbound)
    (event : SystemEvent) (c : Client Participant L M) (calls : List (Scene L M)) :
    ∃ ending, Records (concludeBy delivery.recorded message event)
        (concludeBy delivery message event) c ending ∧
      EndsWith react event c.core c.replies calls message ending
        (concludeBy delivery message event c) := by
  let c₁ := { c with feed := c.feed.send ⟨message.origin, event⟩ }
  have broadcast : delivery.broadcast ⟨message.origin, event⟩ c = .ok () c₁ := rfl
  have first := records_recording (.broadcast ⟨message.origin, event⟩)
    (delivery.broadcast ⟨message.origin, event⟩) c
  cases message with
  | notice e =>
    exact ⟨_, first.bind_ok broadcast (.of_silent fun _ => rfl), .spread rfl rfl rfl rfl⟩
  | reply id outcome =>
    let c₂ := { c₁ with
      replies := (c.replies.resolve id outcome).1
      log := c.log ++ c.replies.resolveNotes id }
    have settle : delivery.settle id outcome c₁ = .ok (c.replies.isPending id) c₂ := by
      rw [← c.replies.awaited_resolve id outcome]
      rfl
    have last := records_recording (.settle id outcome) (delivery.settle id outcome) c₁
    have ends : concludeBy delivery (.reply id outcome) event c =
        .ok (.routed (.myself id) (c.replies.isPending id)) c₂ :=
      (bind_of_ok broadcast _).trans (bind_of_ok settle _)
    rw [ends]
    exact ⟨_, first.bind_ok broadcast (last.bind_ok settle (.of_silent fun _ => rfl)),
      .settled rfl rfl rfl rfl rfl rfl⟩

theorem publishObjects_calls (aloof : react.Aloof) (c : Client Participant L M) :
    ∃ scenes, Calls react (fun notice => ∃ object ∈ c.core.invalidated, notice = .object object)
      c.core.takeInvalidated.1 c.replies (publishObjects react.recorded) (publishObjects react) c
      scenes := by
  let invalidated (notice : Notice) : Prop := ∃ object ∈ c.core.invalidated, notice = .object object
  have fit : ∀ object ∈ c.core.takeInvalidated.2, invalidated (.object object) := by
    intro object mem
    exact ⟨object, Std.ExtTreeSet.mem_toList.mp mem, rfl⟩
  obtain ⟨scenes, calls⟩ :=
    notifyObjects_calls aloof fit { c with core := c.core.takeInvalidated.1 }
  exact ⟨scenes, calls.congr (fun _ => rfl) rfl⟩

theorem publishRoster_calls (aloof : react.Aloof) (c : Client Participant L M) :
    ∃ scenes, Calls react (· = .roster c.core.roster) c.core.takeRosterChange.1 c.replies
      (publishRoster react.recorded) (publishRoster react) c scenes := by
  let current (notice : Notice) : Prop := notice = .roster c.core.roster
  have fit : ∀ roster, c.core.takeRosterChange.2 = some roster → current (.roster roster) := by
    intro roster change
    by_cases new : c.core.rosterChanged
    · rw [Participant.takeRosterChange, if_pos new] at change
      exact congrArg Notice.roster (Option.some.inj change).symm
    · rw [Participant.takeRosterChange, if_neg new] at change
      cases change
  obtain ⟨scenes, calls⟩ :=
    announceRoster_calls aloof fit { c with core := c.core.takeRosterChange.1 }
  exact ⟨scenes, calls.congr (fun _ => publishRoster_eq _ _) (publishRoster_eq _ _)⟩

/-- Once the event is applied, the listeners for objects are called, then those for the roster, and
then the routing ends. -/
theorem announceBy_sequence (aloof : react.Aloof) (message : Inbound) (event : SystemEvent)
    (c : Client Participant L M) :
    let shown := c.core.takeInvalidated.1
    let calm := shown.takeRosterChange.1
    ∃ objects rosters ending,
      Records (announceBy delivery.recorded react.recorded message event)
        (announceBy delivery react message event) c (objects ++ rosters ++ ending) ∧
      (∀ scene ∈ objects, scene.IsCall (fun notice => ∃ object ∈ c.core.invalidated,
        notice = .object object) shown c.replies) ∧
      (∀ scene ∈ rosters, scene.IsCall (· = .roster c.core.roster) calm c.replies) ∧
      EndsWith react event calm c.replies (objects ++ rosters) message ending
        (announceBy delivery react message event c) := by
  intro shown calm
  obtain ⟨objects, told⟩ := publishObjects_calls aloof c
  cases h : publishObjects react c with
  | error fault c₁ =>
    have ends : announceBy delivery react message event c = .error fault c₁ := bind_of_error h _
    refine ⟨objects, [], [], ?_, told.calls, fun scene mem => absurd mem List.not_mem_nil, ?_⟩
    · rw [List.append_nil, List.append_nil]
      exact told.records.bind_error h
    · obtain ⟨earlier, scene, split, fails⟩ := told.failed fault c₁ h
      rw [ends, List.append_nil]
      exact .failed split fails (after_of_error h ▸ told.replies)
  | ok calls c₁ =>
    obtain ⟨core, replies⟩ := told.core_eq h
    obtain ⟨rosters, heard⟩ := publishRoster_calls aloof c₁
    rw [core, replies] at heard
    cases h₁ : publishRoster react c₁ with
    | error fault c₂ =>
      have ends : announceBy delivery react message event c = .error fault c₂ :=
        (bind_of_ok h _).trans (bind_of_error h₁ _)
      refine ⟨objects, rosters, [], ?_, told.calls, heard.calls, ?_⟩
      · rw [List.append_nil]
        exact told.records.bind_ok h (heard.records.bind_error h₁)
      · obtain ⟨earlier, scene, split, fails⟩ := heard.failed fault c₂ h₁
        have all : objects ++ rosters = objects ++ earlier ++ [scene] := by
          rw [split, List.append_assoc]
        rw [ends]
        exact .failed all fails (after_of_error h₁ ▸ heard.replies)
    | ok change c₂ =>
      obtain ⟨core₂, replies₂⟩ := heard.core_eq h₁
      obtain ⟨ending, last, closes⟩ :=
        concludeBy_sequence react message event c₂ (objects ++ rosters)
      have ends : announceBy delivery react message event c =
          concludeBy delivery message event c₂ := (bind_of_ok h _).trans (bind_of_ok h₁ _)
      refine ⟨objects, rosters, ending, ?_, told.calls, heard.calls, ?_⟩
      · rw [List.append_assoc]
        exact told.records.bind_ok h (heard.records.bind_ok h₁ last)
      · rw [ends, ← replies₂]
        rw [core₂] at closes
        exact closes

/-! ### The course of a routing -/

theorem course_of_records {frame : Frame} {c : Client Participant L M} {scenes : List (Scene L M)}
    (records : Records (routeBy delivery.recorded react.recorded frame) (route react frame) c
      scenes) : c.course react frame = scenes := records.memory_after

theorem routeBy_of_refusal {N : Type} (delivery : Delivery Participant L N)
    (react : Reaction Participant L N) {frame : Frame} {id : CommandId} {refusal : Refusal}
    (hread : Inbound.ofFrame frame = .ok (.reply id (.refused refusal))) :
    routeBy delivery react frame =
      (do return .routed (.myself id) (← delivery.settle id (.refused refusal))) := by
  rw [routeBy, hread]
  rfl

/-- A refusal is delivered, and that is all. -/
theorem route_refusal_sequence (react : Reaction Participant L M) {frame : Frame} {id : CommandId}
    {refusal : Refusal} (hread : Inbound.ofFrame frame = .ok (.reply id (.refused refusal)))
    (c : Client Participant L M) :
    Records (routeBy delivery.recorded react.recorded frame) (route react frame) c
        [⟨.settle id (.refused refusal), c⟩] ∧
      route react frame c = .ok (.routed (.myself id) (c.replies.isPending id))
        { c with
          replies := (c.replies.resolve id (.refused refusal)).1
          log := c.log ++ c.replies.resolveNotes id } := by
  have settled : delivery.settle id (.refused refusal) c =
      .ok (c.replies.resolve id (.refused refusal)).2
        { c with
          replies := (c.replies.resolve id (.refused refusal)).1
          log := c.log ++ c.replies.resolveNotes id } := rfl
  have settling := records_recording (.settle id (.refused refusal))
    (delivery.settle id (.refused refusal)) c
  constructor
  · rw [route, routeBy_of_refusal _ _ hread, routeBy_of_refusal _ _ hread]
    exact settling.bind_ok settled (.of_silent fun _ => rfl)
  · rw [route, routeBy_of_refusal _ _ hread, bind_of_ok settled, Replies.awaited_resolve]
    rfl

end Client

namespace Desk

/-- What the reply to a command leaves behind. Its number is not pending any more, every other one
is pending for the same caller as before, and all callers find what they found before, but those
that found nothing and have this number find the reply. -/
structure Settled (d : Desk Participant L M) (id : CommandId) (outcome : Outcome)
    (c' : Client Participant L M) : Prop where
  gone : c'.replies.isPending id = false
  others : ∀ other ≠ id, c'.replies.pending[other]? = d.replies.pending[other]?
  callers : ∀ (k : Nat) (caller : Caller), d.callers[k]? = some caller →
    c'.replies.outcome? caller.reply = (d.replies.outcome? caller.reply).or
      (if id = caller.reply.id then some outcome.settle else none)

theorem settled_of_resolve {d : Desk Participant L M} (sound : d.Sound) {id : CommandId}
    {outcome : Outcome} {c' : Client Participant L M}
    (resolved : c'.replies = (d.replies.resolve id outcome).1) : d.Settled id outcome c' where
  gone := by
    rw [resolved, Replies.isPending_eq_false_iff, Replies.resolve, Replies.pending_remove,
      if_pos rfl]
  others := by
    intro other ne
    rw [resolved, Replies.resolve, Replies.pending_remove, if_neg ne.symm]
  callers := by
    intro k caller hk
    obtain ⟨verdict?, awaits⟩ := sound.callers hk
    obtain ⟨found?, holds⟩ := awaits.holds
    rw [resolved, holds.outcome?_eq, (holds.resolve id outcome).outcome?_eq]

/-- A reply is settled last. Take a client in any state, with any numbers pending for any callers,
and route a frame that can be read, with any listeners that leave the participant and the awaited
replies as they are. Keeping a record of it changes nothing, and the record says:

* A refusal is delivered to its caller, and nothing else is done.
* An event is applied first, unless the participant refuses it and stays as it is. Then all calls
  for objects come before all calls for the roster. A listener that fails ends the routing there.
  Otherwise the subscribers get the event after all calls, and the reply is delivered after that.
* Up to then everyone finds the participant with the event applied, and the same numbers pending as
  before the frame came.
* The reply is reported as awaited exactly if its number was pending. It is left with its caller,
  and no other number or caller is concerned. -/
theorem reply_settled_last {react : Reaction Participant L M} (aloof : react.Aloof)
    (start : Client Participant L M) (before : List Turn) {frame : Frame} {message : Inbound}
    (hread : Inbound.ofFrame frame = .ok message) :
    let d := (opening start).takeAll before
    let c := d.client
    let course := c.course react frame
    Client.routeBy Client.delivery.recorded react.recorded frame (c.recorded []) =
      Action.ended course (Client.route react frame c) ∧
    match message.event? with
    | none =>
      ∃ id refusal c', message = .reply id (.refused refusal) ∧
        course = [⟨.settle id (.refused refusal), c⟩] ∧
        Client.route react frame c = .ok (.routed (.myself id) (c.replies.isPending id)) c' ∧
        c'.core = c.core ∧ c'.feed = c.feed ∧ d.Settled id (.refused refusal) c'
    | some event =>
      let applied := (c.core.apply frame).1
      let shown := applied.takeInvalidated.1
      let calm := shown.takeRosterChange.1
      ((c.core.apply frame).2 = .ok () ∨ applied = c.core) ∧
      ∃ objects rosters ending, course = objects ++ rosters ++ ending ∧
        (∀ scene ∈ objects, scene.IsCall (fun notice => ∃ object ∈ applied.invalidated,
          notice = .object object) shown c.replies) ∧
        (∀ scene ∈ rosters, scene.IsCall (· = .roster applied.roster) calm c.replies) ∧
        Client.EndsWith react event calm c.replies (objects ++ rosters) message ending
          (Client.route react frame c) ∧
        ∀ id result outcome c', message = .reply id result →
          Client.route react frame c = .ok outcome c' → d.Settled id result c' := by
  intro d c course
  have sound : d.Sound := sound_takeAll (sound_opening start) before
  cases found : message.event? with
  | none =>
    cases message with
    | notice event => cases found
    | reply id outcome =>
      cases outcome with
      | event event => cases found
      | refused refusal =>
        obtain ⟨records, routed⟩ := Client.route_refusal_sequence react hread c
        have whole : course = _ := Client.course_of_records records
        refine ⟨?_, id, refusal, _, rfl, whole, routed, rfl, rfl, settled_of_resolve sound rfl⟩
        rw [records [], whole]
        rfl
  | some event =>
    have applied : c.core.applyEvent event = c.core.apply frame :=
      (Participant.apply_of_event (Frame.event?_of_read hread found) c.core).symm
    obtain ⟨objects, rosters, ending, records, told, heard, closes⟩ :=
      Client.announceBy_sequence aloof message event
        { c with
          core := (c.core.applyEvent event).1
          log := c.log ++ Client.eventNotes c.core frame event }
    have routed : Client.route react frame c = _ :=
      Client.routeBy_of_message Client.delivery react hread found
    have same := records.congr
      (fun before => Client.routeBy_of_message Client.delivery.recorded react.recorded hread found)
      routed
    have whole : course = _ := Client.course_of_records same
    rw [← routed] at closes
    rw [applied] at told heard closes
    refine ⟨?_, ?_, objects, rosters, ending, whole, told, heard, closes, ?_⟩
    · rw [same [], whole]
      rfl
    · cases accepted : (c.core.apply frame).2 with
      | ok done => exact .inl rfl
      | error e => exact .inr (c.core.apply_unchanged accepted)
    · rintro id result outcome c' rfl ends
      rw [ends] at closes
      cases closes with
      | settled core replies coreThen repliesThen coreAfter repliesAfter =>
        exact settled_of_resolve sound repliesAfter

/-! ### Listeners that come and go -/

/-- The first notice of an object adds a listener for the roster, and every roster a subscriber. -/
def guided : Habits Unit Unit := fun _ notice _ =>
  match notice with
  | .object _ => .perform (.watchRoster ()) Client.idle fun _ _ => .finish ()
  | .roster _ => .perform .subscribe Client.idle fun _ _ => .finish ()

theorem guided_aloof : guided.reaction.Aloof := by
  refine Habits.aloof fun listener notice c => ?_
  cases notice with
  | object object => exact ⟨rfl, fun _ _ _ => trivial, fun _ _ => trivial⟩
  | roster roster => exact ⟨rfl, fun _ _ _ => trivial, fun _ _ => trivial⟩

/-- A client with a listener for a document that it does not have yet. -/
def expectant : Observed Unit Unit :=
  { Client.diarist with objectWatchers := (ObjectWatchers.empty.add ⟨"plan"⟩ ()).1 }

/-- A session is entered. -/
def admission : SystemEvent := .joinedSession 7 ⟨[3]⟩ ⟨some ⟨"plan"⟩, [], []⟩

/-- The reply to the request for a session. -/
def welcome : Inbound := .reply 1 (.event admission)

/-- A session is asked for, and the reply comes. The listener that is called for the document adds
one for the roster, which is called next. Then the subscribers get the event, and in the end the
caller gets the reply. -/
theorem reply_settled_last_welcome :
    let d := (opening expectant).takeAll [.submit .createSession .expect]
    let course := d.client.course guided.reaction welcome.toFrame
    ∃ calls told last c', course = calls ++ [⟨.broadcast ⟨.myself 1, admission⟩, told⟩,
        ⟨.settle 1 (.event admission), last⟩] ∧
      calls.length = 2 ∧
      (∀ scene ∈ calls, scene.client.replies.isPending 1 = true ∧
        scene.client.core.sessionId? = some 7) ∧
      Client.route guided.reaction welcome.toFrame d.client = .ok (.routed (.myself 1) true) c' ∧
      c'.replies.isPending 1 = false ∧ c'.replies.outcome? ⟨1, 0⟩ = some (.ok admission) := by
  intro d course
  have hread : Inbound.ofFrame welcome.toFrame = .ok welcome :=
    Inbound.ofFrame_toFrame (by decide +kernel)
  have four : course.length = 4 := by decide +kernel
  have pending : d.client.replies.isPending 1 = true := by decide +kernel
  have shown : (d.client.core.apply welcome.toFrame).1.takeInvalidated.1.sessionId? = some 7 := by
    decide +kernel
  have here : d.callers[0]? = some (.holding ⟨1, 0⟩) := rfl
  have nothing : d.replies.outcome? ⟨1, 0⟩ = none := rfl
  have returns :
      (Client.route guided.reaction welcome.toFrame d.client matches .ok _ _) = true := by
    decide +kernel
  obtain ⟨-, -, objects, rosters, ending, whole, told, heard, closes, settled⟩ :=
    reply_settled_last guided_aloof expectant [.submit .createSession .expect] hread
  cases routed : Client.route guided.reaction welcome.toFrame d.client with
  | error fault c' =>
    rw [routed] at returns
    cases returns
  | ok outcome c' =>
    have left := settled 1 _ outcome c' rfl routed
    have found : c'.replies.outcome? ⟨1, 0⟩ =
        (d.replies.outcome? ⟨1, 0⟩).or (some (.ok admission)) := left.callers 0 _ here
    rw [routed] at closes
    cases closes with
    | settled core replies coreThen repliesThen coreAfter repliesAfter =>
      refine ⟨objects ++ rosters, _, _, c', whole, ?_, ?_, ?_, left.gone, ?_⟩
      · have all : course.length = (objects ++ rosters).length + 2 := by
          rw [show course = _ from whole]
          exact List.length_append
        omega
      · intro scene mem
        rcases List.mem_append.mp mem with early | late
        · obtain ⟨-, core, replies⟩ := told scene early
          rw [core, replies]
          exact ⟨pending, shown⟩
        · obtain ⟨-, core, replies⟩ := heard scene late
          rw [core, replies]
          exact ⟨pending, shown⟩
      · rw [← pending]
      · rw [found, nothing]
        rfl

end Desk

end Whiteboard
