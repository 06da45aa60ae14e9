import Whiteboard.Proofs.Document.Touched
import Whiteboard.Proofs.Sync.Taking

/-!
# Listeners for objects are told of every change

Whatever changes in the current document, the client calls the listeners that are registered for
the document, once it has changed and before the operation ends. Two things have to go together for
this: the participant notes every object that an event or an edit concerns, and the client takes
all of them, so that none is left when the operation is over.

The listeners here only look, and remember what they saw. They may fail; then the operation ends
with them, and those after them are not called.
-/

namespace Whiteboard

open Whiteboard.Action

/-! ### What is concerned -/

/-- The objects that an event in a session concerns. An answer concerns those of the transaction
that it answers, if there is one. -/
def SessionEvent.concerned (s : Session) : SessionEvent → ObjectSet
  | .accepted tx | .rejected tx _ => ((s.document.find? tx).map Transaction.touched).getD ∅
  | .othersTransaction tx => tx.touched
  | _ => ∅

/-- The objects that an event concerns. -/
def SystemEvent.concerned (p : Participant) : SystemEvent → ObjectSet
  | .connected _ => ∅
  | .joinedSession _ _ snapshot => .ofList [(Replica.openFrom snapshot p.ids).1.id]
  | .leftSession =>
    match p.session? with
    | some s => .ofList [s.document.id, p.home.id]
    | none => ∅
  | .session event =>
    match p.session? with
    | some s => event.concerned s
    | none => ∅

/-- The objects that an inbound frame concerns. -/
def Frame.concerned (p : Participant) (frame : Frame) : ObjectSet :=
  match frame.event? with
  | some event => event.concerned p
  | none => ∅

/-- The objects that an operation concerns. -/
def Operation.concerned {L : Type} (p : Participant) : Operation L → ObjectSet
  | .push _ => .ofList [p.document.id]
  | .route frame => frame.concerned p
  | _ => ∅

namespace Participant

variable {p : Participant}

theorem empty_union (objects : ObjectSet) : (∅ : ObjectSet) ∪ objects = objects := by
  refine Std.ExtTreeSet.ext_mem fun object => ?_
  simp [Std.ExtTreeSet.mem_union_iff]

theorem mem_ofList {object : ObjectId} {objects : List ObjectId} :
    object ∈ Std.ExtTreeSet.ofList objects ↔ object ∈ objects := by
  rw [Std.ExtTreeSet.mem_ofList, List.contains_iff_mem]

/-- An event in the session notes the objects that it concerns. -/
theorem invalidated_applySession (taken : p.invalidated = ∅) (s : Session) (e : SessionEvent) :
    (p.applySession s e).1.invalidated = e.concerned s := by
  have noted : ∀ objects, p.invalidated ∪ objects = objects := by
    intro objects
    rw [taken, empty_union]
  cases e with
  | accepted tx =>
    dsimp only [applySession, SessionEvent.concerned]
    rw [Replica.accept]
    cases s.document.find? tx with
    | none => exact taken
    | some found => exact noted _
  | rejected tx reason =>
    dsimp only [applySession, SessionEvent.concerned]
    rw [Replica.reject]
    cases s.document.find? tx with
    | none => exact taken
    | some found => exact noted _
  | othersTransaction tx => exact noted _
  | _ => exact taken

/-- An event notes the objects that it concerns. -/
theorem invalidated_applyEvent (taken : p.invalidated = ∅) (e : SystemEvent) :
    (p.applyEvent e).1.invalidated = e.concerned p := by
  have noted : ∀ objects, p.invalidated ∪ objects = objects := by
    intro objects
    rw [taken, empty_union]
  cases e with
  | connected connection => exact taken
  | joinedSession id roster snapshot => exact noted _
  | leftSession =>
    rw [applyEvent, SystemEvent.concerned]
    cases p.session? with
    | some s => exact noted _
    | none => exact taken
  | session event =>
    rw [applyEvent, SystemEvent.concerned]
    cases p.session? with
    | some s => exact invalidated_applySession taken s event
    | none => exact taken

theorem view_of_session {s : Session} (h : p.session? = some s) : p.view = s.document.view := by
  rw [view, document, h]

/-- A document that looks different was touched, if only a touch can make it look different. -/
theorem mem_of_view_ne {document document' : Replica} {touched : ObjectSet}
    (name : document'.id = document.id)
    (apart : document.id ∉ touched → document'.view = document.view)
    (changed : document'.view ≠ document.view) : document'.view.id ∈ touched := by
  have mem : document.id ∈ touched := Classical.byContradiction fun h => changed (apart h)
  have here : document'.view.id = document.id := name
  rw [here]
  exact mem

/-- An event in the session changes the document only if it concerns it. -/
theorem view_applySession {s : Session} (h : p.session? = some s) (e : SessionEvent)
    (changed : (p.applySession s e).1.view ≠ p.view) :
    (p.applySession s e).1.view.id ∈ e.concerned s := by
  rw [view_of_session h] at changed
  cases e with
  | accepted tx =>
    dsimp only [applySession, SessionEvent.concerned] at changed ⊢
    cases found : s.document.find? tx with
    | none =>
      rw [Replica.accept, found] at changed
      exact absurd (view_of_session h) changed
    | some answered =>
      have apart := s.document.view_accept found
      rw [Replica.accept, found] at changed apart ⊢
      exact mem_of_view_ne (Store.id_process _ _) apart changed
  | rejected tx reason =>
    dsimp only [applySession, SessionEvent.concerned] at changed ⊢
    cases found : s.document.find? tx with
    | none =>
      rw [Replica.reject, found] at changed
      exact absurd (view_of_session h) changed
    | some answered =>
      have apart := s.document.view_reject found
      rw [Replica.reject, found] at changed apart ⊢
      have name : (s.document.drop tx).id = s.document.id := rfl
      exact mem_of_view_ne name apart changed
  | othersTransaction tx =>
    exact mem_of_view_ne (Store.id_process _ _) s.document.view_applyRemote changed
  | fragment f => exact absurd (view_of_session h) changed
  | someoneJoined connection => exact absurd rfl changed
  | someoneLeft connection => exact absurd rfl changed
  | rosterChanged roster => exact absurd rfl changed

/-- An event changes the current document, or makes another document the current one, only if it
concerns that document. -/
theorem view_applyEvent (p : Participant) (e : SystemEvent)
    (changed : (p.applyEvent e).1.view ≠ p.view) :
    (p.applyEvent e).1.view.id ∈ e.concerned p := by
  cases e with
  | connected connection => exact absurd rfl changed
  | joinedSession id roster snapshot => exact mem_ofList.mpr List.mem_cons_self
  | leftSession =>
    rw [applyEvent, SystemEvent.concerned] at *
    cases h : p.session? with
    | some s => exact mem_ofList.mpr (List.mem_cons_of_mem _ List.mem_cons_self)
    | none =>
      rw [h] at changed
      exact absurd rfl changed
  | session event =>
    rw [applyEvent, SystemEvent.concerned] at *
    cases h : p.session? with
    | some s =>
      rw [h] at changed
      exact view_applySession h event changed
    | none =>
      rw [h] at changed
      exact absurd rfl changed

/-- An edit concerns the current document. -/
theorem view_push (p : Participant) (edit : Edit) :
    (p.push edit).1.view.id = p.document.id := by
  rw [push, document]
  cases h : p.session? with
  | some s => rfl
  | none =>
    show ((p.pushHome edit).document).id = p.home.id
    have home : (p.pushHome edit).document = (p.pushHome edit).home := by
      rw [document]
      show (match p.session? with | some s => s.document | none => _) = _
      rw [h]
    rw [home]
    exact Store.id_process _ _

theorem invalidated_push {p : Participant} (taken : p.invalidated = ∅) (edit : Edit) :
    (p.push edit).1.invalidated = .ofList [p.document.id] := by
  have noted : ∀ objects, p.invalidated ∪ objects = objects := by
    intro objects
    rw [taken, empty_union]
  obtain ⟨title⟩ := edit
  rw [push, document]
  cases p.session? with
  | some s => exact noted _
  | none => exact noted _

end Participant

/-! ### The calls -/

/-- The object that a listener is called with. -/
def Notice.object? : Notice → Option ObjectId
  | object id => some id
  | roster _ => none

/-- The calls of listeners for objects. -/
def Diary.objectCalls {L M : Type} (d : Diary L M) : List (Call L) :=
  d.calls.filter (·.notice.object?.isSome)

namespace Client

variable {L M : Type} {c : Observed L M} {habits : Habits L M}

/-- The calls that are due when a participant has some objects looked at again: those of every
listener registered for one of them, and the participant is then as it is now. -/
def calling (watchers : ObjectWatchers L) (p : Participant) (objects : List ObjectId) :
    List (Call L) :=
  objects.flatMap fun object => (watchers.of object).toList.map fun entry =>
    ⟨entry.2, .object object, p.view, p.roster⟩

/-- The client when some calls are written down, and the listeners remember something. -/
def told (c : Observed L M) (calls : List (Call L)) (own : M) : Observed L M :=
  { c with memory := { c.memory with calls := c.memory.calls ++ calls, own } }

/-- The action makes some calls, one after the other. It makes all of them unless it fails. -/
def Tells {α : Type} (calls : List (Call L)) (x : Action Participant L (Diary L M) α)
    (c : Observed L M) : Prop :=
  ∃ made own, made <+: calls ∧ x.after c = c.told made own ∧
    ∀ a c', x c = .ok a c' → made = calls

theorem Tells.pure {α : Type} (a : α) (c : Observed L M) :
    Tells [] (pure a : Action Participant L (Diary L M) α) c := by
  refine ⟨[], c.memory.own, List.prefix_rfl, ?_, fun _ _ _ => rfl⟩
  rw [told, List.append_nil]
  rfl

theorem Tells.bind {α β : Type} {first others : List (Call L)}
    {x : Action Participant L (Diary L M) α} {f : α → Action Participant L (Diary L M) β}
    (hx : Tells first x c) (hf : ∀ a own, Tells others (f a) (c.told first own)) :
    Tells (first ++ others) (x >>= f) c := by
  obtain ⟨made, own, some_made, after, all⟩ := hx
  cases hc : x c with
  | ok a c' =>
    obtain rfl := all a c' hc
    rw [after_of_ok hc] at after
    subst after
    obtain ⟨made', own', some_made', after', all'⟩ := hf a own
    refine ⟨made ++ made', own', (List.prefix_append_right_inj made).mpr some_made', ?_, ?_⟩
    · rw [after_bind_of_ok hc, after', told, told, told, List.append_assoc]
    · intro b c' h
      rw [bind_of_ok hc] at h
      rw [all' b c' h]
  | error fault c' =>
    rw [after_of_error hc] at after
    refine ⟨made, own, some_made.trans (List.prefix_append _ _), ?_, ?_⟩
    · rw [after_bind_of_error hc, after]
    · intro b c' h
      rw [bind_of_error hc] at h
      exact nomatch h

theorem Tells.map {α β : Type} {calls : List (Call L)}
    {x : Action Participant L (Diary L M) α} (hx : Tells calls x c) (f : α → β) :
    Tells calls (do return f (← x)) c := by
  have both := hx.bind fun a own => Tells.pure (f a) (c.told calls own)
  rw [List.append_nil] at both
  exact both

/-- A listener who only looks is called, and perhaps remembers something. -/
theorem tells_reaction (looking : habits.OnlyLook) (listener : L) (notice : Notice)
    (c : Observed L M) :
    Tells [⟨listener, notice, c.core.view, c.core.roster⟩] (habits.reaction listener notice) c := by
  have within := looking listener notice
    (c.told [⟨listener, notice, c.core.view, c.core.roster⟩] c.memory.own)
  have performed : (habits.reaction listener notice).after c =
      (habits listener notice
        (c.told [⟨listener, notice, c.core.view, c.core.roster⟩] c.memory.own)).act.after
          (c.told [⟨listener, notice, c.core.view, c.core.roster⟩] c.memory.own) := rfl
  cases conduct : habits listener notice
      (c.told [⟨listener, notice, c.core.view, c.core.roster⟩] c.memory.own) with
  | finish own =>
    rw [conduct] at performed
    exact ⟨_, own, List.prefix_rfl, performed, fun _ _ _ => rfl⟩
  | fail fault =>
    rw [conduct] at performed
    exact ⟨_, c.memory.own, List.prefix_rfl, performed, fun _ _ _ => rfl⟩
  | perform op others next =>
    rw [conduct] at within
    exact absurd within.1 id

theorem tells_callObjectListeners (looking : habits.OnlyLook) {object : ObjectId}
    {listeners : List (ListenerId × L)} (c : Observed L M)
    (registered : ∀ entry ∈ listeners, c.objectWatchers.isRegistered object entry.1) :
    Tells (listeners.map fun entry => ⟨entry.2, .object object, c.core.view, c.core.roster⟩)
      (callObjectListeners habits.reaction object listeners) c := by
  induction listeners generalizing c with
  | nil => exact .pure 0 c
  | cons entry rest ih =>
    have here : callObjectListeners habits.reaction object (entry :: rest) c = (do
        habits.reaction entry.2 (.object object)
        return (← callObjectListeners habits.reaction object rest) + 1) c := by
      rw [callObjectListeners, get_bind, if_pos (registered entry List.mem_cons_self)]
    have others := fun own => ih (c.told
      [⟨entry.2, .object object, c.core.view, c.core.roster⟩] own) fun other h =>
        registered other (List.mem_cons_of_mem _ h)
    have both : Tells ((entry :: rest).map fun entry =>
        ⟨entry.2, .object object, c.core.view, c.core.roster⟩) (do
          habits.reaction entry.2 (.object object)
          return (← callObjectListeners habits.reaction object rest) + 1) c :=
      (tells_reaction looking entry.2 (.object object) c).bind fun _ own => (others own).map (· + 1)
    unfold Tells at both ⊢
    rw [after, here]
    exact both

theorem tells_notifyObjects (looking : habits.OnlyLook) (objects : List ObjectId)
    (c : Observed L M) :
    Tells (calling c.objectWatchers c.core objects) (notifyObjects habits.reaction objects) c := by
  induction objects generalizing c with
  | nil => exact .pure 0 c
  | cons object rest ih =>
    have registered : ∀ entry ∈ (c.objectWatchers.of object).toList,
        c.objectWatchers.isRegistered object entry.1 := by
      intro entry mem
      have value := Std.ExtTreeMap.mem_toList_iff_getElem?_eq_some.mp mem
      rw [ObjectWatchers.isRegistered, Std.ExtTreeMap.contains_eq_isSome_getElem?, value]
      rfl
    exact (tells_callObjectListeners looking c registered).bind fun calls own =>
      (ih (c.told _ own)).map (calls + ·)

/-! ### After an operation -/

/-- The client has the documents of a participant, all objects to be looked at again are taken, and
listeners for objects were called so often. -/
structure Stands (p : Participant) (calls : List (Call L)) (c : Observed L M) : Prop where
  /-- The session is that of the participant. -/
  session : c.core.session? = p.session?
  /-- The own document is that of the participant. -/
  home : c.core.home = p.home
  /-- Nothing is left to be looked at. -/
  taken : c.core.invalidated = ∅
  /-- These calls were made. -/
  calls : c.memory.objectCalls = calls

namespace Stands

variable {p : Participant} {calls : List (Call L)}

theorem of_matches {c' : Observed L M} (h : c.Stands p calls) (same : c.Matches c') :
    c'.Stands p calls := by
  refine ⟨?_, ?_, ?_, ?_⟩
  · rw [same.core, h.session]
  · rw [same.core, h.home]
  · rw [same.core, h.taken]
  · rw [same.memory, h.calls]

theorem document (h : c.Stands p calls) : c.core.document = p.document := by
  rw [Participant.document, Participant.document, h.session, h.home]

theorem view (h : c.Stands p calls) : c.core.view = p.view := by
  rw [Participant.view, Participant.view, h.document]

theorem roster (h : c.Stands p calls) : c.core.roster = p.roster := by
  rw [Participant.roster, Participant.roster, h.session]

end Stands

theorem objectCalls_told (c : Observed L M) (calls : List (Call L)) (own : M) :
    (c.told calls own).memory.objectCalls =
      c.memory.objectCalls ++ calls.filter (·.notice.object?.isSome) :=
  List.filter_append _ _

section Keeping

variable {p : Participant} {calls : List (Call L)}

theorem stands_publishRoster (looking : habits.OnlyLook) :
    Keeps (Stands p calls) (publishRoster habits.reaction) := by
  refine publishRoster_keeps (fun _ h => ⟨h.session, h.home, h.taken, h.calls⟩)
    (fun _ _ _ h => ⟨h.session, h.home, h.taken, h.calls⟩) fun listener roster c h => ?_
  obtain ⟨made, own, some_made, told, -⟩ := tells_reaction looking listener (.roster roster) c
  -- whether or not the call is made, it is not one of those that count
  have silent : made.filter (·.notice.object?.isSome) = [] := by
    refine List.filter_eq_nil_iff.mpr fun call mem => ?_
    obtain rfl := List.mem_singleton.mp (some_made.subset mem)
    exact nofun
  rw [told]
  refine ⟨h.session, h.home, h.taken, ?_⟩
  rw [objectCalls_told, silent, List.append_nil, h.calls]

theorem stands_drain :
    Keeps (Stands p calls) (drain : Action Participant L (Diary L M) (Except SyncError Nat)) :=
  drain_keeps (fun _ _ _ _ _ h => ⟨h.session, h.home, h.taken, h.calls⟩)
    (fun _ _ _ _ _ _ h => ⟨h.session, h.home, h.taken, h.calls⟩)
    fun _ _ _ h => ⟨h.session, h.home, h.taken, h.calls⟩

end Keeping

/-- What an operation does to a client whose listeners only look: the documents become those of
`p`, and the listeners for the given objects are called, all of them if the operation returns. -/
def Informs {α : Type} (p : Participant) (objects : ObjectSet)
    (x : Action Participant L (Diary L M) α) (c : Observed L M) : Prop :=
  ∃ made, (x.after c).Stands p (c.memory.objectCalls ++ made) ∧
    made <+: calling c.objectWatchers p objects.toList ∧
    ∀ a c', x c = .ok a c' → made = calling c.objectWatchers p objects.toList

theorem Informs.of_stands {α : Type} {p : Participant} {x : Action Participant L (Diary L M) α}
    (h : (x.after c).Stands p c.memory.objectCalls) : Informs p ∅ x c := by
  refine ⟨[], ?_, List.nil_prefix, fun _ _ _ => rfl⟩
  rw [List.append_nil]
  exact h

theorem Informs.of_eq {α : Type} {p : Participant} {objects : ObjectSet}
    {x y : Action Participant L (Diary L M) α} {c' : Observed L M} (h : Informs p objects y c')
    (watchers : c'.objectWatchers = c.objectWatchers)
    (calls : c'.memory.objectCalls = c.memory.objectCalls) (same : x c = y c') :
    Informs p objects x c := by
  unfold Informs after at h ⊢
  rw [same, ← watchers, ← calls]
  exact h

theorem Informs.map {α β : Type} {p : Participant} {objects : ObjectSet}
    {x : Action Participant L (Diary L M) α} (h : Informs p objects x c) (f : α → β) :
    Informs p objects (do return f (← x)) c := by
  obtain ⟨made, stands, some_made, all⟩ := h
  refine ⟨made, ?_, some_made, fun b c' hb => ?_⟩
  · have kept : (do return f (← x)).after c = x.after c := after_bind fun a c' => ⟨f a, rfl⟩
    rw [kept]
    exact stands
  · cases hx : x c with
    | ok a c' => exact all a c' hx
    | error fault c' => exact absurd hb (bind_ne_ok hx)

/-- A pass over the listeners, and whatever comes after it. -/
theorem informs_publishObjects {α : Type} (looking : habits.OnlyLook)
    {f : Nat → Action Participant L (Diary L M) α}
    (rest : ∀ n calls, Keeps (Stands c.core calls) (f n)) :
    Informs c.core c.core.invalidated (publishObjects habits.reaction >>= f) c := by
  obtain ⟨made, own, some_made, told, all⟩ := tells_notifyObjects looking
    c.core.invalidated.toList { c with core := c.core.takeInvalidated.1 }
  have publish : publishObjects habits.reaction c =
      notifyObjects habits.reaction c.core.invalidated.toList
        { c with core := c.core.takeInvalidated.1 } := rfl
  have counted : made.filter (·.notice.object?.isSome) = made := by
    refine List.filter_eq_self.mpr fun call mem => ?_
    obtain ⟨object, -, due⟩ := List.mem_flatMap.mp (some_made.subset mem)
    obtain ⟨entry, -, rfl⟩ := List.mem_map.mp due
    rfl
  have stands : ((publishObjects habits.reaction).after c).Stands c.core
      (c.memory.objectCalls ++ made) := by
    rw [after, publish]
    unfold after at told
    rw [told]
    refine ⟨rfl, rfl, rfl, ?_⟩
    rw [objectCalls_told, counted]
  refine ⟨made, ?_, some_made, fun a c' h => ?_⟩
  · cases hc : publishObjects habits.reaction c with
    | ok n c' =>
      rw [after_of_ok hc] at stands
      rw [after_bind_of_ok hc]
      exact rest n _ c' stands
    | error fault c' =>
      rw [after_of_error hc] at stands
      rw [after_bind_of_error hc]
      exact stands
  · cases hc : publishObjects habits.reaction c with
    | ok n c' => exact all n c' (publish.symm.trans hc)
    | error fault c' => exact absurd h (bind_ne_ok hc)

theorem informs_route (looking : habits.OnlyLook) (taken : c.core.invalidated = ∅)
    (frame : Frame) :
    ∃ p, Informs p (frame.concerned c.core) (route habits.reaction frame) c ∧
      (p.view ≠ c.core.view → p.view.id ∈ frame.concerned c.core) := by
  rw [Frame.concerned]
  cases found : frame.event? with
  | none =>
    have still : c.Stands c.core c.memory.objectCalls := ⟨rfl, rfl, taken, rfl⟩
    exact ⟨c.core, .of_stands (still.of_matches (route_of_no_event found)), absurd rfl⟩
  | some event =>
    obtain ⟨message, c', same, hroute⟩ := route_of_event (c := c) habits.reaction found
    have noted : c'.core.invalidated = event.concerned c.core := by
      rw [same.core]
      exact Participant.invalidated_applyEvent taken event
    have informs := informs_publishObjects (c := c') looking (f := fun _ => do
      let _ ← publishRoster habits.reaction
      conclude message event) fun _ calls => (stands_publishRoster looking).bind fun _ =>
        conclude_keeps (fun _ h _ same => h.of_matches same) message event
    rw [noted, same.core] at informs
    refine ⟨_, informs.of_eq same.objectWatchers ?_ hroute, c.core.view_applyEvent event⟩
    rw [same.memory]

theorem informs_push (looking : habits.OnlyLook) (taken : c.core.invalidated = ∅) (edit : Edit) :
    Informs (c.core.push edit).1 (.ofList [c.core.document.id])
      ((Operation.push edit).performNoted habits.reaction) c := by
  have noted := Participant.invalidated_push taken edit
  have informs := informs_publishObjects (c := { c with
      core := (c.core.push edit).1
      log := c.log ++ c.core.pushNotes
      memory := c.memory.note c.core (.push edit) })
    looking fun _ _ => dispatch_keeps stands_drain
  rw [noted] at informs
  exact informs.of_eq rfl rfl (push_eq habits.reaction edit c)

/-- Every operation but a whole stream of frames calls the listeners that it concerns, when it has
changed what it changes. -/
theorem informs_performNoted (looking : habits.OnlyLook) (taken : c.core.invalidated = ∅)
    {op : Operation L} (single : ∀ frames, op ≠ .run frames) :
    ∃ p, Informs p (op.concerned c.core) (op.performNoted habits.reaction) c ∧
      (p.view ≠ c.core.view → p.view.id ∈ op.concerned c.core) := by
  have still {op : Operation L} (kept : (op.performNoted habits.reaction).after c |>.Stands c.core
      c.memory.objectCalls) : ∃ p, Informs p ∅ (op.performNoted habits.reaction) c ∧
        (p.view ≠ c.core.view → p.view.id ∈ (∅ : ObjectSet)) :=
    ⟨c.core, .of_stands kept, absurd rfl⟩
  cases op with
  | request command =>
    obtain ⟨link, replies, -, ended⟩ := request_after habits.reaction command c
    refine still ?_
    rw [ended]
    exact ⟨rfl, rfl, taken, rfl⟩
  | fragment f =>
    obtain ⟨link, replies, -, ended⟩ := fragment_after habits.reaction f c
    refine still ?_
    rw [ended]
    exact ⟨rfl, rfl, taken, rfl⟩
  | push edit =>
    refine ⟨_, informs_push looking taken edit, fun _ => ?_⟩
    rw [Participant.view_push]
    exact Participant.mem_ofList.mpr List.mem_cons_self
  | route frame =>
    obtain ⟨p, informs, view⟩ := informs_route looking taken frame
    exact ⟨p, (informs.map Answer.routed : _), view⟩
  | run frames => exact absurd rfl (single frames)
  | advance milliseconds =>
    have kept : Keeps (Stands c.core c.memory.objectCalls)
        (advance milliseconds : Action Participant L (Diary L M) Unit) :=
      advance_keeps (fun _ _ h => ⟨h.session, h.home, h.taken, h.calls⟩) milliseconds
    exact still ((kept.bind fun _ => .pure Answer.done) c ⟨rfl, rfl, taken, rfl⟩)
  | _ => exact still ⟨rfl, rfl, taken, rfl⟩

/-- The document is never changed behind its listeners. In any run of a new client whose listeners
only look, take an operation that is not a whole stream of frames, the client `c` before it and
the client `d` after it. Then

* the calls of listeners for objects are those of the listeners registered for the objects that the
  operation concerns, each once, with the document and the roster as they are after the operation;
  if the operation comes to a fault, the last of these calls may be missing;
* if the current document is another one or has another title, then it is one of these objects. -/
theorem document_never_behind (looking : habits.OnlyLook) {ids : IdSource} {settings : Settings}
    {own : M} {fresh : Observed L M}
    (created : create (Participant.create ids) settings (Diary.blank own) = .ok fresh) (link : Link)
    (before : List (Operation L)) {op : Operation L} (single : ∀ frames, op ≠ .run frames) :
    let c := operateAllNoted habits { fresh with link } before
    let d := operateNoted habits c op
    let due : List (Call L) := (op.concerned c.core).toList.flatMap fun object =>
      (c.objectWatchers.of object).toList.map fun entry =>
        ⟨entry.2, .object object, d.core.view, d.core.roster⟩
    (∃ made, d.memory.objectCalls = c.memory.objectCalls ++ made ∧ made <+: due ∧
      ∀ answer d', op.performNoted habits.reaction c = .ok answer d' → made = due) ∧
      (d.core.view ≠ c.core.view → d.core.view.id ∈ op.concerned c.core) := by
  intro c d due
  have taken : c.core.invalidated = ∅ := by
    refine (tidySince_operateAllNoted habits ?_ before).taken
    obtain ⟨feed, rfl⟩ := eq_of_create created
    rfl
  obtain ⟨p, ⟨made, stands, some_made, all⟩, view⟩ := informs_performNoted looking taken single
  have due_eq : calling c.objectWatchers p (op.concerned c.core).toList = due := by
    have hview : d.core.view = p.view := stands.view
    have hroster : d.core.roster = p.roster := stands.roster
    simp only [due, hview, hroster]
    rfl
  rw [due_eq] at some_made all
  refine ⟨⟨made, stands.calls, some_made, all⟩, fun changed => ?_⟩
  have hview : d.core.view = p.view := stands.view
  rw [hview] at changed ⊢
  exact view changed

/-- A session with a document is entered, for which there are two listeners. -/
def sessionWatched : List (Operation Unit) :=
  [.watchObject ⟨"plan"⟩ (), .watchObject ⟨"other"⟩ (),
    .route (Inbound.notice (.joinedSession 7 ⟨[3]⟩ ⟨some ⟨"plan"⟩, [], []⟩)).toFrame,
    .watchObject ⟨"plan"⟩ ()]

theorem document_never_behind_retitled :
    let c := operateAllNoted idle { diarist with link := .create } sessionWatched
    let d := operateNoted idle c (.push (.retitle "a"))
    idle.OnlyLook ∧ create (.create (.labelled 1)) .usual (.blank ()) = .ok diarist ∧
      (∀ frames, Operation.push (.retitle "a") ≠ (.run frames : Operation Unit)) ∧
      d.core.view ≠ c.core.view ∧ d.core.view.id ∈ Std.ExtTreeSet.ofList [c.core.document.id] ∧
      d.memory.objectCalls = c.memory.objectCalls ++
        [⟨(), .object ⟨"plan"⟩, ⟨⟨"plan"⟩, "a"⟩, ⟨[3]⟩⟩,
          ⟨(), .object ⟨"plan"⟩, ⟨⟨"plan"⟩, "a"⟩, ⟨[3]⟩⟩] := by
  intro c d
  have single : ∀ frames, Operation.push (.retitle "a") ≠ (.run frames : Operation Unit) := nofun
  have changed : d.core.view ≠ c.core.view := by decide +kernel
  obtain ⟨⟨made, calls, -, all⟩, concerned⟩ :=
    document_never_behind onlyLook_idle create_diarist .create sessionWatched single
  refine ⟨onlyLook_idle, create_diarist, single, changed, concerned changed, ?_⟩
  have returns : (match (Operation.push (.retitle "a")).performNoted idle.reaction c with
      | .ok _ _ => true
      | .error _ _ => false) = true := by decide +kernel
  cases performed : (Operation.push (.retitle "a")).performNoted idle.reaction c with
  | error fault d' =>
    rw [performed] at returns
    exact nomatch returns
  | ok answer d' =>
    refine calls.trans ?_
    rw [all answer d' performed]
    decide +kernel

end Client

end Whiteboard
