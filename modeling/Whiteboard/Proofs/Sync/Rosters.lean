import Whiteboard.Proofs.Sync.Registry
import Whiteboard.Proofs.Sync.Runs

/-!
# Listeners for the roster are up to date

A participant notes that its roster is a new one, and the client takes this note when it has
applied an event. Between operations there is no such note, so that a listener is told when the
roster is renewed and at no other time.

The listeners here may use the client in every way but one: they route no frames. They may also
fail. Then those whose turn has not come are not called, and a note that was not taken is taken by
a later operation. The next new roster makes up for it.
-/

namespace Whiteboard

open Whiteboard.Action

/-! ### New rosters -/

/-- Whether an event in a session gives it a new roster. -/
def SessionEvent.renewsRoster : SessionEvent → Bool
  | .someoneJoined _ | .someoneLeft _ | .rosterChanged _ => true
  | _ => false

/-- Whether an event gives a participant a new roster. -/
def SystemEvent.renewsRoster (p : Participant) : SystemEvent → Bool
  | .connected _ => false
  | .joinedSession .. => true
  | .leftSession => p.session?.isSome
  | .session event => p.session?.isSome && event.renewsRoster

/-- Whether an inbound frame gives a participant a new roster. -/
def Frame.renewsRoster (p : Participant) (frame : Frame) : Bool :=
  frame.event?.any (·.renewsRoster p)

namespace Participant

variable {p : Participant}

/-- In a session, a new roster is noted, and a note that is there stays. -/
theorem rosterChanged_applySession (p : Participant) (s : Session) (e : SessionEvent) :
    (p.applySession s e).1.rosterChanged = (p.rosterChanged || e.renewsRoster) := by
  cases e with
  | someoneJoined | someoneLeft | rosterChanged => exact (Bool.or_true _).symm
  | fragment | othersTransaction => exact (Bool.or_false _).symm
  | accepted tx =>
    dsimp only [applySession]
    rw [Replica.accept]
    cases s.document.find? tx <;> exact (Bool.or_false _).symm
  | rejected tx reason =>
    dsimp only [applySession]
    rw [Replica.reject]
    cases s.document.find? tx <;> exact (Bool.or_false _).symm

/-- A new roster is noted, and a note that is there stays. -/
theorem rosterChanged_applyEvent (p : Participant) (e : SystemEvent) :
    (p.applyEvent e).1.rosterChanged = (p.rosterChanged || e.renewsRoster p) := by
  cases e with
  | connected connection => exact (Bool.or_false _).symm
  | joinedSession id roster snapshot => exact (Bool.or_true _).symm
  | leftSession =>
    rw [applyEvent, SystemEvent.renewsRoster]
    cases p.session? with
    | some s => exact (Bool.or_true _).symm
    | none => exact (Bool.or_false _).symm
  | session event =>
    rw [applyEvent, SystemEvent.renewsRoster]
    cases p.session? with
    | some s => exact p.rosterChanged_applySession s event
    | none => exact (Bool.or_false _).symm

theorem roster_of_session {s : Session} (h : p.session? = some s) : p.roster = s.roster := by
  rw [roster, h]

/-- In a session, the roster stays if no new one is given. -/
theorem roster_applySession {s : Session} (h : p.session? = some s) {e : SessionEvent}
    (still : e.renewsRoster = false) : (p.applySession s e).1.roster = p.roster := by
  cases e with
  | someoneJoined | someoneLeft | rosterChanged => exact nomatch still
  | fragment => rfl
  | othersTransaction => exact (roster_of_session h).symm
  | accepted tx =>
    dsimp only [applySession]
    rw [Replica.accept]
    cases s.document.find? tx with
    | some found => exact (roster_of_session h).symm
    | none => rfl
  | rejected tx reason =>
    dsimp only [applySession]
    rw [Replica.reject]
    cases s.document.find? tx with
    | some found => exact (roster_of_session h).symm
    | none => rfl

/-- The roster stays if no new one is given. -/
theorem roster_applyEvent {e : SystemEvent} (still : e.renewsRoster p = false) :
    (p.applyEvent e).1.roster = p.roster := by
  cases e with
  | connected connection => rfl
  | joinedSession id roster snapshot => cases still
  | leftSession =>
    rw [SystemEvent.renewsRoster] at still
    rw [applyEvent]
    cases hs : p.session? with
    | some s =>
      rw [hs] at still
      cases still
    | none => rfl
  | session event =>
    rw [SystemEvent.renewsRoster] at still
    rw [applyEvent]
    cases hs : p.session? with
    | some s =>
      rw [hs] at still
      exact roster_applySession hs still
    | none => rfl

theorem roster_push (p : Participant) (edit : Edit) : (p.push edit).1.roster = p.roster := by
  rw [push]
  cases hs : p.session? with
  | some s => exact (roster_of_session hs).symm
  | none => rfl

theorem rosterChanged_push (p : Participant) (edit : Edit) :
    (p.push edit).1.rosterChanged = p.rosterChanged := by
  rw [push]
  cases p.session? <;> rfl

end Participant

/-! ### The numbers of listeners -/

namespace RosterWatchers

variable {L : Type} {w w₁ w₂ : RosterWatchers L}

/-- Every registered listener has a number that was given out. -/
def Bounded (w : RosterWatchers L) : Prop := ∀ i l, w.listeners[i]? = some l → i < w.nextId

/-- Since then listeners came with new numbers, and listeners went. -/
structure Later (w w' : RosterWatchers L) : Prop where
  nextId : w.nextId ≤ w'.nextId
  /-- Who has an old number had it then. -/
  old : ∀ {i l}, i < w.nextId → w'.listeners[i]? = some l → w.listeners[i]? = some l

theorem Later.refl (w : RosterWatchers L) : w.Later w := ⟨Nat.le_refl _, fun _ h => h⟩

theorem Later.trans (h₁ : w.Later w₁) (h₂ : w₁.Later w₂) : w.Later w₂ where
  nextId := Nat.le_trans h₁.nextId h₂.nextId
  old := fun old h => h₁.old old (h₂.old (Nat.lt_of_lt_of_le old h₁.nextId) h)

theorem Bounded.edit (h : w.Bounded) (e : WatchEdit Unit L) : (w.edit e).Bounded := by
  have given : (registry L).Bounded w := fun _ => h
  exact given.edit e ()

theorem Bounded.add (h : w.Bounded) (listener : L) : (w.add listener).1.Bounded :=
  h.edit (.add () listener)

theorem Bounded.remove (h : w.Bounded) (id : ListenerId) : (w.remove id).1.Bounded :=
  h.edit (.remove () id)

theorem later_edit (w : RosterWatchers L) (e : WatchEdit Unit L) : w.Later (w.edit e) where
  nextId := (registry L).nextId_le_edit w e
  old := fun old found => (((registry L).getElem?_edit_eq_some_iff old e () _).mp found).1

theorem later_add (w : RosterWatchers L) (listener : L) : w.Later (w.add listener).1 :=
  w.later_edit (.add () listener)

theorem later_remove (w : RosterWatchers L) (id : ListenerId) : w.Later (w.remove id).1 :=
  w.later_edit (.remove () id)

theorem isRegistered_of_listeners {i : ListenerId} {l : L} (h : w.listeners[i]? = some l) :
    w.isRegistered i = true := by
  rw [isRegistered, Std.ExtTreeMap.contains_eq_isSome_getElem?, h]
  rfl

end RosterWatchers

/-! ### The calls -/

variable {L M : Type}

/-- The roster that a listener is told of. -/
def Notice.roster? : Notice → Option Roster
  | .roster r => some r
  | .object _ => none

namespace Diary

/-- The calls of listeners for the roster, in order: who was called, and with what. -/
def rosterCalls (d : Diary L M) : List (L × Roster) :=
  d.calls.filterMap fun call => call.notice.roster?.map (call.listener, ·)

/-- The roster that a listener was told of last; the empty one if there was none. -/
def lastRoster [DecidableEq L] (d : Diary L M) (listener : L) : Roster :=
  ((d.rosterCalls.filter (·.1 = listener)).getLast?.map Prod.snd).getD .empty

variable {d d' : Diary L M}

theorem rosterCalls_noteCall_object (d : Diary L M) (listener : L) (object : ObjectId)
    (view : DocumentView) (roster : Roster) :
    (d.noteCall ⟨listener, .object object, view, roster⟩).rosterCalls = d.rosterCalls := by
  rw [rosterCalls, noteCall, List.filterMap_append]
  exact List.append_nil _

theorem rosterCalls_noteCall_roster (d : Diary L M) (listener : L) (told : Roster)
    (view : DocumentView) (roster : Roster) :
    (d.noteCall ⟨listener, .roster told, view, roster⟩).rosterCalls =
      d.rosterCalls ++ [(listener, told)] := by
  rw [rosterCalls, noteCall, List.filterMap_append]
  rfl

theorem rosterCalls_note (d : Diary L M) (p : Participant) (op : Operation L) :
    (d.note p op).rosterCalls = d.rosterCalls := by
  cases op <;> rfl

/-- A listener that is among those told was told last what they were told. -/
theorem lastRoster_of_told [DecidableEq L] {called : List (ListenerId × L)} {roster : Roster}
    (h : d'.rosterCalls = d.rosterCalls ++ called.map fun entry => (entry.2, roster))
    {i : ListenerId} {listener : L} (mem : (i, listener) ∈ called) :
    d'.lastRoster listener = roster := by
  have told : (listener, roster) ∈
      (called.map fun entry => (entry.2, roster)).filter (·.1 = listener) := by
    refine List.mem_filter.mpr ⟨List.mem_map.mpr ⟨_, mem, rfl⟩, ?_⟩
    exact decide_eq_true rfl
  have some_told := List.ne_nil_of_mem told
  rw [lastRoster, h, List.filter_append, List.getLast?_append,
    List.getLast?_eq_some_getLast some_told]
  obtain ⟨entry, -, last⟩ := List.mem_map.mp (List.mem_filter.mp (List.getLast_mem some_told)).1
  rw [← last]
  rfl

end Diary

namespace Client

variable {habits : Habits L M} {c m d : Observed L M} {told told' : List (L × Roster)}

/-- From `c` to `d` the roster stays, and the calls of listeners for it are `told`. -/
structure Steady (c : Observed L M) (told : List (L × Roster)) (d : Observed L M) : Prop where
  roster : d.core.roster = c.core.roster
  changed : d.core.rosterChanged = c.core.rosterChanged
  calls : d.memory.rosterCalls = c.memory.rosterCalls ++ told
  bounded : d.rosterWatchers.Bounded
  later : c.rosterWatchers.Later d.rosterWatchers

theorem Matches.bounded (same : c.Matches d) (bounded : c.rosterWatchers.Bounded) :
    d.rosterWatchers.Bounded := by
  rw [same.rosterWatchers]
  exact bounded

namespace Steady

theorem refl (bounded : c.rosterWatchers.Bounded) : c.Steady [] c :=
  ⟨rfl, rfl, (List.append_nil _).symm, bounded, .refl _⟩

theorem trans (h₁ : c.Steady told m) (h₂ : m.Steady told' d) : c.Steady (told ++ told') d where
  roster := h₂.roster.trans h₁.roster
  changed := h₂.changed.trans h₁.changed
  calls := by rw [h₂.calls, h₁.calls, List.append_assoc]
  bounded := h₂.bounded
  later := h₁.later.trans h₂.later

/-- Whatever the client does between the calls, the roster is steady meanwhile. -/
theorem upheld (c : Observed L M) (told : List (L × Roster)) : Upheld (Steady c told) where
  aside := by
    intro d h d' same
    refine ⟨?_, ?_, ?_, same.bounded h.bounded, ?_⟩
    · rw [same.core, h.roster]
    · rw [same.core, h.changed]
    · rw [same.memory, h.calls]
    · rw [same.rosterWatchers]
      exact h.later
  watched := fun _ h => ⟨h.roster, h.changed, h.calls, h.bounded, h.later⟩
  rosterWatched := fun listener h => ⟨h.roster, h.changed, h.calls, h.bounded.add listener,
    h.later.trans (RosterWatchers.later_add _ listener)⟩
  rosterUnwatched := fun id h => ⟨h.roster, h.changed, h.calls, h.bounded.remove id,
    h.later.trans (RosterWatchers.later_remove _ id)⟩
  remembered := fun _ h => ⟨h.roster, h.changed, h.calls, h.bounded, h.later⟩
  called := fun _ _ h => ⟨h.roster, h.changed,
    (Diary.rosterCalls_noteCall_object ..).trans h.calls, h.bounded, h.later⟩
  asked := fun _ _ h _ => ⟨h.roster, h.changed, h.calls, h.bounded, h.later⟩
  pushed := fun edit h => ⟨(Participant.roster_push _ edit).trans h.roster,
    (Participant.rosterChanged_push _ edit).trans h.changed,
    (Diary.rosterCalls_note ..).trans h.calls, h.bounded, h.later⟩
  taken := fun h => ⟨h.roster, h.changed, h.calls, h.bounded, h.later⟩
  forwarded := fun _ _ _ _ h => ⟨h.roster, h.changed, h.calls, h.bounded, h.later⟩
  refused := fun _ _ _ _ _ h => ⟨h.roster, h.changed, h.calls, h.bounded, h.later⟩

/-- A listener that is told of the roster does not change it. -/
theorem reaction (never : habits.NeverRoute) (h : c.Steady told m) (listener : L)
    (roster : Roster) :
    c.Steady (told ++ [(listener, roster)])
      ((habits.reaction listener (.roster roster)).after m) := by
  have written : c.Steady (told ++ [(listener, roster)]) { m with
      memory := m.memory.noteCall
        ⟨listener, .roster roster, m.core.view, m.core.roster⟩ } := by
    refine ⟨h.roster, h.changed, ?_, h.bounded, h.later⟩
    rw [Diary.rosterCalls_noteCall_roster, h.calls, List.append_assoc]
  exact (upheld c _).act (never listener (.roster roster) _) _ written

end Steady

/-- A pass over listeners calls those that are still registered when their turn comes. None of the
others could be registered again, since a number is given out once. -/
theorem steady_callRosterListeners (never : habits.NeverRoute) (roster : Roster)
    (bounded : c.rosterWatchers.Bounded) (listeners : List (ListenerId × L)) :
    ∃ called : List (ListenerId × L), called.Sublist listeners ∧
      c.Steady (called.map fun entry => (entry.2, roster))
        ((callRosterListeners habits.reaction roster listeners).after c) ∧
      ∀ d, callRosterListeners habits.reaction roster listeners c = .ok () d →
        ∀ entry ∈ listeners, entry.1 < c.rosterWatchers.nextId →
          d.rosterWatchers.listeners[entry.1]? = some entry.2 → entry ∈ called := by
  induction listeners generalizing c with
  | nil =>
    refine ⟨[], List.nil_sublist _, .refl bounded, fun _ _ entry mem => ?_⟩
    exact absurd mem List.not_mem_nil
  | cons entry rest ih =>
    rw [callRosterListeners, after_get_bind, get_bind]
    by_cases registered : c.rosterWatchers.isRegistered entry.1
    · rw [if_pos registered]
      have first := Steady.reaction never (.refl bounded) entry.2 roster
      cases hfirst : habits.reaction entry.2 (.roster roster) c with
      | error fault m =>
        rw [after_of_error hfirst] at first
        refine ⟨[entry], List.singleton_sublist.mpr List.mem_cons_self, ?_, fun d ended => ?_⟩
        · rw [after_bind_of_error hfirst]
          exact first
        · exact absurd ended (bind_ne_ok hfirst)
      | ok done m =>
        rw [after_of_ok hfirst] at first
        obtain ⟨called, some_called, steady, all⟩ := ih first.bounded
        refine ⟨entry :: called, some_called.cons_cons entry, ?_, fun d ended => ?_⟩
        · rw [after_bind_of_ok hfirst]
          exact first.trans steady
        · rw [bind_of_ok hfirst] at ended
          intro other mem old found
          cases mem with
          | head => exact List.mem_cons_self
          | tail _ mem =>
            have old' := Nat.lt_of_lt_of_le old first.later.nextId
            exact List.mem_cons_of_mem _ (all d ended other mem old' found)
    · rw [if_neg registered]
      obtain ⟨called, some_called, steady, all⟩ := ih bounded
      refine ⟨called, some_called.cons entry, steady, fun d ended other mem old found => ?_⟩
      cases mem with
      | tail _ mem => exact all d ended other mem old found
      | head =>
        rw [after_of_ok ended] at steady
        have before := steady.later.old old found
        exact absurd (RosterWatchers.isRegistered_of_listeners before) registered

/-- From `c` to `d` those of `called` were called, in one pass over the listeners for the roster or
in the beginning of one. -/
structure Round (c : Observed L M) (called : List (ListenerId × L)) (d : Observed L M) : Prop where
  /-- They were registered when the pass began. -/
  registered : ∃ reached, c.rosterWatchers.Later reached ∧ reached.Later d.rosterWatchers ∧
    ∀ i l, (i, l) ∈ called → reached.listeners[i]? = some l
  /-- Nobody was called twice. -/
  once : (called.map Prod.fst).Nodup
  /-- They were told of the roster. -/
  calls : d.memory.rosterCalls =
    c.memory.rosterCalls ++ called.map fun entry => (entry.2, d.core.roster)

/-- An action makes a pass over the listeners for the roster. If it comes to no fault, nobody was
left out who was there all the time, and the new roster is taken. -/
def Rounds {α : Type} (x : Action Participant L (Diary L M) α) (c : Observed L M) : Prop :=
  ∃ called, c.Round called (x.after c) ∧
    ∀ a d, x c = .ok a d → d.core.rosterChanged = false ∧
      ∀ i l, c.rosterWatchers.listeners[i]? = some l → d.rosterWatchers.listeners[i]? = some l →
        (i, l) ∈ called

namespace Rounds

variable {α β : Type} {x : Action Participant L (Diary L M) α}
  {f : α → Action Participant L (Diary L M) β}

theorem of_eq {y : Action Participant L (Diary L M) α} {c' : Observed L M} (h : Rounds y c')
    (watchers : c'.rosterWatchers = c.rosterWatchers) (memory : c'.memory = c.memory)
    (same : x c = y c') : Rounds x c := by
  obtain ⟨called, ⟨registered, once, calls⟩, all⟩ := h
  unfold after at registered calls
  rw [← same] at registered calls all
  rw [watchers] at registered all
  rw [memory] at calls
  exact ⟨called, ⟨registered, once, calls⟩, all⟩

/-- What follows the pass matters neither to the participant nor to the listeners. -/
theorem bind_rest (h : Rounds x c) (rest : ∀ a m, ∃ b d, f a m = .ok b d ∧ m.Matches d) :
    Rounds (x >>= f) c := by
  obtain ⟨called, ⟨registered, once, calls⟩, all⟩ := h
  refine ⟨called, ?_⟩
  cases hx : x c with
  | error fault m =>
    rw [after_of_error hx] at registered calls
    rw [after_bind_of_error hx]
    exact ⟨⟨registered, once, calls⟩, fun b d hb => absurd hb (bind_ne_ok hx)⟩
  | ok a m =>
    obtain ⟨b, d, hf, same⟩ := rest a m
    have ended := (bind_of_ok hx f).trans hf
    obtain ⟨taken, everyone⟩ := all a m hx
    rw [after_of_ok hx, ← same.rosterWatchers] at registered
    rw [after_of_ok hx, ← same.memory, ← same.core] at calls
    rw [after_of_ok ended]
    refine ⟨⟨registered, once, calls⟩, fun b' d' hb => ?_⟩
    obtain ⟨rfl, rfl⟩ := EStateM.Result.ok.inj (ended.symm.trans hb)
    rw [← same.core] at taken
    rw [← same.rosterWatchers] at everyone
    exact ⟨taken, everyone⟩

/-- As long as the roster is steady, the pass has not begun. -/
theorem bind_first (bounded : c.rosterWatchers.Bounded) (first : c.Steady [] (x.after c))
    (h : ∀ a m, c.Steady [] m → Rounds (f a) m) : Rounds (x >>= f) c := by
  cases hx : x c with
  | error fault m =>
    rw [after_of_error hx] at first
    have nobody : ∀ i l, (i, l) ∈ ([] : List (ListenerId × L)) →
        c.rosterWatchers.listeners[i]? = some l := fun _ _ mem => absurd mem List.not_mem_nil
    refine ⟨[], ⟨⟨c.rosterWatchers, .refl _, ?_, nobody⟩, List.nodup_nil, ?_⟩,
      fun b d hb => absurd hb (bind_ne_ok hx)⟩
    · rw [after_bind_of_error hx]
      exact first.later
    · rw [after_bind_of_error hx]
      exact first.calls
  | ok a m =>
    rw [after_of_ok hx] at first
    obtain ⟨called, ⟨⟨reached, since, after, registered⟩, once, calls⟩, all⟩ := h a m first
    have before : m.memory.rosterCalls = c.memory.rosterCalls :=
      first.calls.trans (List.append_nil _)
    refine ⟨called, ?_, fun b d hb => ?_⟩
    · rw [after_bind_of_ok hx]
      refine ⟨⟨reached, first.later.trans since, after, registered⟩, once, ?_⟩
      rw [calls, before]
    · have hf := (bind_of_ok hx f).symm.trans hb
      obtain ⟨taken, everyone⟩ := all b d hf
      refine ⟨taken, fun i l there still => everyone i l ?_ still⟩
      -- whoever was registered before and is in the end was registered in between
      rw [after_of_ok hf] at after
      have old := Nat.lt_of_lt_of_le (bounded i l there) first.later.nextId
      exact (since.trans after).old old still

end Rounds

theorem rounds_callRosterListeners (never : habits.NeverRoute) (bounded : c.rosterWatchers.Bounded)
    (taken : c.core.rosterChanged = false) :
    Rounds (callRosterListeners habits.reaction c.core.roster c.rosterWatchers.listeners.toList)
      c := by
  obtain ⟨called, some_called, steady, all⟩ :=
    steady_callRosterListeners never c.core.roster bounded c.rosterWatchers.listeners.toList
  refine ⟨called, ⟨⟨c.rosterWatchers, .refl _, steady.later, fun i l mem => ?_⟩, ?_, ?_⟩,
    fun _ d ended => ⟨?_, fun i l there still => ?_⟩⟩
  · exact Std.ExtTreeMap.mem_toList_iff_getElem?_eq_some.mp (some_called.subset mem)
  · refine List.pairwise_map.mpr (List.Pairwise.sublist some_called ?_)
    refine c.rosterWatchers.listeners.distinct_keys_toList.imp fun distinct same => distinct ?_
    exact Std.compare_eq_iff_eq.mpr same
  · rw [steady.calls, steady.roster]
  · rw [after_of_ok ended] at steady
    exact steady.changed.trans taken
  · exact all d ended (i, l) (Std.ExtTreeMap.mem_toList_iff_getElem?_eq_some.mpr there)
      (bounded i l there) still

section Publishing

variable {react : Reaction Participant L (Diary L M)}

/-- A roster that is not a new one is not taken, and nobody is told. -/
theorem publishRoster_of_still (still : c.core.rosterChanged = false) :
    publishRoster react c = .ok none c := by
  have same : { c.core with rosterChanged := false } = c.core := by rw [← still]
  have take : onCore (L := L) (M := Diary L M) Core.takeRosterChange c = .ok none c := by
    show EStateM.Result.ok (if c.core.rosterChanged then some c.core.roster else none)
      { c with core := { c.core with rosterChanged := false } } = _
    rw [same, still]
    rfl
  rw [publishRoster, bind_of_ok take]
  rfl

/-- A new roster is taken, and the listeners are told. -/
theorem publishRoster_of_changed (react : Reaction Participant L (Diary L M))
    (changed : c.core.rosterChanged = true) :
    ∃ m, { c with core := c.core.takeRosterChange.1 }.Matches m ∧
      publishRoster react c = (do
        callRosterListeners react c.core.roster c.rosterWatchers.listeners.toList
        return some c.core.roster) m := by
  have take : onCore (L := L) (M := Diary L M) Core.takeRosterChange c =
      .ok (some c.core.roster) { c with core := c.core.takeRosterChange.1 } := by
    show EStateM.Result.ok (if c.core.rosterChanged then some c.core.roster else none) _ = _
    rw [changed]
    rfl
  refine ⟨{ c with
    core := c.core.takeRosterChange.1
    log := c.log ++ [.roster c.core.roster] }, ⟨rfl, rfl, rfl, rfl, rfl⟩, ?_⟩
  rw [publishRoster, bind_of_ok take]
  rfl

end Publishing

theorem rounds_publishRoster (never : habits.NeverRoute) (bounded : c.rosterWatchers.Bounded)
    (changed : c.core.rosterChanged = true) : Rounds (publishRoster habits.reaction) c := by
  obtain ⟨m, same, publish⟩ := publishRoster_of_changed habits.reaction changed
  have bounded' : m.rosterWatchers.Bounded := same.bounded bounded
  have taken : m.core.rosterChanged = false := by rw [same.core]; rfl
  have pass := rounds_callRosterListeners never bounded' taken
  have roster : m.core.roster = c.core.roster := by rw [same.core]; rfl
  rw [same.rosterWatchers, roster] at pass
  exact (pass.bind_rest fun _ m => ⟨_, m, rfl, rfl, rfl, rfl, rfl, rfl⟩).of_eq
    same.rosterWatchers same.memory publish

/-! ### Operations -/

theorem steady_publishObjects (never : habits.NeverRoute) :
    Keeps (Steady c told) (publishObjects habits.reaction) :=
  publishObjects_keeps (fun _ h => (Steady.upheld c told).taken h)
    fun listener object => (Steady.upheld c told).reaction never listener object

theorem rounds_announce (never : habits.NeverRoute) (bounded : c.rosterWatchers.Bounded)
    (changed : c.core.rosterChanged = true) (message : Inbound) (event : SystemEvent) :
    Rounds (announce habits.reaction message event) c := by
  have first := steady_publishObjects never c (.refl bounded)
  refine .bind_first bounded first fun _ m steady => ?_
  have pass := rounds_publishRoster never steady.bounded (steady.changed.trans changed)
  exact pass.bind_rest fun _ => conclude_returns message event

theorem steady_announce (never : habits.NeverRoute) (still : c.core.rosterChanged = false)
    (message : Inbound) (event : SystemEvent) :
    Keeps (Steady c told) (announce habits.reaction message event) := by
  refine (steady_publishObjects never).bind fun _ => ?_
  have nobody : Keeps (Steady c told) (publishRoster habits.reaction) := by
    intro m steady
    rw [after_of_ok (publishRoster_of_still (steady.changed.trans still))]
    exact steady
  exact nobody.bind fun _ =>
    conclude_keeps (fun _ h => (Steady.upheld c told).aside h) message event

/-- A frame that gives a new roster is followed by a pass over the listeners. -/
theorem rounds_route (never : habits.NeverRoute) (bounded : c.rosterWatchers.Bounded)
    {frame : Frame} (renewed : frame.renewsRoster c.core = true) :
    Rounds (route habits.reaction frame) c := by
  rw [Frame.renewsRoster] at renewed
  cases found : frame.event? with
  | none =>
    rw [found] at renewed
    exact nomatch renewed
  | some event =>
    rw [found] at renewed
    obtain ⟨message, m, same, hroute⟩ := route_of_event (c := c) habits.reaction found
    have changed : m.core.rosterChanged = true := by
      rw [same.core]
      refine (c.core.rosterChanged_applyEvent event).trans ?_
      rw [Bool.or_eq_true]
      exact .inr renewed
    have bounded' : m.rosterWatchers.Bounded := same.bounded bounded
    have pass := rounds_announce never bounded' changed message event
    exact pass.of_eq same.rosterWatchers same.memory hroute

/-- Another frame leaves the roster alone, if the last one was taken. -/
theorem steady_route (never : habits.NeverRoute) (bounded : c.rosterWatchers.Bounded)
    (taken : c.core.rosterChanged = false) {frame : Frame}
    (still : frame.renewsRoster c.core = false) :
    c.Steady [] ((route habits.reaction frame).after c) := by
  have start : c.Steady [] c := .refl bounded
  rw [Frame.renewsRoster] at still
  cases found : frame.event? with
  | none => exact (Steady.upheld c []).aside start _ (route_of_no_event found)
  | some event =>
    rw [found] at still
    obtain ⟨message, m, same, hroute⟩ := route_of_event (c := c) habits.reaction found
    have applied : c.Steady [] { c with core := (c.core.applyEvent event).1 } := by
      refine ⟨Participant.roster_applyEvent still, ?_, start.calls, bounded, start.later⟩
      refine (c.core.rosterChanged_applyEvent event).trans ?_
      rw [Bool.or_eq_left_iff_imp]
      exact fun renewing => nomatch still.symm.trans renewing
    have steady : c.Steady [] m := (Steady.upheld c []).aside applied m same
    have quiet : m.Steady [] ((announce habits.reaction message event).after m) :=
      steady_announce never (steady.changed.trans taken) message event m (.refl steady.bounded)
    rw [after, hroute]
    exact steady.trans quiet

end Client

/-- Whether an operation gives a participant a new roster. A stream of frames is not looked into,
since what a frame does depends on the frames before it. -/
def Operation.renewsRoster (p : Participant) : Operation L → Bool
  | .route frame => frame.renewsRoster p
  | _ => false

namespace Client

variable {habits : Habits L M} {c d : Observed L M} {op : Operation L}

theorem rounds_performNoted (never : habits.NeverRoute) (bounded : c.rosterWatchers.Bounded)
    (renewed : op.renewsRoster c.core = true) : Rounds (op.performNoted habits.reaction) c := by
  cases op with
  | route frame =>
    have pass := rounds_route never bounded renewed
    exact pass.bind_rest fun outcome m => ⟨_, m, rfl, rfl, rfl, rfl, rfl, rfl⟩
  | _ => exact nomatch renewed

/-- An operation without a new roster leaves the roster alone, if the last one was taken. -/
theorem steady_performNoted (never : habits.NeverRoute) (bounded : c.rosterWatchers.Bounded)
    (taken : c.core.rosterChanged = false) (single : ∀ frames, op ≠ .run frames)
    (still : op.renewsRoster c.core = false) : c.Steady [] (operateNoted habits c op) := by
  have others : op.isRouting = false → Keeps (Steady c []) (op.performNoted habits.reaction) :=
    performNoted_keeps (Steady.upheld c []) fun listener object =>
      (Steady.upheld c []).reaction never listener object
  cases op with
  | route frame =>
    rw [operateNoted_route]
    exact steady_route never bounded taken still
  | run frames => exact absurd rfl (single frames)
  | _ => exact others rfl c (.refl bounded)

/-- The numbers of listeners are given out in every run, whatever the listeners do. -/
theorem upheld_bounded :
    UpheldRouting fun c : Observed L M => c.rosterWatchers.Bounded where
  aside := fun h _ same => same.bounded h
  watched := fun _ h => h
  rosterWatched := fun listener h => h.add listener
  rosterUnwatched := fun id h => h.remove id
  remembered := fun _ h => h
  called := fun _ _ h => h
  asked := fun _ _ h _ => h
  pushed := fun _ h => h
  taken := fun h => h
  forwarded := fun _ _ _ _ h => h
  refused := fun _ _ _ _ _ h => h
  applied := fun _ h => h
  rosterTaken := fun h => h
  rosterCalled := fun _ _ h => h

/-! ### Runs -/

/-- Between operations the last new roster is taken. -/
structure Settled (c : Observed L M) : Prop where
  taken : c.core.rosterChanged = false
  bounded : c.rosterWatchers.Bounded

theorem Settled.of_matches (h : c.Settled) (same : c.Matches d) : d.Settled := by
  refine ⟨?_, same.bounded h.bounded⟩
  rw [same.core]
  exact h.taken

/-- A new roster is taken, whatever was left to take before. -/
theorem settled_of_renewed (never : habits.NeverRoute) (bounded : c.rosterWatchers.Bounded)
    (renewed : op.renewsRoster c.core = true) (performs : Performs habits c op) :
    (operateNoted habits c op).Settled := by
  refine ⟨?_, operateNoted_keeps upheld_bounded habits bounded op⟩
  obtain ⟨answer, d, ended⟩ := performs
  obtain ⟨called, -, all⟩ := rounds_performNoted never bounded renewed
  obtain ⟨taken, -⟩ := all answer d ended
  rw [operateNoted, after_of_ok ended]
  exact taken

theorem Settled.operateNoted (never : habits.NeverRoute) (h : c.Settled)
    (single : ∀ frames, op ≠ .run frames) (performs : Performs habits c op) :
    (operateNoted habits c op).Settled := by
  cases renewed : op.renewsRoster c.core with
  | false =>
    have steady := steady_performNoted never h.bounded h.taken single renewed
    exact ⟨steady.changed.trans h.taken, steady.bounded⟩
  | true => exact settled_of_renewed never h.bounded renewed performs

/-- The listener with this number, if it is still there, knows the roster. -/
structure Informed [DecidableEq L] (i : ListenerId) (listener : L) (c : Observed L M) : Prop
    extends Settled c where
  given : i < c.rosterWatchers.nextId
  /-- The roster that the listener was told of last is the current one. -/
  told : c.rosterWatchers.listeners[i]? = some listener →
    c.memory.lastRoster listener = c.core.roster

section Informed

variable [DecidableEq L] {i : ListenerId} {listener : L}

theorem Informed.of_matches (h : c.Informed i listener) (same : c.Matches d) :
    d.Informed i listener := by
  refine ⟨h.toSettled.of_matches same, ?_, ?_⟩
  · rw [same.rosterWatchers]
    exact h.given
  · rw [same.rosterWatchers, same.memory, same.core]
    exact h.told

theorem Informed.of_steady (h : c.Informed i listener) (steady : c.Steady [] d) :
    d.Informed i listener where
  taken := steady.changed.trans h.taken
  bounded := steady.bounded
  given := Nat.lt_of_lt_of_le h.given steady.later.nextId
  told := fun there => by
    have before := h.told (steady.later.old h.given there)
    rw [Diary.lastRoster, steady.calls, List.append_nil, steady.roster]
    exact before

/-- A listener learns of a new roster, whatever it knew before. -/
theorem informed_of_renewed (never : habits.NeverRoute) (bounded : c.rosterWatchers.Bounded)
    (given : i < c.rosterWatchers.nextId) (renewed : op.renewsRoster c.core = true)
    (performs : Performs habits c op) : (operateNoted habits c op).Informed i listener := by
  have settled := settled_of_renewed never bounded renewed performs
  obtain ⟨answer, d, ended⟩ := performs
  obtain ⟨called, round, all⟩ := rounds_performNoted never bounded renewed
  obtain ⟨-, everyone⟩ := all answer d ended
  have reached : operateNoted habits c op = d := after_of_ok ended
  rw [after_of_ok ended] at round
  rw [reached] at settled ⊢
  obtain ⟨between, since, after, -⟩ := round.registered
  have later := since.trans after
  refine ⟨settled, Nat.lt_of_lt_of_le given later.nextId, fun there => ?_⟩
  exact Diary.lastRoster_of_told round.calls (everyone i listener (later.old given there) there)

theorem Informed.operateNoted (never : habits.NeverRoute) (h : c.Informed i listener)
    (single : ∀ frames, op ≠ .run frames) (performs : Performs habits c op) :
    (operateNoted habits c op).Informed i listener := by
  cases renewed : op.renewsRoster c.core with
  | false => exact h.of_steady (steady_performNoted never h.bounded h.taken single renewed)
  | true => exact informed_of_renewed never h.bounded h.given renewed performs

end Informed

/-- Whatever does not route leaves the roster alone. -/
theorem steady_operateAllNoted (never : habits.NeverRoute) (bounded : c.rosterWatchers.Bounded)
    {ops : List (Operation L)} (still : ∀ op ∈ ops, op.isRouting = false) :
    c.Steady [] (operateAllNoted habits c ops) := by
  have keeps : ∀ d, c.Steady [] d → c.Steady [] (operateAllNoted habits d ops) := by
    induction ops with
    | nil => exact fun _ h => h
    | cons op rest ih =>
      intro d h
      have first := performNoted_keeps (Steady.upheld c []) (fun listener object =>
        (Steady.upheld c []).reaction never listener object) (still op List.mem_cons_self) d h
      exact ih (fun other mem => still other (List.mem_cons_of_mem _ mem)) _ first
  exact keeps c (.refl bounded)

theorem settled_of_create {ids : IdSource} {settings : Settings} {own : M} {fresh : Observed L M}
    (created : create (Participant.create ids) settings (Diary.blank own) = .ok fresh)
    (link : Link) : Settled { fresh with link } := by
  obtain ⟨feed, rfl⟩ := eq_of_create created
  refine ⟨rfl, fun i l there => ?_⟩
  exact nomatch Std.ExtTreeMap.getElem?_empty.symm.trans there

/-- No fault is left to make up for when `rest` begins: nothing was routed before, or the first
thing is a new roster. -/
def Afresh (c : Observed L M) (setup rest : List (Operation L)) : Prop :=
  (∀ op ∈ setup, op.isRouting = false) ∨
    ∃ op others, rest = op :: others ∧ op.renewsRoster c.core = true

/-- What is there after either beginning, and is preserved from then on, is there in the end. -/
theorem Afresh.keeps {P : Observed L M → Prop} {setup rest : List (Operation L)}
    (afresh : c.Afresh setup rest) (unbroken : Unbroken habits c rest)
    (aside : ∀ {c}, P c → ∀ d, c.Matches d → P d)
    (step : ∀ {c op}, P c → (∀ frames, op ≠ .run frames) → Performs habits c op →
      P (operateNoted habits c op))
    (begun : (∀ op ∈ setup, op.isRouting = false) → P c)
    (renewed : ∀ op, op.renewsRoster c.core = true → Performs habits c op →
      P (operateNoted habits c op)) : P (operateAllNoted habits c rest) := by
  rcases afresh with still | ⟨op, others, rfl, renews⟩
  · exact unbroken.keeps aside step (begun still)
  · show P (operateAllNoted habits (operateNoted habits c op) others)
    exact unbroken.2.keeps aside step (renewed op renews unbroken.1)

/-- The listeners for the roster are up to date. Take any run of a new client whose listeners route
no frames.

* If a frame gives a new roster, listeners are called in one pass, each at most once and with the
  roster as it is then. If routing the frame comes to no fault, all those are called who are
  registered before as well as after it.
* A stream of frames is routed one frame after the other, as in a run of its own.
* Take the part of the run since the start, or since a frame gave a new roster, in which no
  operation came to a fault. Then no other operation calls a listener for the roster, and a
  listener that was registered when the part began, and is still registered, was told last of the
  roster as it is. -/
theorem roster_listeners_up_to_date [DecidableEq L] (never : habits.NeverRoute) {ids : IdSource}
    {settings : Settings} {own : M} {fresh : Observed L M}
    (created : create (Participant.create ids) settings (Diary.blank own) = .ok fresh)
    (link : Link) (setup : List (Operation L)) :
    let c := operateAllNoted habits { fresh with link } setup
    (∀ op,
      let d := operateNoted habits c op
      (op.renewsRoster c.core = true →
        ∃ called, c.Round called d ∧
          (Performs habits c op → ∀ i l, c.rosterWatchers.listeners[i]? = some l →
            d.rosterWatchers.listeners[i]? = some l → (i, l) ∈ called)) ∧
      ∀ frames, op = .run frames →
        ∃ done, done <+: frames ∧ (operateAllNoted habits c (done.map .route)).Matches d ∧
          (Performs habits c op → done = frames ∧ Unbroken habits c (frames.map .route))) ∧
    ∀ rest, c.Afresh setup rest → Unbroken habits c rest →
      let d := operateAllNoted habits c rest
      (∀ op, op.renewsRoster d.core = false → (∀ frames, op ≠ .run frames) →
        (operateNoted habits d op).memory.rosterCalls = d.memory.rosterCalls) ∧
      ∀ (i : ListenerId) (l : L), c.rosterWatchers.listeners[i]? = some l →
        d.rosterWatchers.listeners[i]? = some l → d.memory.lastRoster l = d.core.roster := by
  intro c
  have start : Settled { fresh with link } := settled_of_create created link
  have bounded : c.rosterWatchers.Bounded :=
    operateAllNoted_keeps upheld_bounded habits start.bounded setup
  refine ⟨fun op => ⟨fun renewed => ?_, fun frames stream => ?_⟩, fun rest afresh unbroken => ?_⟩
  · obtain ⟨called, round, all⟩ := rounds_performNoted never bounded renewed
    refine ⟨called, round, fun ⟨answer, e, ended⟩ i l there left => ?_⟩
    have reached : operateNoted habits c op = e := after_of_ok ended
    exact (all answer e ended).2 i l there (reached ▸ left)
  · subst stream
    exact run_eq habits c frames
  · intro d
    have blank : Diary.rosterCalls fresh.memory = [] ∧ fresh.core.roster = .empty := by
      obtain ⟨feed, rfl⟩ := eq_of_create created
      exact ⟨rfl, rfl⟩
    have begun : (∀ op ∈ setup, op.isRouting = false) → Steady { fresh with link } [] c :=
      steady_operateAllNoted never start.bounded
    have settled : d.Settled := by
      refine afresh.keeps unbroken (fun h _ same => h.of_matches same)
        (fun h single performs => h.operateNoted never single performs) (fun still => ?_)
        fun op renewed performs => settled_of_renewed never bounded renewed performs
      have steady := begun still
      exact ⟨steady.changed.trans start.taken, steady.bounded⟩
    refine ⟨fun op still single => ?_, fun i l there left => ?_⟩
    · have steady := steady_performNoted never settled.bounded settled.taken single still
      exact steady.calls.trans (List.append_nil _)
    · have given : i < c.rosterWatchers.nextId := bounded i l there
      have informed : d.Informed i l := by
        refine afresh.keeps unbroken (fun h _ same => h.of_matches same)
          (fun h single performs => h.operateNoted never single performs) (fun still => ?_)
          fun op renewed performs => informed_of_renewed never bounded given renewed performs
        have steady := begun still
        refine ⟨⟨steady.changed.trans start.taken, steady.bounded⟩, given, fun _ => ?_⟩
        -- nobody was told of a roster yet, and there is none
        rw [Diary.lastRoster, steady.calls, steady.roster, blank.1, blank.2]
        rfl
      exact informed.told left

/-- Listeners for objects that fail. Those for the roster do nothing. -/
def startled : Habits Unit Unit
  | _, .object _, _ => .fail ⟨"startled"⟩
  | _, .roster _, _ => .finish ()

theorem neverRoute_startled : startled.NeverRoute := by
  intro _ notice _
  cases notice <;> exact trivial

/-- A session with a document is entered. -/
def entering : Frame := (Inbound.notice (.joinedSession 7 ⟨[3]⟩ ⟨some ⟨"plan"⟩, [], []⟩)).toFrame

/-- A client with a listener for the document of that session and one for the roster. -/
def attended : Observed Unit Unit :=
  operateAllNoted startled { diarist with link := .create }
    [.watchObject ⟨"plan"⟩ (), .watchRoster ()]

theorem roster_listeners_up_to_date_after_fault :
    let c := operateNoted startled attended (.route entering)
    let joining := (Inbound.notice (.session (.someoneJoined 4))).toFrame
    let d := operateNoted startled c (.route joining)
    startled.NeverRoute ∧ create (.create (.labelled 1)) .usual (.blank ()) = .ok diarist ∧
      ¬ Performs startled attended (.route entering) ∧ c.memory.lastRoster () ≠ c.core.roster ∧
      joining.renewsRoster c.core = true ∧ Performs startled c (.route joining) ∧
      d.memory.rosterCalls = [((), ⟨[3, 4]⟩)] ∧ d.memory.lastRoster () = d.core.roster := by
  intro c joining d
  have renewed : joining.renewsRoster c.core = true := by decide +kernel
  have performs : Performs startled c (.route joining) := by decide +kernel
  obtain ⟨-, later⟩ := roster_listeners_up_to_date neverRoute_startled create_diarist .create
    [.watchObject ⟨"plan"⟩ (), .watchRoster (), .route entering]
  obtain ⟨-, informed⟩ := later [.route joining] (.inr ⟨_, _, rfl, renewed⟩) ⟨performs, trivial⟩
  refine ⟨neverRoute_startled, create_diarist, by decide +kernel, by decide +kernel, renewed,
    performs, by decide +kernel, ?_⟩
  exact informed 0 () (by decide +kernel) (by decide +kernel)

/-- The exception for faults is needed. If a listener for an object fails, the listeners for the
roster are not told of the roster that a frame brought, and a later frame, which brings none, makes
up for it. So of a new client with a single listener for the roster it can be said neither that
every frame that gives a new roster calls it, nor that nothing else does, nor that it was told last
of the roster as it is. -/
theorem roster_late_after_fault :
    (¬ ∀ (habits : Habits Unit Unit) (setup : List (Operation Unit)) (op : Operation Unit),
      let c := operateAllNoted habits { diarist with link := .create } setup
      let d := operateNoted habits c op
      habits.NeverRoute → c.rosterWatchers.listeners.toList = [(0, ())] →
        d.rosterWatchers.listeners.toList = [(0, ())] → op.renewsRoster c.core = true →
          d.memory.rosterCalls = c.memory.rosterCalls ++ [((), d.core.roster)]) ∧
    (¬ ∀ (habits : Habits Unit Unit) (setup : List (Operation Unit)) (op : Operation Unit),
      let c := operateAllNoted habits { diarist with link := .create } setup
      habits.NeverRoute → op.renewsRoster c.core = false → (∀ frames, op ≠ .run frames) →
        (operateNoted habits c op).memory.rosterCalls = c.memory.rosterCalls) ∧
    ¬ ∀ (habits : Habits Unit Unit) (setup rest : List (Operation Unit)),
      let c := operateAllNoted habits { diarist with link := .create } setup
      let d := operateAllNoted habits c rest
      habits.NeverRoute → (∀ op ∈ setup, op.isRouting = false) →
        c.rosterWatchers.listeners.toList = [(0, ())] →
          d.rosterWatchers.listeners.toList = [(0, ())] →
            d.memory.lastRoster () = d.core.roster := by
  let setup : List (Operation Unit) := [.watchObject ⟨"plan"⟩ (), .watchRoster ()]
  let connecting : Operation Unit := .route (Inbound.notice (.connected 3)).toFrame
  refine ⟨fun called => ?_, fun uncalled => ?_, fun current => ?_⟩
  · have told := called startled setup (.route entering) neverRoute_startled (by decide +kernel)
      (by decide +kernel) (by decide +kernel)
    exact absurd told (by decide +kernel)
  · have silent := uncalled startled (setup ++ [.route entering]) connecting neverRoute_startled
      (by decide +kernel) nofun
    exact absurd silent (by decide +kernel)
  · have informed := current startled setup [.route entering] neverRoute_startled (by decide)
      (by decide +kernel) (by decide +kernel)
    exact absurd informed (by decide +kernel)

end Client

end Whiteboard
