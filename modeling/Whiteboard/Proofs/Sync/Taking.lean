import Whiteboard.Proofs.Sync.Conduct

/-!
# Objects are taken before anything else happens

An edit and an event leave objects to be looked at again. The client takes them at once, and only
then calls the listeners for them. So whatever the listeners do, an operation that they perform
finds nothing left over and leaves nothing over, also if it comes to a fault. An edit would complain
in the log otherwise, but there is no such complaint. Nor would listeners ever notice anything who
look, before each of their edits, whether something is left over.
-/

namespace Whiteboard

open Log (Note)

open Whiteboard.Action

/-- An edit complains exactly if objects are left from before. -/
theorem Participant.undrained_mem_pushNotes (p : Participant) :
    .undrained ∈ p.pushNotes ↔ p.invalidated ≠ ∅ := by
  have told : Note.undrained ∉ [if p.session?.isSome then .began p.ids.draw.1
      else .applied p.ids.draw.1] := by
    split <;> simp
  rw [pushNotes, List.mem_append, or_iff_left told]
  by_cases nothing : p.invalidated.isEmpty
  · rw [if_pos nothing]
    exact iff_of_false List.not_mem_nil fun some_left =>
      some_left (Std.ExtTreeSet.isEmpty_iff.mp nothing)
  · rw [if_neg nothing]
    exact iff_of_true (List.mem_singleton.mpr rfl) fun none_left =>
      nothing (Std.ExtTreeSet.isEmpty_iff.mpr none_left)

namespace Client

variable {L M : Type} {base notes : List Note} {c d : Observed L M}

theorem undrained_not_mem_submitNotes (c : Observed L M) (command : Command) :
    .undrained ∉ c.submitNotes command := by
  rw [submitNotes]
  split <;> simp

/-- The log was written on since it was `base`, without a complaint. -/
def UnwarnedSince (base : List Note) (c : Observed L M) : Prop :=
  ∃ notes, .undrained ∉ notes ∧ c.log = base ++ notes

/-- Besides, no object is left to be looked at again. -/
structure TidySince (base : List Note) (c : Observed L M) : Prop where
  taken : c.core.invalidated = ∅
  unwarned : c.UnwarnedSince base

theorem UnwarnedSince.append (h : c.UnwarnedSince base) (harmless : .undrained ∉ notes)
    (log : d.log = c.log ++ notes) : d.UnwarnedSince base := by
  obtain ⟨before, unwarned, written⟩ := h
  refine ⟨before ++ notes, ?_, ?_⟩
  · rw [List.mem_append, not_or]
    exact ⟨unwarned, harmless⟩
  · rw [log, written, List.append_assoc]

theorem TidySince.append (h : c.TidySince base) (harmless : .undrained ∉ notes)
    (core : d.core.invalidated = c.core.invalidated) (log : d.log = c.log ++ notes) :
    d.TidySince base :=
  ⟨core.trans h.taken, h.unwarned.append harmless log⟩

theorem tidySince_log (taken : c.core.invalidated = ∅) : c.TidySince c.log :=
  ⟨taken, [], List.not_mem_nil, (List.append_nil _).symm⟩

theorem TidySince.note {n : Note} (harmless : n ≠ .undrained) (h : c.TidySince base) :
    TidySince base { c with log := c.log ++ [n] } :=
  h.append (fun mem => harmless (List.mem_singleton.mp mem).symm) rfl rfl

theorem writeCall_keeps_tidy (listener : L) (notice : Notice) :
    Keeps (TidySince (M := M) base) (writeCall listener notice) :=
  fun _ h => ⟨h.taken, h.unwarned⟩

/-! ### What an operation leaves -/

section Operations

variable {react react' : Reaction Participant L (Diary L M)}

theorem request_keeps_tidy (command : Command) :
    Keeps (TidySince base) ((Operation.request command).performNoted react) := by
  intro c h
  obtain ⟨link, replies, -, ended⟩ := request_after react command c
  rw [ended]
  exact h.append (c.undrained_not_mem_submitNotes command) rfl rfl

theorem fragment_keeps_tidy (f : Fragment) :
    Keeps (TidySince base) ((Operation.fragment f).performNoted react) := by
  intro c h
  obtain ⟨link, replies, -, ended⟩ := fragment_after react f c
  rw [ended]
  exact h.append (c.undrained_not_mem_submitNotes _) rfl rfl

theorem drain_keeps_tidy :
    Keeps (TidySince base) (drain : Action Participant L (Diary L M) (Except SyncError Nat)) :=
  drain_keeps (fun _ _ _ _ _ h => ⟨h.taken, h.unwarned⟩)
    (fun _ _ _ _ _ _ h => ⟨h.taken, h.unwarned⟩) fun _ _ harmless h => h.note harmless

theorem conclude_keeps_tidy (message : Inbound) (event : SystemEvent) :
    Keeps (TidySince base) (conclude message event : Action Participant L (Diary L M) _) := by
  intro c h
  obtain ⟨outcome, notes, replies, harmless, ended⟩ := conclude_sends message event c
  rw [after_of_ok ended]
  exact h.append harmless rfl rfl

section Listeners

variable (called : ∀ listener notice,
  Mirrors (TidySince base) (react listener notice) (react' listener notice))
include called

/-- The objects are taken before the first listener is called. So it does not matter which ones are
left before. -/
theorem tidySince_publishObjects (h : c.UnwarnedSince base) :
    publishObjects react c = publishObjects react' c ∧
      TidySince base ((publishObjects react).after c) :=
  publishObjects_mirrors ⟨rfl, h⟩ fun listener object => called listener (.object object)

theorem push_mirrors_tidy (edit : Edit) :
    Mirrors (TidySince base) ((Operation.push edit).performNoted react)
      ((Operation.push edit).performNoted react') := by
  intro c h
  have harmless : .undrained ∉ c.core.pushNotes := fun complains =>
    c.core.undrained_mem_pushNotes.mp complains h.taken
  -- the edit leaves objects over, but they are taken before anyone is called
  obtain ⟨same, tidy⟩ := tidySince_publishObjects (c := { c with
    core := (c.core.push edit).1
    log := c.log ++ c.core.pushNotes
    memory := c.memory.note c.core (.push edit) }) called (h.unwarned.append harmless rfl)
  rw [after, push_eq, push_eq]
  exact mirrors_after_bind same tidy fun _ => (dispatch_keeps drain_keeps_tidy).mirrors

theorem announce_mirrors_tidy (message : Inbound) (event : SystemEvent)
    (h : c.UnwarnedSince base) :
    announce react message event c = announce react' message event c ∧
      TidySince base ((announce react message event).after c) := by
  obtain ⟨same, tidy⟩ := tidySince_publishObjects called h
  have roster : Mirrors (TidySince base) (publishRoster react) (publishRoster react') :=
    fun c h => publishRoster_mirrors ⟨h.taken, h.unwarned⟩ (fun _ _ harmless h => h.note harmless)
      fun listener roster => called listener (.roster roster)
  exact mirrors_after_bind same tidy fun _ => roster.bind fun _ =>
    (conclude_keeps_tidy message event).mirrors

theorem route_mirrors_tidy (frame : Frame) :
    Mirrors (TidySince base) (route react frame) (route react' frame) := by
  intro c h
  rcases event?_cases frame with silent | ⟨message, event, hread, found⟩
  · obtain ⟨notes, replies, harmless, ended⟩ := route_of_silent (c := c) react silent
    rw [ended, route_eq_of_silent silent react react']
    exact ⟨rfl, h.append harmless rfl rfl⟩
  · rw [after, route_of_message react hread found, route_of_message react' hread found]
    exact announce_mirrors_tidy called message event
      (h.unwarned.append (undrained_not_mem_eventNotes c.core frame event) rfl)

theorem run_mirrors_tidy (frames : List Frame) :
    Mirrors (TidySince base) (run react frames) (run react' frames) := by
  refine (routeAll_mirrors (route_mirrors_tidy called) frames).bind fun _ => Keeps.mirrors ?_
  exact fun c h => h.append (by simp) rfl rfl

/-- An operation leaves nothing over, and it is the same for listeners that do the same. -/
theorem performNoted_mirrors_tidy (op : Operation L) :
    Mirrors (TidySince base) (op.performNoted react) (op.performNoted react') := by
  cases op with
  | request command => exact fun c h => ⟨rfl, request_keeps_tidy command c h⟩
  | fragment f => exact fun c h => ⟨rfl, fragment_keeps_tidy f c h⟩
  | push edit => exact push_mirrors_tidy called edit
  | route frame =>
    have routed := (route_mirrors_tidy called frame).bind fun outcome =>
      Mirrors.pure (Answer.routed outcome)
    exact fun c h => routed c h
  | run frames =>
    have routed := (run_mirrors_tidy called frames).bind fun _ => Mirrors.pure Answer.done
    exact fun c h => routed c h
  | advance milliseconds =>
    exact fun c h => ⟨rfl, advance_performed (fun _ _ h => ⟨h.taken, h.unwarned⟩) milliseconds c h⟩
  | _ => exact fun c h => ⟨rfl, h.taken, h.unwarned⟩

end Listeners

end Operations

/-- Nothing is left over, whatever the listeners do. They may route frames, and they may fail. -/
theorem lasting_tidySince (base : List Note) : Lasting (TidySince (L := L) (M := M) base) where
  performed op called :=
    (performNoted_mirrors_tidy (fun listener notice => (called listener notice).mirrors) op).keeps
  written := writeCall_keeps_tidy
  remembered _ h := ⟨h.taken, h.unwarned⟩

/-- After any run nothing is left over, if nothing was before. -/
theorem tidySince_operateAllNoted (habits : Habits L M) (taken : c.core.invalidated = ∅)
    (ops : List (Operation L)) : (operateAllNoted habits c ops).TidySince c.log :=
  operateAllNoted_lasts (lasting_tidySince c.log) habits (tidySince_log taken) ops

end Client

/-! ### Watchful listeners -/

variable {L M : Type}

/-- Whether an operation is an edit. -/
def Operation.isEdit : Operation L → Bool
  | .push _ => true
  | _ => false

/-- The listener does as before, and so do all who are called meanwhile, but each of them looks
before each edit, and fails if some object is left to be looked at again. -/
def Conduct.watchful : Conduct L M → Observed L M → Conduct L M
  | .finish own, _ => .finish own
  | .fail fault, _ => .fail fault
  | .perform op others next, c =>
    if op.isEdit && !c.core.invalidated.isEmpty then .fail ⟨"left over"⟩
    else .perform op (fun listener notice d => (others listener notice d).watchful d)
      fun answer d => (next answer d).watchful d

/-- Every listener is watchful. -/
def Habits.watchful (habits : Habits L M) : Habits L M :=
  fun listener notice c => (habits listener notice c).watchful c

/-- Listeners mirror their watchful selves if what they do is the same where nothing is left. -/
theorem Habits.mirrors_watchful (habits : Habits L M) {base : List Note}
    (same : ∀ listener notice c, c.TidySince base →
      (habits listener notice c).act c = ((habits listener notice c).watchful c).act c ∧
        ((habits listener notice c).act.after c).TidySince base) (listener : L) (notice : Notice) :
    Mirrors (Client.TidySince base) (habits.reaction listener notice)
      (habits.watchful.reaction listener notice) :=
  (Client.writeCall_keeps_tidy listener notice).mirrors.bind fun _ =>
    .get_bind fun c h => same listener notice c h

theorem Conduct.act_watchful {base : List Note} (conduct : Conduct L M) {c : Observed L M}
    (h : c.TidySince base) :
    conduct.act c = (conduct.watchful c).act c ∧ (conduct.act.after c).TidySince base := by
  induction conduct generalizing c with
  | finish own => exact ⟨rfl, h.taken, h.unwarned⟩
  | fail fault => exact ⟨rfl, h⟩
  | perform op others next ihOthers ihNext =>
    -- nothing is left when the operation begins, nor when it ends and the listener goes on
    have nothing : c.core.invalidated.isEmpty := Std.ExtTreeSet.isEmpty_iff.mpr h.taken
    have same : (perform op others next).watchful c =
        .perform op (Habits.watchful others) fun answer d => (next answer d).watchful d := by
      rw [watchful, nothing]
      exact if_neg (by simp)
    have called := Habits.mirrors_watchful others fun listener notice d hd =>
      ihOthers listener notice d hd
    rw [same, act_perform, act_perform]
    exact ((Client.performNoted_mirrors_tidy called op).bind fun answer => .get_bind
      fun d hd => ihNext answer d hd) c h

/-- With watchful listeners an operation does the same, so that none of them ever finds an object
left before an edit. -/
theorem Client.performNoted_watchful (habits : Habits L M) {c : Observed L M}
    (taken : c.core.invalidated = ∅) (op : Operation L) :
    op.performNoted habits.watchful.reaction c = op.performNoted habits.reaction c := by
  have called : ∀ listener notice, Mirrors (TidySince c.log) (habits.reaction listener notice)
      (habits.watchful.reaction listener notice) :=
    habits.mirrors_watchful fun listener notice d h => (habits listener notice d).act_watchful h
  exact (performNoted_mirrors_tidy called op c (tidySince_log taken)).1.symm

end Whiteboard
