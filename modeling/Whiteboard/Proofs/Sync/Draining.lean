import Whiteboard.Proofs.Sync.Callers
import Whiteboard.Proofs.Sync.Rosters
import Whiteboard.Proofs.Sync.Taking

/-!
# Nothing is left over

When no operation is in progress, nothing waits for the listeners: no object is left to be looked at
again, and the last new roster was taken. The objects are taken before any listener is called. The
roster is taken once the listeners for objects have returned, so that this half needs listeners
that do return. They may use the client as they like, short of routing frames.
-/

namespace Whiteboard

open Log (Note)

open Whiteboard.Action

variable {L M : Type}

/-! ### Listeners that return -/

/-- Whether an operation neither routes frames nor lets time pass. Such operations come to a fault
only with a listener. -/
def Operation.isSimple : Operation L → Bool
  | .route _ | .run _ | .advance _ => false
  | _ => true

/-- The listener, and all who are called meanwhile, perform simple operations and do not fail. -/
def Conduct.Reliable : Conduct L M → Prop
  | .finish _ => True
  | .fail _ => False
  | .perform op others next =>
    op.isSimple ∧ (∀ listener notice c, (others listener notice c).Reliable) ∧
      ∀ answer c, (next answer c).Reliable

/-- Reliable listeners. -/
def Habits.Reliable (habits : Habits L M) : Prop :=
  ∀ listener notice c, (habits listener notice c).Reliable

namespace Client

theorem submit_returns (command : Command) (mode : ReplyMode) :
    Returns (submit command mode : Action Participant L (Diary L M) _) := by
  intro c
  obtain ⟨result, d, ended, -⟩ := submit_cases command mode c
  exact ⟨result, d, ended⟩

theorem request_returns (command : Command) :
    Returns (request command : Action Participant L (Diary L M) _) := by
  refine (submit_returns command .expect).bind fun result => ?_
  rcases result with _ | _ | reply
  · exact .pure _
  · exact .pure _
  · exact fun c => ⟨_, _, rfl⟩

theorem sendFragment_returns (f : Fragment) :
    Returns (sendFragment f : Action Participant L (Diary L M) _) :=
  (submit_returns (.session (.fragment f)) .ignore).bind fun _ => .pure _

theorem pushDocument_returns {react : Reaction Participant L (Diary L M)}
    (called : ∀ listener object, Returns (react listener (.object object))) (edit : Edit) :
    Returns (pushDocument react edit) := by
  have made : Returns (pushCore edit : Action Participant L (Diary L M) _) :=
    fun c => ⟨_, _, rfl⟩
  have sent : Returns (drain : Action Participant L (Diary L M) _) := by
    intro c
    obtain ⟨result, d, ended, -⟩ := drain_spec c
    exact ⟨result, d, ended⟩
  refine made.bind fun result => ?_
  cases result with
  | error e => exact .pure _
  | ok done => exact (publishObjects_returns called).bind fun _ => sent

end Client

/-- A simple operation comes to no fault, if the listeners return that are called meanwhile. -/
theorem Operation.performNoted_returns {react : Reaction Participant L (Diary L M)}
    {op : Operation L} (simple : op.isSimple)
    (called : ∀ listener object, Returns (react listener (.object object))) :
    Returns (op.performNoted react) := by
  have performed : Returns (op.perform react) := by
    cases op with
    | request command =>
      exact (Client.request_returns command).bind fun result => by cases result <;> exact .pure _
    | fragment f =>
      exact (Client.sendFragment_returns f).bind fun result => by cases result <;> exact .pure _
    | push edit =>
      exact (Client.pushDocument_returns called edit).bind fun result => by
        cases result <;> exact .pure _
    | route frame => cases simple
    | run frames => cases simple
    | advance milliseconds => cases simple
    | _ => exact fun c => ⟨_, _, rfl⟩
  exact fun c => performed _

/-- Listeners come back if they return from what they do. -/
theorem Habits.comeBack_of_act {habits : Habits L M}
    (returns : ∀ listener notice c, Returns (habits listener notice c).act) : habits.ComeBack := by
  intro listener notice
  have write : Returns (Client.writeCall (L := L) (M := M) listener notice) := fun c => ⟨(), _, rfl⟩
  exact write.bind fun _ => .get_bind fun c => returns listener notice c

theorem Conduct.returns_of_reliable {conduct : Conduct L M} (reliable : conduct.Reliable) :
    Returns conduct.act := by
  induction conduct with
  | finish own => exact fun c => ⟨(), _, rfl⟩
  | fail fault => exact reliable.elim
  | perform op others next ihOthers ihNext =>
    obtain ⟨simple, othersReliable, nextReliable⟩ := reliable
    have back : Habits.ComeBack others := Habits.comeBack_of_act fun listener notice c =>
      ihOthers listener notice c (othersReliable listener notice c)
    rw [act_perform]
    exact (Operation.performNoted_returns simple fun listener object => back listener _).bind
      fun answer => .get_bind fun c => ihNext answer c (nextReliable answer c)

namespace Habits

variable {habits : Habits L M}

/-- Reliable listeners return, however deep the calls are nested. -/
theorem comeBack_of_reliable (reliable : habits.Reliable) : habits.ComeBack :=
  comeBack_of_act fun listener notice c => Conduct.returns_of_reliable (reliable listener notice c)

theorem neverRoute_of_reliable (reliable : habits.Reliable) : habits.NeverRoute := by
  have within : ∀ {conduct : Conduct L M}, conduct.Reliable →
      conduct.Within (·.isRouting = false) := by
    intro conduct reliable
    induction conduct with
    | finish own => exact trivial
    | fail fault => exact reliable.elim
    | perform op others next ihOthers ihNext =>
      obtain ⟨simple, othersReliable, nextReliable⟩ := reliable
      refine ⟨?_, fun listener notice c => ihOthers _ _ _ (othersReliable listener notice c),
        fun answer c => ihNext _ _ (nextReliable answer c)⟩
      cases op with
      | route frame => cases simple
      | run frames => cases simple
      | _ => rfl
  exact fun listener notice c => within (reliable listener notice c)

end Habits

/-! ### The roster is taken -/

namespace Client

variable {habits : Habits L M} {c : Observed L M}

/-- The last new roster was taken. -/
def RosterTaken (c : Observed L M) : Prop := c.core.rosterChanged = false

theorem upheld_rosterTaken : Upheld (RosterTaken (L := L) (M := M)) where
  aside h _ same := (congrArg Participant.rosterChanged same.core).trans h
  watched _ h := h
  rosterWatched _ h := h
  rosterUnwatched _ h := h
  remembered _ h := h
  called _ _ h := h
  asked _ _ h _ := h
  pushed edit h := (Participant.rosterChanged_push _ edit).trans h
  taken h := h
  forwarded _ _ _ _ h := h
  refused _ _ _ _ _ h := h

theorem reaction_keeps_rosterTaken (never : habits.NeverRoute) (listener : L) (notice : Notice) :
    Keeps RosterTaken (habits.reaction listener notice) := by
  have write : Keeps (RosterTaken (L := L) (M := M)) (writeCall listener notice) := fun _ h => h
  exact write.bind fun _ => .get_bind fun c h =>
    upheld_rosterTaken.act (never listener notice c) c h

/-- Whether or not a roster was left over before, none is when the event is made known. This is
where the listeners for objects have to return. -/
theorem rosterTaken_announce (never : habits.NeverRoute) (back : habits.ComeBack)
    (message : Inbound) (event : SystemEvent) (c : Observed L M) :
    RosterTaken ((announce habits.reaction message event).after c) := by
  -- a fault here would leave the roster over
  obtain ⟨calls, d, ended⟩ := publishObjects_returns (fun listener object => back listener _) c
  rw [announce, announceBy, after_bind_of_ok ended]
  have told := publishRoster_mirrors (P := RosterTaken) (c := d) rfl (fun _ _ _ h => h)
    fun listener roster => (reaction_keeps_rosterTaken never listener (.roster roster)).mirrors
  exact keeps_after_bind told.2 fun _ =>
    conclude_keeps (fun _ h => upheld_rosterTaken.aside h) message event

theorem route_keeps_rosterTaken (never : habits.NeverRoute) (back : habits.ComeBack)
    (frame : Frame) : Keeps RosterTaken (route habits.reaction frame) := by
  intro c h
  rcases event?_cases frame with silent | ⟨message, event, hread, found⟩
  · exact upheld_rosterTaken.aside h _ (route_of_no_event silent)
  · rw [after, route_of_message habits.reaction hread found]
    exact rosterTaken_announce never back message event _

theorem performNoted_keeps_rosterTaken (never : habits.NeverRoute) (back : habits.ComeBack)
    (op : Operation L) : Keeps RosterTaken (op.performNoted habits.reaction) := by
  have still : op.isRouting = false → Keeps RosterTaken (op.performNoted habits.reaction) :=
    performNoted_keeps upheld_rosterTaken fun listener object =>
      reaction_keeps_rosterTaken never listener _
  cases op with
  | route frame => exact route_performed (route_keeps_rosterTaken never back frame)
  | run frames =>
    have routed := routeAll_keeps (route_keeps_rosterTaken never back) frames
    exact run_performed <| routed.bind fun _ _ h => h
  | _ => exact still rfl

end Client

/-! ### Runs -/

/-- What can happen to a client and to those who use it. -/
inductive Moment (L : Type)
  /-- An operation is performed. -/
  | operation (op : Operation L)
  /-- A waiting caller looks for the outcome. -/
  | look (wait : Wait)
  /-- A caller goes away. -/
  | leave (reply : PendingReply)
  /-- Something happens to the link. -/
  | relink (link : Link)

namespace Client

variable {habits : Habits L M} {base : List Note} {c : Observed L M}

/-- The client after a moment. -/
def pass (habits : Habits L M) (c : Observed L M) : Moment L → Observed L M
  | .operation op => operateNoted habits c op
  | .look wait => (poll wait).after c
  | .leave reply => { c with replies := c.replies.letGo reply }
  | .relink link => { c with link }

/-- The client after some moments. -/
def passAll (habits : Habits L M) (c : Observed L M) (moments : List (Moment L)) :
    Observed L M := moments.foldl (pass habits) c

/-- Nothing is left over, and since the log was `base`, no edit complained. -/
structure Drained (base : List Note) (c : Observed L M) : Prop extends TidySince base c where
  rosterTaken : c.RosterTaken

theorem Drained.pass (never : habits.NeverRoute) (back : habits.ComeBack) (h : c.Drained base)
    (moment : Moment L) : (pass habits c moment).Drained base := by
  cases moment with
  | operation op =>
    have lasting := lasting_tidySince (L := L) (M := M) base
    exact ⟨lasting.performed op (lasting.reaction habits) c h.toTidySince,
      performNoted_keeps_rosterTaken never back op c h.rosterTaken⟩
  | look wait =>
    have harmless := c.replies.undrained_not_mem_pollNotes wait c.now
    rw [Client.pass, after_of_ok (poll_eq wait c)]
    exact ⟨h.append harmless rfl rfl, h.rosterTaken⟩
  | leave reply => exact ⟨⟨h.taken, h.unwarned⟩, h.rosterTaken⟩
  | relink link => exact ⟨⟨h.taken, h.unwarned⟩, h.rosterTaken⟩

theorem Drained.passAll (never : habits.NeverRoute) (back : habits.ComeBack) (h : c.Drained base)
    (moments : List (Moment L)) : (passAll habits c moments).Drained base := by
  induction moments generalizing c with
  | nil => exact h
  | cons moment rest ih => exact ih (h.pass never back moment)

theorem drained_of_create {ids : IdSource} {settings : Settings} {own : M} {fresh : Observed L M}
    (created : create (Participant.create ids) settings (Diary.blank own) = .ok fresh) :
    fresh.Drained [] := by
  obtain ⟨feed, rfl⟩ := eq_of_create created
  exact ⟨⟨rfl, [], List.not_mem_nil, rfl⟩, rfl⟩

/-- Nothing is ever left over. Take any run of a new client whose listeners return and route no
frames, but may use the client otherwise as they like, while those who hear of it do the same.

* When no operation is in progress, no object is left to be looked at again, and the last new roster
  was taken.
* No edit complained in the log, neither of the user nor of a listener.
* Every operation does the same if all listeners, however deep their calls are nested, look before
  each of their edits, and fail should some object be left. So none ever is. -/
theorem nothing_left_over (never : habits.NeverRoute) (back : habits.ComeBack) {ids : IdSource}
    {settings : Settings} {own : M} {fresh : Observed L M}
    (created : create (Participant.create ids) settings (Diary.blank own) = .ok fresh)
    (moments : List (Moment L)) :
    let c := passAll habits fresh moments
    (c.core.invalidated = ∅ ∧ c.core.rosterChanged = false) ∧ .undrained ∉ c.log ∧
      ∀ op : Operation L,
        op.performNoted habits.watchful.reaction c = op.performNoted habits.reaction c := by
  intro c
  have drained : c.Drained [] := (drained_of_create created).passAll never back moments
  obtain ⟨notes, unwarned, written⟩ := drained.unwarned
  refine ⟨⟨drained.taken, drained.rosterTaken⟩, ?_, performNoted_watchful habits drained.taken⟩
  rw [written, List.nil_append]
  exact unwarned

/-- Listeners that edit the document and send a segment. -/
def drawing : Habits Unit Unit := fun _ _ _ =>
  .perform (.push (.retitle "c")) idle fun _ _ => .perform (.fragment diagonal) idle fun _ _ =>
    .finish ()

/-- Listeners for objects that edit the document, of which others hear who edit it again, and then
add a listener for the roster. Listeners for the roster do nothing. -/
def meddling : Habits Unit Unit
  | _, .object _, _ =>
    .perform (.push (.retitle "b")) drawing fun _ _ => .perform (.watchRoster ()) idle fun _ _ =>
      .finish ()
  | _, .roster _, _ => .finish ()

theorem reliable_meddling : meddling.Reliable := by
  have nothing : idle.Reliable := fun _ _ _ => trivial
  have twice : drawing.Reliable := fun _ _ _ =>
    ⟨rfl, nothing, fun _ _ => ⟨rfl, nothing, fun _ _ => trivial⟩⟩
  intro _ notice _
  cases notice with
  | object object => exact ⟨rfl, twice, fun _ _ => ⟨rfl, nothing, fun _ _ => trivial⟩⟩
  | roster roster => exact trivial

theorem nothing_left_over_nested :
    let c := passAll meddling diarist
      [.operation (.watchObject ⟨"plan"⟩ ()), .operation (.route entering)]
    meddling.NeverRoute ∧ meddling.ComeBack ∧
      create (.create (.labelled 1)) .usual (.blank ()) = .ok diarist ∧
      c.memory.announced.length = 2 ∧ c.memory.asked.length = 1 ∧ c.memory.calls.length = 4 ∧
      c.core.invalidated = ∅ ∧ c.core.rosterChanged = false ∧ .undrained ∉ c.log := by
  have never := Habits.neverRoute_of_reliable reliable_meddling
  have back := Habits.comeBack_of_reliable reliable_meddling
  obtain ⟨⟨taken, rosterTaken⟩, unwarned, -⟩ := nothing_left_over never back create_diarist
    [.operation (.watchObject ⟨"plan"⟩ ()), .operation (.route entering)]
  exact ⟨never, back, create_diarist, by decide +kernel, by decide +kernel, by decide +kernel,
    taken, rosterTaken, unwarned⟩

end Client

end Whiteboard
