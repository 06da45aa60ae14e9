import Whiteboard.Proofs.Sync.Keeping

/-!
# Listeners that use the client

A listener that is called may look at the client, remember something, and perform operations of
the client one after the other, each chosen in view of what came of those before. While it
performs one, listeners may be called in turn, who conduct themselves in the same way. What a
listener does is therefore a tree, whose branches are the answers that it may get.

A diary is kept behind the listeners' backs. It tells which requests the client was asked to send,
and which listeners it called.

## Main definitions

- `Conduct`, `Habits` — what a listener does when it is called, and what every listener does
- `Diary`, `Call` — the diary that is kept meanwhile
- `Conduct.act`, `Habits.reaction` — listeners at work
- `Client.operateNoted`, `Client.operateAllNoted` — operations, with the diary kept
- `Conduct.Within` — listeners that perform operations of one kind only
- `Upheld`, `UpheldRouting` — what every step of the client preserves
- `Lasting` — what every operation preserves if the listeners do
-/

namespace Whiteboard

/-- A call of a listener, with what the listener finds when it looks at the client. -/
structure Call (L : Type) where
  /-- Who is called. -/
  listener : L
  /-- What with. -/
  notice : Notice
  /-- The document at that moment. -/
  view : DocumentView
  /-- The roster at that moment. -/
  roster : Roster
  deriving DecidableEq

/-- What the listeners remember, with a diary that they do not write themselves. -/
structure Diary (L M : Type) where
  /-- The requests that the client was asked to send at once, in order. -/
  asked : List Request
  /-- The requests that announce edits inside sessions, in the order of the edits. -/
  announced : List Request
  /-- The calls of listeners, in order. -/
  calls : List (Call L)
  /-- What the listeners remember. -/
  own : M

/-- A client whose listeners share a diary. -/
abbrev Observed (L M : Type) := Client Participant L (Diary L M)

variable {L M : Type}

/-- The request that will announce an edit, if the edit is made inside a session. -/
def Participant.announcement? (p : Participant) (edit : Edit) : Option Request :=
  p.session?.map fun s =>
    ⟨p.nextId, .session (.transaction (s.document.transactionFor edit p.ids.draw.1))⟩

namespace Diary

/-- An empty diary. -/
def blank (own : M) : Diary L M := ⟨[], [], [], own⟩

/-- Writes down an operation that is about to be performed. -/
def note (d : Diary L M) (p : Participant) : Operation L → Diary L M
  | .request command => { d with asked := d.asked ++ [⟨p.nextId, command⟩] }
  | .fragment f => { d with asked := d.asked ++ [⟨p.nextId, .session (.fragment f)⟩] }
  | .push edit => { d with announced := d.announced ++ (p.announcement? edit).toList }
  | _ => d

/-- Writes down a call. -/
def noteCall (d : Diary L M) (call : Call L) : Diary L M := { d with calls := d.calls ++ [call] }

end Diary

/-- What a listener does. -/
inductive Conduct (L M : Type)
  /-- It returns, remembering something. -/
  | finish (own : M)
  /-- It fails. -/
  | fail (fault : Fault)
  /-- It performs an operation and goes on. Listeners called meanwhile do as `others` says. -/
  | perform (op : Operation L) (others : L → Notice → Observed L M → Conduct L M)
      (next : Answer → Observed L M → Conduct L M)

/-- What every listener does when it is called. -/
abbrev Habits (L M : Type) := L → Notice → Observed L M → Conduct L M

/-- Performs an operation once it is written down. -/
def Operation.performNoted (react : Reaction Participant L (Diary L M)) (op : Operation L) :
    Action Participant L (Diary L M) Answer := do
  modify fun c => { c with memory := c.memory.note c.core op }
  op.perform react

/-- Writes down that a listener is called. -/
def Client.writeCall (listener : L) (notice : Notice) : Action Participant L (Diary L M) Unit :=
  modify fun c =>
    { c with memory := c.memory.noteCall ⟨listener, notice, c.core.view, c.core.roster⟩ }

/-- A listener does what it does. -/
def Conduct.act : Conduct L M → Action Participant L (Diary L M) Unit
  | .finish own => modify fun c => { c with memory := { c.memory with own } }
  | .fail fault => throw fault
  | .perform op others next => do
    let answer ← op.performNoted fun listener notice => do
      Client.writeCall listener notice
      (others listener notice (← get)).act
    (next answer (← get)).act

/-- Listeners that follow their habits, each call being written down first. -/
def Habits.reaction (habits : Habits L M) : Reaction Participant L (Diary L M) :=
  fun listener notice => do
    Client.writeCall listener notice
    (habits listener notice (← get)).act

theorem Conduct.act_perform (op : Operation L) (others : Habits L M)
    (next : Answer → Observed L M → Conduct L M) :
    (Conduct.perform op others next).act = (do
      let answer ← op.performNoted others.reaction
      (next answer (← get)).act) := by
  rw [act]
  rfl

/-! ### Kinds of listeners -/

/-- Whether an operation routes frames. -/
def Operation.isRouting : Operation L → Bool
  | .route _ | .run _ => true
  | _ => false

namespace Conduct

/-- The listener, and all who are called meanwhile, perform operations of one kind only. -/
def Within (allowed : Operation L → Prop) : Conduct L M → Prop
  | .finish _ | .fail _ => True
  | .perform op others next =>
    allowed op ∧ (∀ listener notice c, (others listener notice c).Within allowed) ∧
      ∀ answer c, (next answer c).Within allowed

theorem within_of_forall {allowed : Operation L → Prop} (h : ∀ op, allowed op)
    (conduct : Conduct L M) : conduct.Within allowed := by
  induction conduct with
  | finish own => exact trivial
  | fail fault => exact trivial
  | perform op others next ihOthers ihNext => exact ⟨h op, ihOthers, ihNext⟩

end Conduct

namespace Habits

/-- Listeners that only look at the client and remember things. They may fail. -/
def OnlyLook (habits : Habits L M) : Prop :=
  ∀ listener notice c, (habits listener notice c).Within fun _ => False

/-- Listeners that return, whatever they find. -/
def ComeBack (habits : Habits L M) : Prop :=
  ∀ listener notice, Action.Returns (habits.reaction listener notice)

/-- Listeners that may use the client, but route no frames. They may fail. -/
def NeverRoute (habits : Habits L M) : Prop :=
  ∀ listener notice c, (habits listener notice c).Within (·.isRouting = false)

end Habits

/-! ### What every step preserves -/

/-- A property that every step of the client preserves, short of routing a frame. -/
structure Upheld (P : Observed L M → Prop) : Prop where
  /-- It is about the participant, the link, the listeners and the memory. -/
  aside : ∀ {c}, P c → ∀ c', c.Matches c' → P c'
  /-- Listeners for objects come and go. -/
  watched : ∀ {c} w, P c → P { c with objectWatchers := w }
  /-- A listener for the roster comes. -/
  rosterWatched : ∀ {c} listener, P c →
    P { c with rosterWatchers := (c.rosterWatchers.add listener).1 }
  /-- A listener for the roster goes. -/
  rosterUnwatched : ∀ {c} id, P c → P { c with rosterWatchers := (c.rosterWatchers.remove id).1 }
  /-- A listener remembers something. -/
  remembered : ∀ {c} own, P c → P { c with memory := { c.memory with own } }
  /-- A listener is told of an object. -/
  called : ∀ {c} listener object, P c →
    P { c with memory := c.memory.noteCall ⟨listener, .object object, c.core.view, c.core.roster⟩ }
  /-- A request is written down and offered to the link, or not even offered. -/
  asked : ∀ {c} command link, P c → (link = c.link ∨
      link = (c.link.send (Client.nextFrame c.core command)).1) →
    P { c with
      core := { c.core with lastId := c.core.nextId }
      link
      memory := { c.memory with asked := c.memory.asked ++ [⟨c.core.nextId, command⟩] } }
  /-- An edit is written down and made. -/
  pushed : ∀ {c} edit, P c →
    P { c with core := (c.core.push edit).1, memory := c.memory.note c.core (.push edit) }
  /-- The objects to be looked at again are taken. -/
  taken : ∀ {c}, P c → P { c with core := c.core.takeInvalidated.1 }
  /-- The oldest frame of the queue is sent. -/
  forwarded : ∀ {c} frame rest, c.core.outbound = frame :: rest →
    (c.link.send frame).2 = .ok () → P c →
    P { c with core := { c.core with outbound := rest }, link := (c.link.send frame).1 }
  /-- The oldest frame of the queue is refused. -/
  refused : ∀ {c} frame rest e, c.core.outbound = frame :: rest →
    (c.link.send frame).2 = .error e → P c → P { c with link := (c.link.send frame).1 }

/-- A property that every step of the client preserves. -/
structure UpheldRouting (P : Observed L M → Prop) : Prop extends Upheld P where
  /-- An event is applied. -/
  applied : ∀ {c} event, P c → P { c with core := (c.core.applyEvent event).1 }
  /-- The change of the roster is taken. -/
  rosterTaken : ∀ {c}, P c → P { c with core := c.core.takeRosterChange.1 }
  /-- A listener is told of the roster. -/
  rosterCalled : ∀ {c} listener roster, P c →
    P { c with memory := c.memory.noteCall ⟨listener, .roster roster, c.core.view, c.core.roster⟩ }

namespace Client

open Whiteboard.Action

theorem sendExpecting_after {C N : Type} (frame : Frame) (id : CommandId) (c : Client C L N) :
    ∃ link replies, (link = c.link ∨ link = (c.link.send frame).1) ∧
      (sendExpecting frame id).after c = { c with link, replies } := by
  by_cases pending : c.replies.isPending id
  · exact ⟨c.link, c.replies, .inl rfl, after_of_ok (sendExpecting_of_pending frame pending)⟩
  · have sent := sendExpecting_of_free frame (Bool.eq_false_iff.mpr pending)
    cases hlink : (c.link.send frame).2 with
    | ok done =>
      rw [hlink] at sent
      exact ⟨_, _, .inr rfl, after_of_ok sent⟩
    | error e =>
      rw [hlink] at sent
      exact ⟨_, _, .inr rfl, after_of_ok sent⟩

/-- Submitting a command takes a number, and may be noted. The frame may be offered to the link. -/
theorem submit_after {N : Type} (command : Command) (mode : ReplyMode)
    (c : Client Participant L N) :
    ∃ link replies, (link = c.link ∨ link = (c.link.send (nextFrame c.core command)).1) ∧
      (submit command mode).after c =
        { c with
          core := { c.core with lastId := c.core.nextId }
          link
          replies
          log := c.log ++ c.submitNotes command } := by
  have hsubmit := submit_eq command mode c
  cases mode with
  | expect =>
    obtain ⟨link, replies, sent, hsend⟩ := sendExpecting_after (nextFrame c.core command)
      c.core.nextId { c with
        core := { c.core with lastId := c.core.nextId }
        log := c.log ++ c.submitNotes command }
    refine ⟨link, replies, sent, Eq.trans ?_ hsend⟩
    rw [after, hsubmit]
    exact after_bind fun reply c' => ⟨_, rfl⟩
  | ignore =>
    refine ⟨_, c.replies, .inr rfl, ?_⟩
    rw [after, hsubmit]
    exact after_bind fun result c' => by cases result <;> exact ⟨_, rfl⟩

section Operations

variable {P : Observed L M → Prop} {react : Reaction Participant L (Diary L M)}

/-- An operation is performed as if it had not been written down before. -/
theorem performNoted_after (op : Operation L) (c : Observed L M) :
    (op.performNoted react).after c =
      (op.perform react).after { c with memory := c.memory.note c.core op } := rfl

/-- A request is written down and takes a number, and perhaps it is offered to the link. -/
theorem request_after (react : Reaction Participant L (Diary L M)) (command : Command)
    (c : Observed L M) :
    ∃ link replies, (link = c.link ∨ link = (c.link.send (nextFrame c.core command)).1) ∧
      ((Operation.request command).performNoted react).after c =
        { c with
          core := { c.core with lastId := c.core.nextId }
          link
          replies
          log := c.log ++ c.submitNotes command
          memory := c.memory.note c.core (.request command) } := by
  obtain ⟨link, replies, sent, ended⟩ := submit_after command .expect
    { c with memory := c.memory.note c.core (.request command) }
  refine ⟨link, replies, sent, Eq.trans ?_ ended⟩
  rw [performNoted_after]
  refine (after_bind fun result c' => ?_).trans (after_bind fun result c' => ?_)
  · cases result <;> exact ⟨_, rfl⟩
  · rcases result with _ | _ | _ <;> exact ⟨_, rfl⟩

theorem fragment_after (react : Reaction Participant L (Diary L M)) (f : Fragment)
    (c : Observed L M) :
    ∃ link replies, (link = c.link ∨
        link = (c.link.send (nextFrame c.core (.session (.fragment f)))).1) ∧
      ((Operation.fragment f).performNoted react).after c =
        { c with
          core := { c.core with lastId := c.core.nextId }
          link
          replies
          log := c.log ++ c.submitNotes (.session (.fragment f))
          memory := c.memory.note c.core (.fragment f) } := by
  obtain ⟨link, replies, sent, ended⟩ := submit_after (.session (.fragment f)) .ignore
    { c with memory := c.memory.note c.core (.fragment f) }
  refine ⟨link, replies, sent, Eq.trans ?_ ended⟩
  rw [performNoted_after]
  refine (after_bind fun result c' => ?_).trans (after_bind fun result c' => ⟨_, rfl⟩)
  cases result <;> exact ⟨_, rfl⟩

theorem route_performed {frame : Frame} (h : Keeps P (route react frame)) :
    Keeps P ((Operation.route frame).performNoted react) :=
  fun c hc => (h.bind fun outcome => .pure (Answer.routed outcome)) c hc

theorem run_performed {frames : List Frame} (h : Keeps P (run react frames)) :
    Keeps P ((Operation.run frames).performNoted react) :=
  fun c hc => (h.bind fun _ => .pure Answer.done) c hc

theorem advance_performed (moved : ∀ c now, P c → P { c with now }) (milliseconds : Nat) :
    Keeps P ((Operation.advance milliseconds).performNoted react) :=
  fun c hc => ((advance_keeps moved milliseconds).bind fun _ => .pure Answer.done) c hc

/-- What follows once the listeners have heard of an edit: what is queued is sent. -/
def dispatch : Action Participant L (Diary L M) Answer := do
  match ← drain with
  | .ok _ => return .done
  | .error e => return .failed e

theorem dispatch_keeps
    (sent : Keeps P (drain : Action Participant L (Diary L M) (Except SyncError Nat))) :
    Keeps P dispatch :=
  sent.bind fun result => by cases result <;> exact .pure _

/-- An edit is written down and made, before anyone is told and anything is sent. -/
theorem push_eq (react : Reaction Participant L (Diary L M)) (edit : Edit) (c : Observed L M) :
    (Operation.push edit).performNoted react c =
      (do
        let _ ← publishObjects react
        dispatch)
        { c with
          core := (c.core.push edit).1
          log := c.log ++ c.core.pushNotes
          memory := c.memory.note c.core (.push edit) } := by
  have made : pushCore edit { c with memory := c.memory.note c.core (.push edit) } =
      .ok (.ok ()) { c with
        core := (c.core.push edit).1
        log := c.log ++ c.core.pushNotes
        memory := c.memory.note c.core (.push edit) } := by
    rw [← c.core.push_ok edit]
    rfl
  show (Operation.push edit).perform react
    { c with memory := c.memory.note c.core (.push edit) } = _
  rw [Operation.perform, pushDocument, bind_assoc, bind_of_ok made]
  dsimp only
  exact congrFun (bind_assoc ..) _

theorem request_keeps (up : Upheld P) (command : Command) :
    Keeps P ((Operation.request command).performNoted react) := by
  intro c h
  obtain ⟨link, replies, sent, ended⟩ := request_after react command c
  rw [ended]
  exact up.aside (up.asked command link h sent) _ ⟨rfl, rfl, rfl, rfl, rfl⟩

theorem fragment_keeps (up : Upheld P) (f : Fragment) :
    Keeps P ((Operation.fragment f).performNoted react) := by
  intro c h
  obtain ⟨link, replies, sent, ended⟩ := fragment_after react f c
  rw [ended]
  exact up.aside (up.asked (.session (.fragment f)) link h sent) _ ⟨rfl, rfl, rfl, rfl, rfl⟩

theorem push_keeps (up : Upheld P)
    (called : ∀ listener object, Keeps P (react listener (.object object))) (edit : Edit) :
    Keeps P ((Operation.push edit).performNoted react) := by
  intro c h
  have publish : Keeps P (publishObjects react) :=
    publishObjects_keeps (fun _ h => up.taken h) called
  have send : Keeps P (drain : Action Participant L (Diary L M) (Except SyncError Nat)) :=
    drain_keeps (fun _ frame rest => up.forwarded frame rest)
      (fun _ frame rest e => up.refused frame rest e)
      fun _ _ _ h => up.aside h _ ⟨rfl, rfl, rfl, rfl, rfl⟩
  rw [after, push_eq]
  exact publish.bind (fun _ => dispatch_keeps send) _
    (up.aside (up.pushed edit h) _ ⟨rfl, rfl, rfl, rfl, rfl⟩)

/-- What every step of the client preserves, every operation preserves that does not route. -/
theorem performNoted_keeps (up : Upheld P)
    (called : ∀ listener object, Keeps P (react listener (.object object))) {op : Operation L}
    (still : op.isRouting = false) : Keeps P (op.performNoted react) := by
  cases op with
  | request command => exact request_keeps up command
  | fragment f => exact fragment_keeps up f
  | push edit => exact push_keeps up called edit
  | route frame => exact nomatch still
  | run frames => exact nomatch still
  | watchObject object listener => exact fun c h => up.watched _ h
  | unwatchObject object id => exact fun c h => up.watched _ h
  | watchRoster listener => exact fun c h => up.rosterWatched listener h
  | unwatchRoster id => exact fun c h => up.rosterUnwatched id h
  | subscribe => exact fun c h => up.aside h _ ⟨rfl, rfl, rfl, rfl, rfl⟩
  | unsubscribe id => exact fun c h => up.aside h _ ⟨rfl, rfl, rfl, rfl, rfl⟩
  | receive id => exact fun c h => up.aside h _ ⟨rfl, rfl, rfl, rfl, rfl⟩
  | advance milliseconds =>
    exact advance_performed (fun c now h => up.aside h { c with now } ⟨rfl, rfl, rfl, rfl, rfl⟩)
      milliseconds

theorem announce_keeps (up : UpheldRouting P)
    (called : ∀ listener notice, Keeps P (react listener notice)) (message : Inbound)
    (event : SystemEvent) : Keeps P (announce react message event) := by
  have objects : Keeps P (publishObjects react) :=
    publishObjects_keeps (fun _ h => up.taken h) fun listener object => called listener _
  have roster : Keeps P (publishRoster react) :=
    publishRoster_keeps (fun _ h => up.rosterTaken h)
      (fun _ _ _ h => up.aside h _ ⟨rfl, rfl, rfl, rfl, rfl⟩)
      fun listener roster => called listener _
  exact objects.bind fun _ => roster.bind fun _ =>
    conclude_keeps (fun _ h => up.aside h) message event

theorem route_keeps (up : UpheldRouting P)
    (called : ∀ listener notice, Keeps P (react listener notice)) (frame : Frame) :
    Keeps P (route react frame) := by
  intro c h
  cases found : frame.event? with
  | none => exact up.aside h _ (route_of_no_event found)
  | some event =>
    obtain ⟨message, c', same, hroute⟩ := route_of_event (c := c) react found
    rw [after, hroute]
    exact announce_keeps up called message event _ (up.aside (up.applied event h) _ same)

theorem run_keeps (up : UpheldRouting P)
    (called : ∀ listener notice, Keeps P (react listener notice)) (frames : List Frame) :
    Keeps P (run react frames) := by
  refine (routeAll_keeps (route_keeps up called) frames).bind fun _ => ?_
  exact fun c h => up.aside h _ ⟨rfl, rfl, rfl, rfl, rfl⟩

end Operations

/-- The client after an operation that is written down first, whatever became of it. -/
def operateNoted (habits : Habits L M) (c : Observed L M) (op : Operation L) : Observed L M :=
  (op.performNoted habits.reaction).after c

/-- The client after some operations. -/
def operateAllNoted (habits : Habits L M) (c : Observed L M) (ops : List (Operation L)) :
    Observed L M := ops.foldl (operateNoted habits) c

end Client

/-! ### What every listener preserves -/

section Listeners

open Whiteboard.Action

variable {P : Observed L M → Prop}

/-- What is preserved by writing down a notice, by remembering, and by every operation during
which only such notices are given, is preserved by listeners that perform only such operations. -/
theorem Conduct.keeps {allowed : Operation L → Prop} (heard : Notice → Prop)
    (step : ∀ {op react}, allowed op → (∀ listener notice, heard notice →
      Keeps P (react listener notice)) → Keeps P (op.performNoted react))
    (write : ∀ listener notice, heard notice → Keeps P (Client.writeCall listener notice))
    (remember : ∀ {c} own, P c → P { c with memory := { c.memory with own } })
    {conduct : Conduct L M} (h : conduct.Within allowed) : Keeps P conduct.act := by
  induction conduct with
  | finish own => exact fun c hc => remember own hc
  | fail fault => exact .throw fault
  | perform op others next ihOthers ihNext =>
    obtain ⟨opAllowed, othersAllowed, nextAllowed⟩ := h
    have react : ∀ listener notice, heard notice →
        Keeps P (Habits.reaction others listener notice) := by
      intro listener notice hn
      refine (write listener notice hn).bind fun _ => .get_bind fun c hc => ?_
      exact ihOthers listener notice c (othersAllowed listener notice c) c hc
    rw [act_perform]
    refine (step opAllowed react).bind fun answer => .get_bind fun c hc => ?_
    exact ihNext answer c (nextAllowed answer c) c hc

/-- A property that outlasts whatever the listeners do, since every operation preserves it if the
listeners called meanwhile do. -/
structure Lasting (P : Observed L M → Prop) : Prop where
  performed : ∀ {react : Reaction Participant L (Diary L M)} (op : Operation L),
    (∀ listener notice, Keeps P (react listener notice)) → Keeps P (op.performNoted react)
  /-- A call is written down. -/
  written : ∀ listener notice, Keeps P (Client.writeCall listener notice)
  /-- A listener remembers something. -/
  remembered : ∀ {c} own, P c → P { c with memory := { c.memory with own } }

theorem Lasting.reaction (lasting : Lasting P) (habits : Habits L M) (listener : L)
    (notice : Notice) : Keeps P (habits.reaction listener notice) := by
  refine (lasting.written listener notice).bind fun _ => .get_bind fun c h => ?_
  have anything : (habits listener notice c).Within fun _ => True :=
    Conduct.within_of_forall (fun _ => trivial) _
  exact Conduct.keeps (fun _ => True)
    (fun _ called => lasting.performed _ fun listener notice => called listener notice trivial)
    (fun listener notice _ => lasting.written listener notice) lasting.remembered anything c h

/-- What every step of the client preserves, every listener preserves. -/
theorem UpheldRouting.lasting (up : UpheldRouting P) : Lasting P where
  performed {react} op called := by
    have still : op.isRouting = false → Keeps P (op.performNoted react) :=
      Client.performNoted_keeps up.toUpheld fun listener object => called listener (.object object)
    cases op with
    | route frame => exact Client.route_performed (Client.route_keeps up called frame)
    | run frames => exact Client.run_performed (Client.run_keeps up called frames)
    | _ => exact still rfl
  written listener notice := by
    cases notice with
    | object object => exact fun c h => up.called listener object h
    | roster roster => exact fun c h => up.rosterCalled listener roster h
  remembered := up.remembered

/-- What every step of the client short of routing preserves is preserved by everything that a
listener does without routing. -/
theorem Upheld.act (up : Upheld P) {conduct : Conduct L M}
    (h : conduct.Within (·.isRouting = false)) : Keeps P conduct.act :=
  Conduct.keeps (fun notice => ∃ object, notice = .object object)
    (fun still called => Client.performNoted_keeps up
      (fun listener object => called listener _ ⟨object, rfl⟩) still)
    (fun listener notice told => by
      obtain ⟨object, rfl⟩ := told
      exact fun c h => up.called listener object h)
    up.remembered h

theorem Upheld.reaction (up : Upheld P) {habits : Habits L M} (never : habits.NeverRoute)
    (listener : L) (object : ObjectId) :
    Keeps P (habits.reaction listener (.object object)) := by
  have write : Keeps P (Client.writeCall listener (.object object)) :=
    fun c h => up.called listener object h
  refine write.bind fun _ => .get_bind fun c h => ?_
  exact up.act (never listener (.object object) c) c h

end Listeners

namespace Client

variable {P : Observed L M → Prop}

/-- What outlasts every operation holds after every run. -/
theorem operateAllNoted_lasts (lasting : Lasting P) (habits : Habits L M) {c : Observed L M}
    (h : P c) (ops : List (Operation L)) : P (operateAllNoted habits c ops) := by
  induction ops generalizing c with
  | nil => exact h
  | cons op rest ih => exact ih (lasting.performed op (lasting.reaction habits) c h)

theorem operateNoted_keeps (up : UpheldRouting P) (habits : Habits L M) {c : Observed L M}
    (h : P c) (op : Operation L) : P (operateNoted habits c op) :=
  up.lasting.performed op (up.lasting.reaction habits) c h

/-- What every step of the client preserves holds after every run. -/
theorem operateAllNoted_keeps (up : UpheldRouting P) (habits : Habits L M) {c : Observed L M}
    (h : P c) (ops : List (Operation L)) : P (operateAllNoted habits c ops) :=
  operateAllNoted_lasts up.lasting habits h ops

/-- A new client with the usual settings and an empty diary. -/
def diarist : Observed Unit Unit := { newcomer with memory := .blank () }

theorem create_diarist : create (.create (.labelled 1)) .usual (.blank ()) = .ok diarist := by
  have power : Nat.nextPowerOfTwo 256 = 256 := by decide +kernel
  rw [create, Settings.usual, Feed.create, power]
  rfl

/-- Listeners that do nothing. -/
def idle : Habits Unit Unit := fun _ _ _ => .finish ()

theorem onlyLook_idle : idle.OnlyLook := fun _ _ _ => trivial

end Client

end Whiteboard
