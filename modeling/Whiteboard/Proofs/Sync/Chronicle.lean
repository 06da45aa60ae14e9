import Whiteboard.Proofs.Sync.Conduct
import Whiteboard.Proofs.Sync.Projection

/-!
# A chronicle of commands and replies

Listeners may send commands and route frames themselves while they are called, so the operations
that the client is given do not tell in which order requests left and replies came. A chronicle
does: it is written behind the listeners' backs, at the moment when something happens, however deep
in the middle of other operations that may be.

A chronicle changes nothing. Whoever leaves it out has the run as it was.
-/

namespace Whiteboard

open Whiteboard.Action

/-- What becomes known of commands and replies. -/
inductive Tiding
  /-- A request was sent, and its caller waits. -/
  | sent (command : Command) (wait : Wait)
  /-- A number goes to a segment or to an edit, for which nobody waits. -/
  | spent (id : CommandId)
  /-- An operation failed. -/
  | failed (e : SyncError)
  /-- A reply is delivered, or the stream has ended; and the replies awaited at that moment. -/
  | heard (signal : Signal) (awaited : Replies)

/-- The signal that was heard. -/
def Tiding.signal? : Tiding → Option Signal
  | .heard signal _ => some signal
  | _ => none

/-- What the listeners remember, with a chronicle that they do not see. -/
structure Chronicle (M : Type) where
  /-- What the listeners remember. -/
  own : M
  /-- What became known so far. -/
  tidings : List Tiding

variable {L M : Type}

/-- The diary without the chronicle. -/
def Diary.plain (d : Diary L (Chronicle M)) : Diary L M :=
  ⟨d.asked, d.announced, d.calls, d.own.own⟩

namespace Client

/-- The client as its listeners see it. -/
def plain (c : Observed L (Chronicle M)) : Observed L M := c.project Diary.plain

/-- A client whose chronicle begins. -/
def chronicled (c : Observed L M) : Observed L (Chronicle M) :=
  { c with memory := ⟨c.memory.asked, c.memory.announced, c.memory.calls, c.memory.own, []⟩ }

/-- Writes something down. -/
def tell : Option Tiding → Action Participant L (Diary L (Chronicle M)) Unit
  | none => return
  | some tiding => modify fun c =>
    { c with memory := { c.memory with
        own := { c.memory.own with tidings := c.memory.own.tidings ++ [tiding] } } }

/-- The client's own feed, and the replies that it awaits; every reply is written down when its turn
to be delivered has come. -/
def attentive : Delivery Participant L (Diary L (Chronicle M)) where
  broadcast := delivery.broadcast
  settle id outcome := do
    tell (some (.heard (.reply id outcome) (← get).replies))
    resolve id outcome

/-- Routes frames one after the other. -/
def routeAllTold (react : Reaction Participant L (Diary L (Chronicle M))) :
    List Frame → Action Participant L (Diary L (Chronicle M)) Unit
  | [] => return
  | frame :: rest => do
    let _ ← routeBy attentive react frame
    routeAllTold react rest

/-- Routes the frames of an inbound stream until it ends. The end is written down when it is
noticed. -/
def runTold (react : Reaction Participant L (Diary L (Chronicle M))) (frames : List Frame) :
    Action Participant L (Diary L (Chronicle M)) Unit := do
  routeAllTold react frames
  tell (some (.heard .ended (← get).replies))
  let abandoned ← onReplies Replies.abandonAll
  note [.streamClosed frames.length abandoned]

end Client

namespace Operation

/-- The number that goes to a segment, or to an edit inside a session. -/
def spends? (p : Participant) : Operation L → Option Tiding
  | .fragment _ => some (.spent p.nextId)
  | .push _ => if p.session?.isSome then some (.spent p.nextId) else none
  | _ => none

/-- What is known once an operation has given its answer. -/
def tiding? : Operation L → Answer → Option Tiding
  | .request command, .waiting wait => some (.sent command wait)
  | _, .failed e => some (.failed e)
  | _, _ => none

/-- Performs an operation, and attends to the replies. -/
def performAttentive (react : Reaction Participant L (Diary L (Chronicle M))) :
    Operation L → Action Participant L (Diary L (Chronicle M)) Answer
  | .route frame => return .routed (← Client.routeBy Client.attentive react frame)
  | .run frames => do
    Client.runTold react frames
    return .done
  | op => op.performNoted react

/-- Performs an operation, with a chronicle. -/
def performTold (react : Reaction Participant L (Diary L (Chronicle M))) (op : Operation L) :
    Action Participant L (Diary L (Chronicle M)) Answer := do
  Client.tell (op.spends? (← get).core)
  let answer ← op.performAttentive react
  Client.tell (op.tiding? answer)
  return answer

end Operation

/-- A listener does what it does, with a chronicle that it does not see. -/
def Conduct.actTold : Conduct L M → Action Participant L (Diary L (Chronicle M)) Unit
  | .finish own => modify fun c =>
    { c with memory := { c.memory with own := { c.memory.own with own } } }
  | .fail fault => throw fault
  | .perform op others next => do
    let answer ← op.performTold fun listener notice => do
      Client.writeCall listener notice
      (others listener notice (← get).plain).actTold
    (next answer (← get).plain).actTold

/-- Listeners that follow their habits, with a chronicle that they do not see. -/
def Habits.told (habits : Habits L M) : Reaction Participant L (Diary L (Chronicle M)) :=
  fun listener notice => do
    Client.writeCall listener notice
    (habits listener notice (← get).plain).actTold

theorem Conduct.actTold_perform (op : Operation L) (others : Habits L M)
    (next : Answer → Observed L M → Conduct L M) :
    (Conduct.perform op others next).actTold = (do
      let answer ← op.performTold others.told
      (next answer (← get).plain).actTold) := by
  rw [actTold]
  rfl

namespace Client

/-- The client after some operations, with a chronicle. -/
def operateAllTold (habits : Habits L M) (c : Observed L (Chronicle M)) (ops : List (Operation L)) :
    Observed L (Chronicle M) := ops.foldl (fun c op => (op.performTold habits.told).after c) c

/-- The chronicle of a run. -/
def tidings (habits : Habits L M) (c : Observed L M) (ops : List (Operation L)) : List Tiding :=
  (operateAllTold habits c.chronicled ops).memory.own.tidings

/-! ### The run without the chronicle -/

section Plain

/-- Without the chronicle, the first action does what the second one does. -/
abbrev Recounts {α : Type} (x' : Action Participant L (Diary L (Chronicle M)) α)
    (x : Action Participant L (Diary L M) α) : Prop := Projects Diary.plain x' x

theorem tell_recounts (tiding? : Option Tiding) :
    Recounts (tell (L := L) (M := M) tiding?) (pure ()) := by
  cases tiding? with
  | none => exact .pure ()
  | some tiding => exact fun _ => rfl

/-- What is written down, also in view of the client, is left out again. -/
theorem tell_get_recounts {β : Type} (tiding? : Observed L (Chronicle M) → Option Tiding)
    {x' : Action Participant L (Diary L (Chronicle M)) β}
    {x : Action Participant L (Diary L M) β} (rest : Recounts x' x) :
    Recounts (do tell (tiding? (← get)); x') x :=
  fun c => ((tell_recounts (tiding? c)).bind fun _ => rest) c

variable {react' : Reaction Participant L (Diary L (Chronicle M))}
  {react : Reaction Participant L (Diary L M)}
  (called : ∀ listener notice, Recounts (react' listener notice) (react listener notice))

include called

theorem route_recounts (frame : Frame) :
    Recounts (routeBy attentive react' frame) (route react frame) := by
  have resolved : ∀ id outcome, Recounts (resolve (L := L) (M := Diary L (Chronicle M)) id outcome)
      (resolve id outcome) := fun _ _ _ => rfl
  exact routeBy_projects called (fun _ _ => rfl)
    (fun id outcome => tell_get_recounts
      (fun c => some (.heard (.reply id outcome) c.replies)) (resolved id outcome)) frame

theorem routeAll_recounts (frames : List Frame) :
    Recounts (routeAllTold react' frames) (routeAll react frames) := by
  induction frames with
  | nil => exact .pure ()
  | cons frame rest ih => exact (route_recounts called frame).bind fun _ => ih

theorem run_recounts (frames : List Frame) :
    Recounts (runTold react' frames) (run react frames) := by
  have closed : Recounts (L := L) (M := M)
      (do
        let abandoned ← onReplies Replies.abandonAll
        note [.streamClosed frames.length abandoned])
      (do
        let abandoned ← onReplies Replies.abandonAll
        note [.streamClosed frames.length abandoned]) := fun _ => rfl
  exact (routeAll_recounts called frames).bind fun _ =>
    tell_get_recounts (fun c => some (.heard .ended c.replies)) closed

theorem performAttentive_recounts (op : Operation L) :
    Recounts (op.performAttentive react') (op.performNoted react) := by
  cases op with
  | request command =>
    have performed : Recounts ((Operation.request command).perform react')
        ((Operation.request command).perform react) := by
      refine (request_projects command).bind fun result => ?_
      cases result <;> exact fun _ => rfl
    exact fun c => performed { c with memory := c.memory.note c.core (.request command) }
  | fragment f =>
    have performed : Recounts ((Operation.fragment f).perform react')
        ((Operation.fragment f).perform react) := by
      refine (sendFragment_projects f).bind fun result => ?_
      cases result <;> exact fun _ => rfl
    exact fun c => performed { c with memory := c.memory.note c.core (.fragment f) }
  | push edit =>
    have performed : Recounts ((Operation.push edit).perform react')
        ((Operation.push edit).perform react) := by
      refine (pushDocument_projects called edit).bind fun result => ?_
      cases result <;> exact fun _ => rfl
    exact fun c => performed { c with memory := c.memory.note c.core (.push edit) }
  | route frame =>
    have performed : Recounts ((Operation.route frame).performAttentive react')
        ((Operation.route frame).perform react) :=
      (route_recounts called frame).bind fun outcome => .pure (Answer.routed outcome)
    exact performed
  | run frames =>
    have performed : Recounts ((Operation.run frames).performAttentive react')
        ((Operation.run frames).perform react) :=
      (run_recounts called frames).bind fun _ => .pure Answer.done
    exact performed
  | advance milliseconds =>
    have performed : Recounts ((Operation.advance milliseconds).perform react')
        ((Operation.advance milliseconds).perform react) :=
      (advance_projects milliseconds).bind fun _ => .pure Answer.done
    exact performed
  | _ => exact fun _ => rfl

theorem performTold_recounts (op : Operation L) :
    Recounts (op.performTold react') (op.performNoted react) := by
  have told : ∀ answer, Recounts (L := L) (M := M)
      (do
        tell (op.tiding? answer)
        return answer)
      (pure answer) := fun answer => tell_get_recounts (fun _ => op.tiding? answer) (.pure answer)
  have performed := (performAttentive_recounts called op).bind told
  rw [bind_pure] at performed
  exact tell_get_recounts (fun c => op.spends? c.core) performed

end Plain

end Client

/-- Listeners do what they do, whether or not a chronicle is kept, if they do so once they are
called. -/
theorem Habits.told_recounts {habits : Habits L M}
    (acts : ∀ listener notice c, Client.Recounts (habits listener notice c).actTold
      (habits listener notice c).act) (listener : L) (notice : Notice) :
    Client.Recounts (habits.told listener notice) (habits.reaction listener notice) := by
  have written : Client.Recounts (L := L) (M := M) (Client.writeCall listener notice)
      (Client.writeCall listener notice) := fun _ => rfl
  exact written.bind fun _ => .get_bind fun c => acts listener notice c.plain c

theorem Conduct.actTold_recounts (conduct : Conduct L M) :
    Client.Recounts conduct.actTold conduct.act := by
  induction conduct with
  | finish own => exact fun _ => rfl
  | fail fault => exact .throw fault
  | perform op others next ihOthers ihNext =>
    rw [actTold_perform, act_perform]
    have performed := Client.performTold_recounts (Habits.told_recounts ihOthers) op
    exact performed.bind fun answer => .get_bind fun c => ihNext answer c.plain c

namespace Client

/-- Without the chronicle it is the run itself. -/
theorem operateAllTold_plain (habits : Habits L M) (c : Observed L (Chronicle M))
    (ops : List (Operation L)) :
    (operateAllTold habits c ops).plain = operateAllNoted habits c.plain ops := by
  induction ops generalizing c with
  | nil => rfl
  | cons op rest ih =>
    have called := Habits.told_recounts fun listener notice c =>
      (habits listener notice c).actTold_recounts
    have first : operateNoted habits c.plain op = ((op.performTold habits.told).after c).plain :=
      (performTold_recounts called op).after_eq c
    rw [operateAllNoted, List.foldl_cons, first]
    exact ih _

end Client

/-! ### What outlasts everything -/

/-- A property that every operation preserves if the listeners do that are called meanwhile, with a
chronicle kept. -/
structure Abiding (P : Observed L (Chronicle M) → Prop) : Prop where
  /-- An operation is performed. -/
  performed : ∀ {react : Reaction Participant L (Diary L (Chronicle M))} (op : Operation L),
    (∀ listener notice, Keeps P (react listener notice)) → Keeps P (op.performTold react)
  /-- A call is written down. -/
  written : ∀ listener notice, Keeps P (Client.writeCall listener notice)
  /-- A listener remembers something. -/
  remembered : ∀ {c} own, P c →
    P { c with memory := { c.memory with own := { c.memory.own with own } } }

namespace Abiding

variable {P : Observed L (Chronicle M) → Prop}

protected theorem told (abiding : Abiding P) {habits : Habits L M}
    (acts : ∀ listener notice c, Keeps P (habits listener notice c).actTold) (listener : L)
    (notice : Notice) : Keeps P (habits.told listener notice) :=
  (abiding.written listener notice).bind fun _ => .get_bind fun c h =>
    acts listener notice c.plain c h

protected theorem actTold (abiding : Abiding P) (conduct : Conduct L M) :
    Keeps P conduct.actTold := by
  induction conduct with
  | finish own => exact fun c h => abiding.remembered own h
  | fail fault => exact .throw fault
  | perform op others next ihOthers ihNext =>
    rw [Conduct.actTold_perform]
    exact (abiding.performed op (abiding.told ihOthers)).bind fun answer => .get_bind fun c h =>
      ihNext answer c.plain c h

/-- What outlasts every operation holds after every run. -/
theorem operateAllTold (abiding : Abiding P) (habits : Habits L M) {c : Observed L (Chronicle M)}
    (h : P c) (ops : List (Operation L)) : P (Client.operateAllTold habits c ops) := by
  induction ops generalizing c with
  | nil => exact h
  | cons op rest ih =>
    have called := abiding.told fun listener notice c =>
      abiding.actTold (habits listener notice c)
    exact ih (abiding.performed op called c h)

end Abiding

/-! ### What is written down stays so -/

namespace Client

section Known

variable {P : List Tiding → Prop} {react : Reaction Participant L (Diary L (Chronicle M))}

/-- Something holds of what is known. -/
abbrev Known (P : List Tiding → Prop) (c : Observed L (Chronicle M)) : Prop :=
  P c.memory.own.tidings

theorem tell_eq (tiding? : Option Tiding) (c : Observed L (Chronicle M)) :
    tell tiding? c = .ok () { c with memory := { c.memory with
      own := { c.memory.own with tidings := c.memory.own.tidings ++ tiding?.toList } } } := by
  cases tiding? with
  | none =>
    rw [Option.toList_none, List.append_nil]
    rfl
  | some tiding => rfl

theorem tell_ok (tiding? : Option Tiding) (c : Observed L (Chronicle M)) :
    tell tiding? c = .ok () ((tell tiding?).after c) := by
  rw [after_of_ok (tell_eq tiding? c), tell_eq]

theorem tell_known (more : ∀ told t, P told → P (told ++ [t])) (tiding? : Option Tiding) :
    Keeps (Known (L := L) (M := M) P) (tell tiding?) := by
  cases tiding? with
  | none => exact fun c h => h
  | some tiding => exact fun c h => more _ tiding h

theorem broadcast_known (routed : Routed) :
    Keeps (Known (L := L) (M := M) P) (attentive.broadcast routed) := fun _ h => h

variable (called : ∀ listener notice, Keeps (Known P) (react listener notice))

include called

theorem publishObjects_known : Keeps (Known P) (publishObjects react) :=
  publishObjects_keeps (fun _ h => h) fun listener object => called listener (.object object)

theorem publishRoster_known : Keeps (Known P) (publishRoster react) :=
  publishRoster_keeps (fun _ h => h) (fun _ _ _ h => h) fun listener roster =>
    called listener (.roster roster)

theorem spreadBy_known (frame : Frame) (origin : Origin) (event : SystemEvent) :
    Keeps (Known P) (spreadBy attentive react frame origin event) :=
  spreadBy_keeps (fun _ _ h => h) (fun _ _ h => h) (publishObjects_known called)
    (publishRoster_known called) broadcast_known frame origin event

/-- Only what routes frames writes anything down while it is performed, apart from what listeners
write down meanwhile. -/
theorem performAttentive_known {op : Operation L} (still : op.isRouting = false) :
    Keeps (Known P) (op.performAttentive react) := by
  cases op with
  | request command =>
    intro c h
    obtain ⟨link, replies, -, ended⟩ := request_after react command c
    show Known P (((Operation.request command).performNoted react).after c)
    rw [ended]
    exact h
  | fragment f =>
    intro c h
    obtain ⟨link, replies, -, ended⟩ := fragment_after react f c
    show Known P (((Operation.fragment f).performNoted react).after c)
    rw [ended]
    exact h
  | push edit =>
    intro c h
    have sent : Keeps (Known P)
        (drain : Action Participant L (Diary L (Chronicle M)) (Except SyncError Nat)) :=
      drain_keeps (fun _ _ _ _ _ h => h) (fun _ _ _ _ _ _ h => h) fun _ _ _ h => h
    have performed : (Operation.push edit).performAttentive react c = _ := push_eq react edit c
    rw [after, performed]
    exact (publishObjects_known called).bind (fun _ => dispatch_keeps sent) _ h
  | route frame => cases still
  | run frames => cases still
  | advance milliseconds => exact advance_performed (fun _ _ h => h) milliseconds
  | _ => exact fun _ h => h

/-- What goes on to hold when more is written down outlasts every operation. -/
theorem performTold_known (more : ∀ told t, P told → P (told ++ [t])) (op : Operation L) :
    Keeps (Known P) (op.performTold react) := by
  have settle : ∀ id outcome,
      Keeps (Known P) ((attentive (L := L) (M := M)).settle id outcome) :=
    fun id outcome c h => more _ (.heard (.reply id outcome) c.replies) h
  have routed : ∀ frame, Keeps (Known P) (routeBy attentive react frame) :=
    routeBy_keeps (fun _ _ h => h) (fun _ _ h => h) (publishObjects_known called)
      (publishRoster_known called) broadcast_known settle
  have performed : Keeps (Known P) (op.performAttentive react) := by
    cases op with
    | route frame => exact (routed frame).bind fun outcome => .pure (Answer.routed outcome)
    | run frames =>
      have all : Keeps (Known P) (routeAllTold react frames) := by
        induction frames with
        | nil => exact .pure ()
        | cons frame rest ih => exact (routed frame).bind fun _ => ih
      have ended : Keeps (Known P) (runTold react frames) :=
        all.bind fun _ c h => more _ (.heard .ended c.replies) h
      exact ended.bind fun _ => .pure Answer.done
    | _ => exact performAttentive_known called rfl
  have written : ∀ answer, Keeps (Known P) (do
      tell (op.tiding? answer)
      return answer : Action Participant L (Diary L (Chronicle M)) Answer) :=
    fun answer => (tell_known more (op.tiding? answer)).bind fun _ => .pure answer
  exact .get_bind fun c h =>
    ((tell_known more (op.spends? c.core)).bind fun _ => performed.bind written) c h

omit called in
theorem known_abiding (more : ∀ told t, P told → P (told ++ [t])) :
    Abiding (Known (L := L) (M := M) P) where
  performed op called := performTold_known called more op
  written _ _ _ h := h
  remembered _ h := h

end Known

variable (habits : Habits L M) (c : Observed L M) (ops more : List (Operation L))

theorem operateAllTold_append (c : Observed L (Chronicle M)) :
    operateAllTold habits c (ops ++ more) =
      operateAllTold habits (operateAllTold habits c ops) more := List.foldl_append

/-- What is written down stays so. -/
theorem tidings_prefix : tidings habits c ops <+: tidings habits c (ops ++ more) := by
  have grows : ∀ told t, tidings habits c ops <+: told → tidings habits c ops <+: told ++ [t] :=
    fun told t known => known.trans (List.prefix_append told [t])
  rw [tidings, tidings, operateAllTold_append]
  exact (known_abiding grows).operateAllTold habits List.prefix_rfl more

end Client

end Whiteboard
