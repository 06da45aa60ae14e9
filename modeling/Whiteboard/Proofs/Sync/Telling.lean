import Whiteboard.Proofs.Sync.Chronicle

/-!
# What operations tell

The chronicle of a run can be read off the operations that the client is given. An operation that
returns tells that it took a number, that replies were heard, and what became of it. Listeners that
are called meanwhile may tell more in between, but they cannot keep anything back: every reply of
the frames that were routed is heard, in the order of the frames, and nothing else is heard if the
listeners only look.
-/

namespace Whiteboard

open Whiteboard.Action

variable {L M : Type}

/-- The signals of the frames that an operation is given to route. -/
def Operation.signals : Operation L → List Signal
  | .route frame => frame.signals
  | .run frames => frames.flatMap Frame.signals ++ [.ended]
  | _ => []

/-- What became known since then: these signals were heard in order, and no others if the listeners
only look. -/
structure Tiding.Among (looking : Prop) (signals : List Signal) (since : List Tiding) : Prop where
  heard : signals.Sublist (since.filterMap Tiding.signal?)
  only : looking → since.filterMap Tiding.signal? = signals

/-- What an operation of a participant that returns an answer tells. -/
structure Operation.Tells (looking : Prop) (op : Operation L) (p : Participant) (answer : Answer)
    (since : List Tiding) : Prop where
  /-- The signals of its frames are heard, and no others if the listeners only look. -/
  among : Tiding.Among looking op.signals since
  /-- A number that goes to a segment or an edit is told of. -/
  spent : ∀ t, op.spends? p = some t → t ∈ since
  /-- A request that is sent tells just that. -/
  sent : ∀ command wait, op = .request command → answer = .waiting wait →
    since = [.sent command wait]
  /-- A failure is told of. -/
  failed : ∀ e, answer = .failed e → .failed e ∈ since
  /-- The reply that is routed is heard last, and the answer says whether it found somebody. -/
  settled : ∀ id found, answer = .routed (.routed (.myself id) found) →
    ∃ outcome awaited, since.getLast? = some (.heard (.reply id outcome) awaited) ∧
      found = (awaited.resolve id outcome).2

namespace Tiding.Among

variable {looking : Prop} {signals others : List Signal} {since more : List Tiding}

protected theorem nil : Among looking [] [] := ⟨.slnil, fun _ => rfl⟩

protected theorem append (first : Among looking signals since) (rest : Among looking others more) :
    Among looking (signals ++ others) (since ++ more) where
  heard := by
    rw [List.filterMap_append]
    exact first.heard.append rest.heard
  only looks := by rw [List.filterMap_append, first.only looks, rest.only looks]

theorem signal (s : Signal) (awaited : Replies) : Among looking [s] [.heard s awaited] :=
  ⟨.refl _, fun _ => rfl⟩

/-- What is no signal may be told of before and after. -/
theorem enclose (h : Among looking signals since) {t? u? : Option Tiding}
    (ht : t?.bind Tiding.signal? = none) (hu : u?.bind Tiding.signal? = none) :
    Among looking signals (t?.toList ++ since ++ u?.toList) := by
  have silent : ∀ t? : Option Tiding, t?.bind Tiding.signal? = none →
      t?.toList.filterMap Tiding.signal? = [] := by
    intro t? none
    cases t? with
    | none => rfl
    | some t => exact List.filterMap_cons_none none
  have same : (t?.toList ++ since ++ u?.toList).filterMap Tiding.signal? =
      since.filterMap Tiding.signal? := by
    rw [List.filterMap_append, List.filterMap_append, silent t? ht, silent u? hu, List.nil_append,
      List.append_nil]
  exact ⟨same ▸ h.heard, same ▸ h.only⟩

end Tiding.Among

/-- Something was told since then. -/
def Tiding.Since (looking : Prop) (signals : List Signal) (known told : List Tiding) : Prop :=
  ∃ since, told = known ++ since ∧ Among looking signals since

namespace Tiding.Since

variable {looking : Prop} {signals others : List Signal} {known told more : List Tiding}

protected theorem refl : Since looking [] known known := ⟨[], (List.append_nil _).symm, .nil⟩

protected theorem trans (first : Since looking signals known told)
    (rest : Since looking others told more) : Since looking (signals ++ others) known more := by
  obtain ⟨since, rfl, among⟩ := first
  obtain ⟨later, rfl, afterwards⟩ := rest
  exact ⟨since ++ later, List.append_assoc _ _ _, among.append afterwards⟩

theorem heard (s : Signal) (awaited : Replies) :
    Since looking [s] known (known ++ [.heard s awaited]) := ⟨_, rfl, .signal s awaited⟩

end Tiding.Since

namespace Client

variable {looking : Prop} {react : Reaction Participant L (Diary L (Chronicle M))}
  {c d : Observed L (Chronicle M)}

/-- Listeners that may tell of anything, but of nothing if they only look. -/
def Discreet (looking : Prop) (react : Reaction Participant L (Diary L (Chronicle M))) : Prop :=
  ∀ known listener notice, Keeps (Known (Tiding.Since looking [] known)) (react listener notice)

/-- Listeners that only look write nothing down. -/
theorem told_known {P : List Tiding → Prop} {habits : Habits L M} (looks : habits.OnlyLook)
    (listener : L) (notice : Notice) : Keeps (Known P) (habits.told listener notice) := by
  have written : Keeps (Known (L := L) (M := M) P) (writeCall listener notice) := fun _ h => h
  refine written.bind fun _ => .get_bind fun c h => ?_
  have only := looks listener notice c.plain
  cases conduct : habits listener notice c.plain with
  | finish own => exact h
  | fail fault => exact h
  | perform op others next =>
    rw [conduct] at only
    exact only.1.elim

theorem discreet_told (habits : Habits L M) : Discreet habits.OnlyLook habits.told := by
  intro known listener notice c h
  have grows : ∀ told t, c.memory.own.tidings <+: told → c.memory.own.tidings <+: told ++ [t] :=
    fun told t known => known.trans (List.prefix_append told [t])
  have abiding : Abiding (Known (L := L) (M := M) (c.memory.own.tidings <+: ·)) :=
    known_abiding grows
  obtain ⟨more, grown⟩ := abiding.told
    (fun listener notice d => abiding.actTold (habits listener notice d)) listener notice c
    List.prefix_rfl
  refine Tiding.Since.trans h ⟨more, grown.symm, List.nil_sublist _, fun looks => ?_⟩
  have same : ((habits.told listener notice).after c).memory.own.tidings = c.memory.own.tidings :=
    told_known (P := (· = c.memory.own.tidings)) looks listener notice c rfl
  rw [same, List.append_right_eq_self] at grown
  rw [grown]
  rfl

/-- Only what routes a frame answers that a frame was routed. -/
theorem answer_of_unrouted {op : Operation L} {answer : Answer}
    (ended : op.performAttentive react c = .ok answer d) (still : op.isRouting = false)
    (outcome : RouteOutcome) : answer ≠ .routed outcome := by
  cases op with
  | route frame => cases still
  | run frames => cases still
  | request command =>
    obtain ⟨_, _, -, performed⟩ := ok_of_bind ended
    obtain ⟨result, _, -, answered⟩ := ok_of_bind performed
    cases result <;> cases answered <;> exact nofun
  | fragment f =>
    obtain ⟨_, _, -, performed⟩ := ok_of_bind ended
    obtain ⟨result, _, -, answered⟩ := ok_of_bind performed
    cases result <;> cases answered <;> exact nofun
  | push edit =>
    obtain ⟨_, _, -, performed⟩ := ok_of_bind ended
    obtain ⟨result, _, -, answered⟩ := ok_of_bind performed
    cases result <;> cases answered <;> exact nofun
  | advance milliseconds =>
    obtain ⟨_, _, -, performed⟩ := ok_of_bind ended
    obtain ⟨_, _, -, answered⟩ := ok_of_bind performed
    cases answered
    exact nofun
  | _ =>
    cases ended
    exact nofun

section Routing

variable (discreet : Discreet looking react)

include discreet

/-- Until the reply is settled, only the listeners' own doings are told of. -/
theorem spreadBy_tells {frame : Frame} {origin : Origin} {event : SystemEvent}
    (ended : spreadBy attentive react frame origin event c = .ok () d) :
    Tiding.Since looking [] c.memory.own.tidings d.memory.own.tidings := by
  have kept := spreadBy_known (discreet c.memory.own.tidings) frame origin event c
    .refl
  rw [after_of_ok ended] at kept
  exact kept

/-- The reply of a frame that is routed is heard last. -/
theorem routeBy_tells {frame : Frame} {outcome : RouteOutcome}
    (ended : routeBy attentive react frame c = .ok outcome d) :
    ∃ since, d.memory.own.tidings = c.memory.own.tidings ++ since ∧
      Tiding.Among looking frame.signals since ∧
      ∀ id found, outcome = .routed (.myself id) found →
        ∃ result awaited, since.getLast? = some (.heard (.reply id result) awaited) ∧
          found = (awaited.resolve id result).2 := by
  rw [routeBy] at ended
  rw [Frame.signals]
  cases read : Inbound.ofFrame frame with
  | error e =>
    rw [read] at ended
    dsimp only [dropFrame] at ended
    cases fault : e.fault? with
    | some fault' =>
      rw [fault] at ended
      cases ended
    | none =>
      rw [fault] at ended
      cases ended
      refine ⟨[], (List.append_nil _).symm, .nil, fun id found routed => ?_⟩
      cases routed
  | ok message =>
    rw [read] at ended
    cases message with
    | notice event =>
      obtain ⟨_, c₁, announced, settled⟩ := ok_of_bind ended
      obtain ⟨since, told, among⟩ := spreadBy_tells discreet announced
      cases settled
      refine ⟨since, told, among, fun id found routed => ?_⟩
      cases routed
    | reply id result =>
      obtain ⟨c₁, ⟨since, told, among⟩, settled⟩ : ∃ c₁,
          Tiding.Since looking [] c.memory.own.tidings c₁.memory.own.tidings ∧
            (do return RouteOutcome.routed (.myself id) (← attentive.settle id result)) c₁ =
              .ok outcome d := by
        dsimp only at ended
        cases event : (Inbound.reply id result).event? with
        | none =>
          rw [event] at ended
          exact ⟨c, .refl, ended⟩
        | some event' =>
          rw [event] at ended
          obtain ⟨_, c₁, announced, settled⟩ := ok_of_bind ended
          exact ⟨c₁, spreadBy_tells discreet announced, settled⟩
      obtain ⟨rfl, rfl⟩ := EStateM.Result.ok.inj settled
      refine ⟨since ++ [.heard (.reply id result) c₁.replies], ?_, among.append (.signal _ _), ?_⟩
      · rw [← List.append_assoc, ← told]
      · rintro _ _ ⟨⟩
        exact ⟨result, c₁.replies, List.getLast?_concat, rfl⟩

theorem routeAllTold_tells {frames : List Frame} (ended : routeAllTold react frames c = .ok () d) :
    Tiding.Since looking (frames.flatMap Frame.signals) c.memory.own.tidings
      d.memory.own.tidings := by
  induction frames generalizing c with
  | nil =>
    cases ended
    exact .refl
  | cons frame rest ih =>
    obtain ⟨outcome, c₁, routed, ended⟩ := ok_of_bind ended
    obtain ⟨since, told, among, -⟩ := routeBy_tells discreet routed
    exact Tiding.Since.trans ⟨since, told, among⟩ (ih ended)

theorem runTold_tells {frames : List Frame} (ended : runTold react frames c = .ok () d) :
    Tiding.Since looking (frames.flatMap Frame.signals ++ [.ended]) c.memory.own.tidings
      d.memory.own.tidings := by
  obtain ⟨_, c₁, routed, closed⟩ := ok_of_bind ended
  obtain ⟨-, rfl⟩ := EStateM.Result.ok.inj closed
  exact (routeAllTold_tells discreet routed).trans (.heard .ended c₁.replies)

theorem performAttentive_tells {op : Operation L} {answer : Answer}
    (ended : op.performAttentive react c = .ok answer d) :
    ∃ since, d.memory.own.tidings = c.memory.own.tidings ++ since ∧
      Tiding.Among looking op.signals since ∧ (∀ command, op = .request command → since = []) ∧
      ∀ id found, answer = .routed (.routed (.myself id) found) →
        ∃ outcome awaited, since.getLast? = some (.heard (.reply id outcome) awaited) ∧
          found = (awaited.resolve id outcome).2 := by
  -- what routes nothing tells nothing but what the listeners tell
  have still : op.isRouting = false → Tiding.Since looking [] c.memory.own.tidings
      d.memory.own.tidings := fun still => by
    have kept := performAttentive_known (discreet c.memory.own.tidings) still c .refl
    rwa [after_of_ok ended] at kept
  have answered := answer_of_unrouted ended
  cases op with
  | route frame =>
    obtain ⟨outcome, _, routed, returned⟩ := ok_of_bind ended
    cases returned
    obtain ⟨since, told, among, last⟩ := routeBy_tells discreet routed
    exact ⟨since, told, among, nofun, fun id found same => last id found (Answer.routed.inj same)⟩
  | run frames =>
    obtain ⟨_, _, routed, returned⟩ := ok_of_bind ended
    cases returned
    obtain ⟨since, told, among⟩ := runTold_tells discreet routed
    exact ⟨since, told, among, nofun, nofun⟩
  | request command =>
    obtain ⟨link, replies, -, same⟩ := request_after react command c
    have known : d = _ := (after_of_ok ended).symm.trans same
    refine ⟨[], ?_, .nil, fun _ _ => rfl, fun id found routed => (answered rfl _ routed).elim⟩
    rw [known, List.append_nil]
    rfl
  | _ =>
    obtain ⟨since, told, among⟩ := still rfl
    exact ⟨since, told, among, nofun, fun id found routed => (answered rfl _ routed).elim⟩

theorem performTold_tells {op : Operation L} {answer : Answer}
    (ended : op.performTold react c = .ok answer d) :
    ∃ since, d.memory.own.tidings = c.memory.own.tidings ++ since ∧
      op.Tells looking c.core answer since := by
  have begun := tell_eq (op.spends? c.core) c
  obtain ⟨answer', d₁, performed, told⟩ := ok_of_bind ((bind_of_ok begun _).symm.trans ended)
  obtain ⟨_, d₂, noted, returned⟩ := ok_of_bind told
  rw [tell_eq] at noted
  obtain ⟨-, rfl⟩ := EStateM.Result.ok.inj noted
  cases returned
  obtain ⟨since, known, among, silent, last⟩ := performAttentive_tells discreet performed
  refine ⟨(op.spends? c.core).toList ++ since ++ (op.tiding? answer).toList, ?_, ?_⟩
  · show d₁.memory.own.tidings ++ _ = _
    rw [known, List.append_assoc, List.append_assoc, List.append_assoc]
  · -- a number, a failure and a request that is sent are no signals
    have spends : (op.spends? c.core).bind Tiding.signal? = none := by
      cases op with
      | push edit =>
        rw [Operation.spends?]
        split <;> rfl
      | _ => rfl
    have answers : (op.tiding? answer).bind Tiding.signal? = none := by
      cases op <;> cases answer <;> rfl
    refine ⟨among.enclose spends answers, fun t spent => ?_, ?_, fun e failed => ?_, ?_⟩
    · rw [spent]
      exact List.mem_cons_self
    · rintro command wait rfl rfl
      rw [silent command rfl]
      rfl
    · subst failed
      have told : op.tiding? (.failed e) = some (.failed e) := by cases op <;> rfl
      rw [told]
      exact List.mem_concat_self
    · rintro id found rfl
      obtain ⟨outcome, awaited, heard, same⟩ := last id found rfl
      refine ⟨outcome, awaited, ?_, same⟩
      have nothing : op.tiding? (.routed (.routed (.myself id) found)) = none := by
        cases op <;> rfl
      rw [nothing, Option.toList_none, List.append_nil, List.getLast?_append, heard]
      rfl

end Routing

/-- Whatever the client is given tells what it should, if it returns. -/
theorem tidings_tells (habits : Habits L M) (c : Observed L M) (ops : List (Operation L))
    {op : Operation L} {answer : Answer} {d : Observed L M}
    (ended : op.performNoted habits.reaction (operateAllNoted habits c ops) = .ok answer d) :
    ∃ since, tidings habits c (ops ++ [op]) = tidings habits c ops ++ since ∧
      op.Tells habits.OnlyLook (operateAllNoted habits c ops).core answer since := by
  let t := operateAllTold habits c.chronicled ops
  have plain : t.plain = operateAllNoted habits c ops :=
    operateAllTold_plain habits c.chronicled ops
  have called := Habits.told_recounts fun listener notice c =>
    (habits listener notice c).actTold_recounts
  have same : op.performNoted habits.reaction t.plain = _ := performTold_recounts called op t
  rw [plain, ended] at same
  have told : tidings habits c (ops ++ [op]) =
      ((op.performTold habits.told).after t).memory.own.tidings := by
    rw [tidings, operateAllTold_append]
    rfl
  rw [told, ← plain]
  cases performed : op.performTold habits.told t with
  | error fault t' =>
    rw [performed] at same
    cases same
  | ok answer' t' =>
    rw [performed] at same
    obtain ⟨rfl, -⟩ := EStateM.Result.ok.inj same
    rw [after_of_ok performed]
    exact performTold_tells (discreet_told habits) performed

end Client

end Whiteboard
