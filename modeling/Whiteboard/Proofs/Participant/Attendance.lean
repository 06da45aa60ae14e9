import Mathlib.Data.List.Induction
import Whiteboard.Proofs.Participant.Joining

/-!
# Who takes part

A participant gets the full roster of its session when it enters, and again whenever the relay
sends one. In between it is told who came and who went, and keeps the roster by itself: whoever came
and is not on it is added at its end, and whoever went is taken off it. Nothing else that happens to
the participant has to do with it.
-/

namespace Whiteboard

/-- Someone came or went. -/
inductive Movement
  /-- A connection joined. -/
  | came (c : ConnectionId)
  /-- A connection left. -/
  | went (c : ConnectionId)
  deriving DecidableEq

/-- Who it was. -/
def Movement.connection : Movement → ConnectionId
  | .came c | .went c => c

/-- Who came or went according to an event. -/
def SystemEvent.movement? : SystemEvent → Option Movement
  | .session (.someoneJoined c) => some (.came c)
  | .session (.someoneLeft c) => some (.went c)
  | _ => none

/-- The full roster in an event. -/
def SystemEvent.fullRoster? : SystemEvent → Option Roster
  | .joinedSession _ roster _ | .session (.rosterChanged roster) => some roster
  | _ => none

/-- Whether an event leaves the participant in its session, with no new roster. -/
def SystemEvent.incremental (e : SystemEvent) : Bool := e.fullRoster?.isNone && e ≠ .leftSession

namespace Roster

/-- The roster after a movement. -/
def move (r : Roster) : Movement → Roster
  | .came c => r.add c
  | .went c => r.remove c

/-- The roster after some movements. -/
def after (r : Roster) (moves : List Movement) : Roster := moves.foldl move r

/-- Someone was added to the roster by the movement at this place, and did not go since. -/
def AddedAt (r : Roster) (moves : List Movement) (place : Nat) (c : ConnectionId) : Prop :=
  moves[place]? = some (.came c) ∧ c ∉ (r.after (moves.take place)).connections ∧
    .went c ∉ moves.drop (place + 1)

variable {r : Roster} {moves : List Movement} {c d : ConnectionId}

theorem after_concat (r : Roster) (moves : List Movement) (m : Movement) :
    r.after (moves ++ [m]) = (r.after moves).move m := by
  rw [after, List.foldl_append]
  rfl

theorem mem_add : c ∈ (r.add d).connections ↔ c ∈ r.connections ∨ c = d := by
  rw [add]
  split
  · rename_i present
    exact ⟨.inl, fun h => h.elim id fun same => same ▸ present⟩
  · rw [List.mem_append, List.mem_singleton]

theorem mem_remove : c ∈ (r.remove d).connections ↔ c ∈ r.connections ∧ c ≠ d := by
  simp [remove]

/-- A movement is about one connection only. -/
theorem mem_move_of_ne {m : Movement} (ne : m.connection ≠ c) :
    c ∈ (r.move m).connections ↔ c ∈ r.connections := by
  cases m with
  | came d =>
    have other : ¬c = d := Ne.symm ne
    rw [move, mem_add, or_iff_left other]
  | went d =>
    have other : c ≠ d := Ne.symm ne
    rw [move, mem_remove, and_iff_left other]

/-- The last movement of a connection decides whether it is on the roster. -/
theorem mem_after (r : Roster) (moves : List Movement) (c : ConnectionId) :
    c ∈ (r.after moves).connections ↔
      (moves.filter (·.connection = c)).getLast? = some (.came c) ∨
        (∀ m ∈ moves, m.connection ≠ c) ∧ c ∈ r.connections := by
  induction moves using List.reverseRecOn with
  | nil => simp [after]
  | append_singleton moves m ih =>
    rw [after_concat, List.filter_append, List.forall_mem_append, List.forall_mem_singleton]
    by_cases about : m.connection = c
    · have last : [m].filter (·.connection = c) = [m] := by simp [about]
      rw [last, List.getLast?_concat, Option.some.injEq, or_iff_left fun h => h.1.2 about]
      cases m with
      | came d =>
        obtain rfl : d = c := about
        rw [move, mem_add]
        exact iff_of_true (.inr rfl) rfl
      | went d =>
        obtain rfl : d = c := about
        rw [move, mem_remove]
        exact iff_of_false (fun h => h.2 rfl) nofun
    · have nothing : [m].filter (·.connection = c) = [] := by simp [about]
      rw [nothing, List.append_nil, mem_move_of_ne about, ih, and_iff_left about]

/-- If nobody is on a roster twice, nobody ever will be. -/
theorem nodup_after (distinct : r.connections.Nodup) (moves : List Movement) :
    (r.after moves).connections.Nodup := by
  induction moves using List.reverseRecOn with
  | nil => exact distinct
  | append_singleton moves m ih =>
    rw [after_concat]
    cases m with
    | came c =>
      rw [move, add]
      split
      · exact ih
      · rename_i absent
        exact List.nodup_append.mpr ⟨ih, List.pairwise_singleton .., fun a mem b here same =>
          absent (List.mem_singleton.mp here ▸ same ▸ mem)⟩
    | went c => exact ih.filter _

/-! ### In which order -/

theorem AddedAt.lt_length {place : Nat} (h : r.AddedAt moves place c) : place < moves.length :=
  (List.getElem?_eq_some_iff.mp h.1).1

/-- Who was added before stays so unless the last movement takes it off, and the last movement adds
whoever comes and is not there. -/
theorem addedAt_concat {m : Movement} {place : Nat} :
    r.AddedAt (moves ++ [m]) place c ↔
      r.AddedAt moves place c ∧ m ≠ .went c ∨
        place = moves.length ∧ m = .came c ∧ c ∉ (r.after moves).connections := by
  by_cases before : place < moves.length
  · have later : (moves ++ [m]).drop (place + 1) = moves.drop (place + 1) ++ [m] :=
      List.drop_append_of_le_length before
    rw [or_iff_left fun h => Nat.ne_of_lt before h.1, AddedAt, AddedAt,
      List.getElem?_append_left before, List.take_append_of_le_length (Nat.le_of_lt before), later,
      List.mem_append, List.mem_singleton, not_or, and_assoc, and_assoc, ne_comm]
  · rw [or_iff_right fun h => before h.1.lt_length]
    constructor
    · intro h
      have here : place = moves.length := by
        have := h.lt_length
        rw [List.length_append, List.length_singleton] at this
        omega
      subst here
      obtain ⟨came, absent, -⟩ := h
      rw [List.getElem?_concat_length, Option.some.injEq] at came
      rw [List.take_left] at absent
      exact ⟨rfl, came, absent⟩
    · rintro ⟨rfl, rfl, absent⟩
      refine ⟨List.getElem?_concat_length, ?_, ?_⟩
      · rwa [List.take_left]
      · simp

/-- Of those on the first roster the ones that never went come first, in their order. They are
followed by those who were added since, in the order of the movements that added them. -/
theorem exists_joins (r : Roster) (moves : List Movement) :
    ∃ joins : List (Nat × ConnectionId),
      (r.after moves).connections =
        r.connections.filter (.went · ∉ moves) ++ joins.map Prod.snd ∧
      joins.Pairwise (·.1 < ·.1) ∧
      ∀ place c, (place, c) ∈ joins ↔ r.AddedAt moves place c := by
  induction moves using List.reverseRecOn with
  | nil =>
    refine ⟨[], ?_, .nil, fun place c => ?_⟩
    · have everyone : r.connections.filter (Movement.went · ∉ []) = r.connections :=
        List.filter_eq_self.mpr fun c _ => decide_eq_true List.not_mem_nil
      rw [everyone, List.map_nil, List.append_nil]
      rfl
    · simp [AddedAt]
  | append_singleton moves m ih =>
    obtain ⟨joins, order, sorted, added⟩ := ih
    simp only [after_concat, addedAt_concat]
    cases m with
    | came c =>
      have stayed : r.connections.filter (.went · ∉ moves ++ [.came c]) =
          r.connections.filter (.went · ∉ moves) := by simp
      rw [stayed, move, add]
      by_cases present : c ∈ (r.after moves).connections
      · refine ⟨joins, ?_, sorted, fun place d => ?_⟩
        · rw [if_pos present, order]
        · rw [added, and_iff_left nofun, or_iff_left]
          rintro ⟨-, same, absent⟩
          cases same
          exact absent present
      · refine ⟨joins ++ [(moves.length, c)], ?_, ?_, fun place d => ?_⟩
        · rw [if_neg present, order, List.map_append, List.append_assoc]
          rfl
        · -- all who were added before have earlier places
          refine List.pairwise_append.mpr ⟨sorted, List.pairwise_singleton .., ?_⟩
          intro join mem last here
          rw [List.mem_singleton.mp here]
          exact ((added join.1 join.2).mp mem).lt_length
        · rw [List.mem_append, List.mem_singleton, added, and_iff_left nofun, Prod.mk.injEq,
            Movement.came.injEq]
          refine or_congr_right ⟨fun ⟨here, same⟩ => ⟨here, same.symm, same ▸ present⟩,
            fun ⟨here, same, _⟩ => ⟨here, same.symm⟩⟩
    | went c =>
      refine ⟨joins.filter (·.2 ≠ c), ?_, sorted.filter _, fun place d => ?_⟩
      · have left_over : (joins.filter (·.2 ≠ c)).map Prod.snd =
            (joins.map Prod.snd).filter (· ≠ c) := by
          rw [List.filter_map]
          rfl
        have stayed : (r.connections.filter (.went · ∉ moves)).filter (· ≠ c) =
            r.connections.filter (.went · ∉ moves ++ [.went c]) := by
          rw [List.filter_filter]
          refine List.filter_congr fun d _ => ?_
          simp [and_comm]
        rw [left_over, ← stayed, ← List.filter_append, ← order]
        rfl
      · rw [List.mem_filter, added, or_iff_left fun h => nomatch h.2.1]
        simp [ne_comm]

end Roster

/-! ### In the course of a run -/

/-- Who came or went according to a step. -/
def Participant.Step.movements : Participant.Step → List Movement
  | .apply frame => (frame.event?.bind SystemEvent.movement?).toList
  | _ => []

/-- Whether a step leaves the participant in its session, with no new roster. -/
def Participant.Step.incremental : Participant.Step → Bool
  | .apply frame => frame.event?.all SystemEvent.incremental
  | _ => true

namespace Participant

variable {p : Participant} {s : Session}

/-- An event in the session moves the roster as it says. -/
theorem session?_applySession (inside : p.session? = some s) {e : SessionEvent}
    (keeps : (SystemEvent.session e).incremental) :
    ∃ s', (p.applySession s e).1.session? = some s' ∧
      s'.roster = s.roster.after (SystemEvent.session e).movement?.toList := by
  cases e with
  | fragment f => exact ⟨s, inside, rfl⟩
  | someoneJoined c => exact ⟨_, rfl, rfl⟩
  | someoneLeft c => exact ⟨_, rfl, rfl⟩
  | rosterChanged roster => cases keeps
  | othersTransaction tx => exact ⟨_, rfl, rfl⟩
  | accepted tx =>
    dsimp only [applySession]
    rcases s.document.accept tx with ⟨document, _ | touched⟩
    · exact ⟨s, inside, rfl⟩
    · exact ⟨_, rfl, rfl⟩
  | rejected tx reason =>
    dsimp only [applySession]
    rcases s.document.reject tx with ⟨document, _ | touched⟩
    · exact ⟨s, inside, rfl⟩
    · exact ⟨_, rfl, rfl⟩

theorem session?_applyEvent (inside : p.session? = some s) {event : SystemEvent}
    (keeps : event.incremental) :
    ∃ s', (p.applyEvent event).1.session? = some s' ∧
      s'.roster = s.roster.after event.movement?.toList := by
  cases event with
  | connected connection => exact ⟨s, inside, rfl⟩
  | joinedSession id roster snapshot => cases keeps
  | leftSession => cases keeps
  | session e =>
    rw [applyEvent, inside]
    exact session?_applySession inside keeps

/-- Every step moves the roster as it says. -/
theorem session?_step (inside : p.session? = some s) {step : Step} (keeps : step.incremental) :
    ∃ s', (p.step step).session? = some s' ∧ s'.roster = s.roster.after step.movements := by
  cases step with
  | apply frame =>
    rw [Step.incremental] at keeps
    rw [Participant.step, Step.movements]
    cases found : frame.event? with
    | none =>
      obtain ⟨result, unchanged⟩ := apply_of_no_event found
      rw [unchanged p]
      exact ⟨s, inside, rfl⟩
    | some event =>
      rw [found] at keeps
      rw [apply_of_event found p]
      exact session?_applyEvent inside keeps
  | push edit => exact ⟨_, session?_push inside edit, rfl⟩
  | takeOutbound =>
    refine ⟨s, ?_, rfl⟩
    rw [Participant.step, takeOutbound]
    split <;> exact inside
  | encode command => exact ⟨s, inside, rfl⟩
  | takeInvalidated => exact ⟨s, inside, rfl⟩
  | takeRosterChange => exact ⟨s, inside, rfl⟩
  | requeue frame => exact ⟨s, inside, rfl⟩

theorem session?_run (inside : p.session? = some s) {steps : List Step}
    (keeps : ∀ step ∈ steps, step.incremental) :
    ∃ s', (p.run steps).session? = some s' ∧
      s'.roster = s.roster.after (steps.flatMap Step.movements) := by
  induction steps generalizing p s with
  | nil => exact ⟨s, inside, rfl⟩
  | cons step rest ih =>
    rw [List.forall_mem_cons] at keeps
    obtain ⟨s₁, inside₁, moved⟩ := session?_step inside keeps.1
    obtain ⟨s', inside', movedOn⟩ := ih inside₁ keeps.2
    refine ⟨s', inside', ?_⟩
    rw [movedOn, moved, List.flatMap_cons, Roster.after, Roster.after, Roster.after,
      List.foldl_append]

/-- A full roster is taken over as it is, by whoever is in a session then. -/
theorem session?_apply_full {frame : Frame} {event : SystemEvent}
    (found : frame.event? = some event) {full : Roster} (h : event.fullRoster? = some full)
    (inside : (p.apply frame).1.session?.isSome) :
    ∃ s, (p.apply frame).1.session? = some s ∧ s.roster = full := by
  rw [apply_of_event found p] at inside ⊢
  cases event with
  | connected connection => cases h
  | leftSession => cases h
  | joinedSession id roster snapshot =>
    cases h
    exact ⟨_, rfl, rfl⟩
  | session e =>
    cases e with
    | rosterChanged roster =>
      cases h
      rw [applyEvent] at inside ⊢
      cases before : p.session? with
      | some s => exact ⟨_, rfl, rfl⟩
      | none =>
        rw [before] at inside
        have outside : p.session?.isSome := inside
        rw [before] at outside
        cases outside
    | _ => cases h

/-- The roster that a participant keeps. Whatever it was before, let a frame bring a full roster to
a participant that is in a session then, and let anything follow that neither brings another one nor
leads out of the session. Then a connection is on the roster exactly if it came when it was
mentioned last, or was not mentioned since and is on the full roster. Those on the full roster that
never went come first, in the order that they have there, and are followed by those who were added
since, in the order of the movements that added them. Nobody is on it twice, unless the full roster
has someone twice. -/
theorem roster_kept (p : Participant) {frame : Frame} {event : SystemEvent}
    (found : frame.event? = some event) {full : Roster} (h : event.fullRoster? = some full)
    (inside : (p.apply frame).1.session?.isSome) {steps : List Step}
    (keeps : ∀ step ∈ steps, step.incremental) :
    let moves := steps.flatMap Step.movements
    let roster := ((p.apply frame).1.run steps).roster.connections
    (∀ c, c ∈ roster ↔
      (moves.filter (·.connection = c)).getLast? = some (.came c) ∨
        (∀ m ∈ moves, m.connection ≠ c) ∧ c ∈ full.connections) ∧
    (∃ joins : List (Nat × ConnectionId),
      roster = full.connections.filter (.went · ∉ moves) ++ joins.map Prod.snd ∧
      joins.Pairwise (·.1 < ·.1) ∧
      ∀ place c, (place, c) ∈ joins ↔ full.AddedAt moves place c) ∧
    (full.connections.Nodup → roster.Nodup) := by
  intro moves roster
  obtain ⟨s, entered, given⟩ := session?_apply_full found h inside
  obtain ⟨s', stayed, moved⟩ := session?_run entered keeps
  have kept : roster = (full.after moves).connections := by
    show ((p.apply frame).1.run steps).roster.connections = _
    rw [Participant.roster, stayed]
    dsimp only
    rw [moved, given]
  rw [kept]
  exact ⟨full.mem_after moves, full.exists_joins moves,
    fun distinct => Roster.nodup_after distinct moves⟩

/-- The relay sends the full roster of the session. -/
def rollCall : SystemEvent := .session (.rosterChanged ⟨[3, 5, 8]⟩)

/-- Connections come and go, one that is there comes again, and the participant makes an edit. -/
def comings : List Step :=
  let told (e : SessionEvent) : Step := .apply (Inbound.notice (.session e)).toFrame
  [told (.someoneLeft 5), told (.someoneJoined 9), .push (.retitle "a"), told (.someoneJoined 5),
    told (.someoneJoined 3), told (.someoneLeft 9), told (.fragment ⟨⟨0⟩, ⟨0⟩, ⟨0⟩, ⟨0⟩⟩),
    told (.someoneJoined 9)]

/-- The one who went and came back has lost its place. -/
theorem roster_kept_coming_back :
    let p := (create (.labelled 1)).join 7 ⟨[1]⟩ ⟨some ⟨"plan"⟩, [], []⟩
    let frame := (Inbound.notice rollCall).toFrame
    frame.event? = some rollCall ∧ rollCall.fullRoster? = some ⟨[3, 5, 8]⟩ ∧
      (p.apply frame).1.session?.isSome ∧ (∀ step ∈ comings, step.incremental) ∧
      let roster := ((p.apply frame).1.run comings).roster.connections
      roster = [3, 8, 5, 9] ∧ roster.Nodup ∧
        ∀ c, c ∈ roster ↔
          ((comings.flatMap Step.movements).filter (·.connection = c)).getLast? = some (.came c) ∨
            (∀ m ∈ comings.flatMap Step.movements, m.connection ≠ c) ∧ c ∈ [3, 5, 8] := by
  intro p frame
  have found : frame.event? = some rollCall := by decide +kernel
  have inside : (p.apply frame).1.session?.isSome := by decide +kernel
  have keeps : ∀ step ∈ comings, step.incremental := by decide +kernel
  obtain ⟨present, -, distinct⟩ := roster_kept p found rfl inside keeps
  exact ⟨found, rfl, inside, keeps, by decide +kernel, distinct (by decide), present⟩

end Participant

end Whiteboard
