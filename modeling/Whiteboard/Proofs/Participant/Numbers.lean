import Whiteboard.Proofs.Message.RoundTrip
import Whiteboard.Proofs.Participant.Runs

/-!
# The numbers of frames

Commands that are encoded and edits made inside a session draw their numbers from one counter, and
nothing else does. So the frames of a participant are numbered from one in the order in which they
are made, whatever becomes of them and through however many sessions.
-/

namespace Whiteboard.Participant

/-- A step makes one frame and uses up a number for it, or it makes none and uses up none. -/
theorem step_cases (p : Participant) (s : Step) :
    (s.made p = [] ∧ s.commands p = [] ∧ (p.step s).lastId = p.lastId) ∨
    ∃ command, s.commands p = [command] ∧ s.made p = [Request.toFrame ⟨p.nextId, command⟩] ∧
      (p.step s).lastId = p.nextId := by
  cases s with
  | encode command => exact .inr ⟨command, rfl, rfl, rfl⟩
  | apply frame => exact .inl ⟨rfl, rfl, p.lastId_apply frame⟩
  | push edit =>
    have number := p.lastId_push edit
    cases h : p.session? with
    | none =>
      left
      rw [h] at number
      exact ⟨queued_push_of_none h edit, by simp [Step.commands, h], number⟩
    | some session =>
      right
      rw [h] at number
      exact ⟨_, by simp [Step.commands, h], queued_push_of_some h edit, number⟩
  | takeOutbound =>
    left
    refine ⟨rfl, rfl, ?_⟩
    simp only [step, takeOutbound]
    split <;> rfl
  | _ => exact .inl ⟨rfl, rfl, rfl⟩

/-- A run that begins at number `n` makes the frames of its commands with the numbers from there. -/
theorem made_eq {n : Nat} (steps : List Step) {p : Participant} (begins : p.lastId.toNat = n)
    (room : n + (gather Step.made p steps).length < 2 ^ 32) :
    gather Step.made p steps = (gather Step.commands p steps).mapIdx
        (fun k command => Request.toFrame ⟨.ofNat (n + k + 1), command⟩) ∧
      (p.run steps).lastId.toNat = n + (gather Step.made p steps).length := by
  induction steps generalizing p n with
  | nil => exact ⟨rfl, begins⟩
  | cons s rest ih =>
    simp only [gather_cons, run_cons]
    rw [gather_cons, List.length_append] at room
    rcases p.step_cases s with ⟨made, commands, number⟩ | ⟨command, commands, made, number⟩
    · rw [made] at room ⊢
      rw [commands]
      simp only [List.nil_append, List.length_nil, Nat.zero_add] at room ⊢
      exact ih (number ▸ begins) room
    · rw [made] at room ⊢
      simp only [List.length_singleton] at room
      have next : p.nextId.toNat = n + 1 := by
        rw [p.toNat_nextId (by omega), begins]
      obtain ⟨frames, last⟩ := ih (p := p.step s) (number ▸ next) (by omega)
      have here : p.nextId = .ofNat (n + 1) := by
        rw [← next, UInt32.ofNat_toNat]
      refine ⟨?_, ?_⟩
      · rw [commands, frames, here]
        simp only [List.singleton_append, List.mapIdx_cons, Nat.add_right_comm n 1]
        rfl
      · rw [last]
        simp only [List.length_append, List.length_singleton]
        omega

theorem storable_request {command : Command} (h : Frame.Storable command) (id : CommandId) :
    Frame.Storable (Request.mk id command) := ⟨trivial, h, trivial⟩

theorem ofNat_succ_lt {j k : Nat} (lt : j < k) (room : k < 2 ^ 32 - 1) :
    UInt32.ofNat (j + 1) < UInt32.ofNat (k + 1) := by
  rw [UInt32.lt_iff_toNat_lt, UInt32.toNat_ofNat_of_lt' (by show _ < 2 ^ 32; omega),
    UInt32.toNat_ofNat_of_lt' (by show _ < 2 ^ 32; omega)]
  omega

/-- The frames of a participant are numbered from one. Take any run of a new participant that makes
fewer than `2 ^ 32 - 1` frames, of commands that memory can hold. Then

* reading the `k`-th frame gives the command for which it was made, with the number `k`;
* the number given out last is the number of frames made;
* of two frames the later one has the greater number;
* a step that neither encodes a command nor makes an edit inside a session makes no frame, and
  leaves the number given out last as it is. -/
theorem frames_numbered (ids : IdSource) (steps : List Step) :
    let p := (create ids).run steps
    let made := gather Step.made (create ids) steps
    let commands := gather Step.commands (create ids) steps
    made.length < 2 ^ 32 - 1 → (∀ command ∈ commands, Frame.Storable command) →
      made.map Request.ofFrame = commands.mapIdx (fun k command => .ok ⟨.ofNat (k + 1), command⟩) ∧
      p.lastId.toNat = made.length ∧
      (made.Pairwise fun earlier later => ∀ r q, Request.ofFrame earlier = .ok r →
        Request.ofFrame later = .ok q → r.id < q.id) ∧
      ∀ s, (∀ command, s ≠ .encode command) → (∀ edit, s = .push edit → p.session? = none) →
        s.made p = [] ∧ (p.step s).lastId = p.lastId := by
  intro p made commands few storable
  have room : 0 + made.length < 2 ^ 32 := by omega
  obtain ⟨frames, last⟩ := made_eq (n := 0) (p := create ids) steps rfl room
  rw [Nat.zero_add] at last
  have frames : made = commands.mapIdx
      fun k command => Request.toFrame ⟨.ofNat (k + 1), command⟩ := by
    simpa only [Nat.zero_add] using frames
  have read : made.map Request.ofFrame =
      commands.mapIdx (fun k command => .ok ⟨.ofNat (k + 1), command⟩) := by
    refine (List.mapIdx_eq_iff.mpr fun k => ?_).symm
    rw [frames, List.getElem?_map, List.getElem?_mapIdx]
    cases h : commands[k]? with
    | none => rfl
    | some command =>
      have fits := storable_request (storable command (List.mem_of_getElem? h)) (.ofNat (k + 1))
      exact congrArg some (Request.ofFrame_toFrame fits)
  refine ⟨read, last, ?_, ?_⟩
  · refine List.pairwise_iff_getElem.mpr fun j k hj hk lt r q hr hq => ?_
    have number : ∀ i (hi : i < made.length) r, Request.ofFrame made[i] = .ok r →
        r.id = .ofNat (i + 1) := by
      intro i hi r hr
      have there := congrArg (·[i]?) read
      simp only [List.getElem?_map, List.getElem?_mapIdx, List.getElem?_eq_getElem hi] at there
      grind
    rw [number j hj r hr, number k hk q hq]
    exact ofNat_succ_lt lt (by omega)
  · intro s notEncode notInside
    rcases p.step_cases s with ⟨none_made, -, same⟩ | ⟨command, hcommands, -, -⟩
    · exact ⟨none_made, same⟩
    · cases s with
      | encode command => exact absurd rfl (notEncode command)
      | push edit => simp [Step.commands, notInside edit rfl] at hcommands
      | _ => cases hcommands

/-- Two sessions are entered one after the other, with edits inside and outside of them. -/
def twoSessions : List Step :=
  [.encode (.joinSession 7), .push (.retitle "draft"),
    .apply (Inbound.notice (.joinedSession 7 ⟨[3]⟩ ⟨some ⟨"plan"⟩, [], []⟩)).toFrame,
    .push (.retitle "a"), .takeOutbound, .apply (Inbound.notice .leftSession).toFrame,
    .push (.retitle "b"), .requeue [0], .encode (.session (.fragment ⟨⟨0⟩, ⟨0⟩, ⟨1⟩, ⟨1⟩⟩)),
    .apply (Inbound.notice (.joinedSession 8 ⟨[3, 4]⟩ .empty)).toFrame, .push (.retitle "c")]

theorem frames_numbered_two_sessions :
    let p := (create (.labelled 1)).run twoSessions
    let made := gather Step.made (create (.labelled 1)) twoSessions
    let commands := gather Step.commands (create (.labelled 1)) twoSessions
    made.length < 2 ^ 32 - 1 ∧ (∀ command ∈ commands, Frame.Storable command) ∧
      made.length = 4 ∧ p.lastId.toNat = 4 ∧
      made.map Request.ofFrame =
        commands.mapIdx (fun k command => .ok ⟨.ofNat (k + 1), command⟩) ∧
      (Step.takeOutbound.made p = [] ∧ (p.step .takeOutbound).lastId = p.lastId) := by
  intro p made commands
  have four : made.length = 4 := by decide +kernel
  have few : made.length < 2 ^ 32 - 1 := by omega
  have storable : ∀ command ∈ commands, Frame.Storable command := by decide +kernel
  obtain ⟨read, last, -, silent⟩ := frames_numbered (.labelled 1) twoSessions few storable
  exact ⟨few, storable, four, last.trans four, read, silent .takeOutbound nofun nofun⟩

end Whiteboard.Participant
