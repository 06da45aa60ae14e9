import Whiteboard.Proofs.Sync.Callers

/-!
# When the time of a caller is up

A caller who looks when its time is up gives up its number at once, if nothing settled it. But the
timer may also fire first, and the caller may come to give up its number only after other turns. If
the number was settled meanwhile, then the caller is told how, as if it had come in time. There is
one exception. If the number was settled and is in use again, then the caller takes the new use for
its own: it is told that its time was up, and whoever has the number now is left without a reply.
-/

namespace Whiteboard.Desk

open Whiteboard.Action

variable {C L M : Type} {d : Desk C L M} {k : Nat} {wait : Wait}

/-- The desk after the timer of a caller has fired and the caller has done what then has to be
done. -/
def expire (d : Desk C L M) (k : Nat) : Desk C L M :=
  match d.callers[k]? with
  | some (.waiting wait) =>
    match Client.expire wait d.client with
    | .ok (some outcome) client => ⟨client, d.callers.set k (.told wait.reply outcome)⟩
    | .ok none client | .error _ client => { d with client }
  | _ => d

theorem expire_of_waiting (h : d.callers[k]? = some (.waiting wait)) :
    (d.expire k).replies = (d.replies.expire wait.reply).1 ∧
      (d.expire k).callers =
        match (d.replies.expire wait.reply).2 with
        | some outcome => d.callers.set k (.told wait.reply outcome)
        | none => d.callers := by
  rw [expire, h]
  dsimp only
  rw [Client.expire_eq]
  cases (d.client.replies.expire wait.reply).2 with
  | some outcome => exact ⟨rfl, rfl⟩
  | none => exact ⟨rfl, rfl⟩

/-- If the number is not pending any more, then the caller is told what it is in for. -/
theorem expire_of_gone (h : d.callers[k]? = some (.waiting wait))
    {verdict? : Option (Except SyncError SystemEvent)} (holds : d.replies.Holds wait.reply verdict?)
    (gone : d.replies.pending[wait.reply.id]? = none) :
    ∃ outcome, verdict? = some outcome ∧ (d.expire k).replies = d.replies ∧
      (d.expire k).callers = d.callers.set k (.told wait.reply outcome) := by
  obtain ⟨replies, callers⟩ := expire_of_waiting h
  have expired := Replies.expire_of_not_pending (Replies.isPending_eq_false_iff.mpr gone)
  rw [holds.outcome?_eq] at expired
  cases verdict? with
  | none =>
    rw [(holds.pending wait.reply.id).mpr ⟨rfl, rfl⟩] at gone
    cases gone
  | some outcome =>
    rw [expired] at replies callers
    exact ⟨outcome, rfl, replies, callers⟩

/-- If the number is pending, then the caller is told that its time is up, and whoever has the box
that the number leads to is left without a reply. -/
theorem expire_of_in_use (sound : d.Sound) (h : d.callers[k]? = some (.waiting wait)) {box : Nat}
    (pending : d.replies.pending[wait.reply.id]? = some box) :
    (d.expire k).replies = (d.replies.forget wait.reply.id).1 ∧
      (d.expire k).callers =
        d.callers.set k (.told wait.reply (.error (.timeout wait.reply.id))) ∧
      ∀ (j : Nat) (caller : Caller), d.callers[j]? = some caller → caller.told? = none →
        caller.reply.box = box →
          (d.expire k).replies.outcome? caller.reply = some (.error .abandoned) := by
  obtain ⟨replies, callers⟩ := expire_of_waiting h
  have isPending : d.replies.isPending wait.reply.id := by
    rw [Replies.isPending, Std.ExtTreeMap.contains_eq_isSome_getElem?, pending]
    rfl
  rw [Replies.expire_of_pending isPending] at replies callers
  refine ⟨replies, callers, fun j caller hj untold same => ?_⟩
  obtain ⟨verdict?, awaits⟩ := sound.callers hj
  unfold Caller.Awaits at awaits
  rw [untold] at awaits
  rw [← same] at pending
  obtain ⟨rfl, number⟩ := (awaits.pending wait.reply.id).mp pending
  have final : BoxContents.abandoned ≠ .awaited := by
    intro same
    cases same
  have left := awaits.remove wait.reply.id final
  rw [if_pos number] at left
  rw [replies]
  exact left.outcome?_eq

variable [Core C]

/-- A caller who looks too late does in one turn what it does when its timer fires. -/
theorem take_poll_of_over (h : d.callers[k]? = some (.waiting wait))
    (nothing : d.replies.outcome? wait.reply = none) (late : wait.isOver d.client.now) :
    d.take (.poll k) = d.expire k := by
  have same : Client.poll wait d.client = Client.expire wait d.client := by
    rw [Client.poll_eq, Client.expire_eq, Replies.poll, Replies.pollNotes, nothing]
    dsimp only
    rw [if_pos late, if_pos late]
  rcases expired : Client.expire wait d.client with ⟨_ | outcome, client⟩ | ⟨fault, client⟩ <;>
    simp only [take, look, expire, h, same, expired]

/-- A caller who waits goes on to wait as long as it does not look. -/
theorem waiting_take (h : d.callers[k]? = some (.waiting wait)) {turn : Turn}
    (unpolled : turn ≠ .poll k) : (d.take turn).callers[k]? = some (.waiting wait) := by
  have served : ∀ {d'}, d.Served d' → d'.callers[k]? = some (.waiting wait) := by
    intro d' h'
    have inside : k < d.callers.length := (List.getElem?_eq_some_iff.mp h).1
    cases h' with
    | came id free callers replies => rw [callers, List.getElem?_append_left inside, h]
    | left id free callers replies => rw [callers, h]
    | unserved callers replies => rw [callers, h]
  cases turn with
  | register id => exact served (d.served_register id)
  | submit command mode => exact served (d.served_submit command mode)
  | wait j limit =>
    rw [take, List.getElem?_modify, h]
    by_cases here : j = k <;> simp [here, Caller.begin]
  | poll j =>
    have other : j ≠ k := fun same => unpolled (congrArg Turn.poll same)
    by_cases waiting : ∃ wait, d.callers[j]? = some (.waiting wait)
    · obtain ⟨wait', hj⟩ := waiting
      rw [(take_poll_of_waiting hj).2]
      split
      · rw [List.getElem?_set_ne other, h]
      · exact h
    · rw [take_poll_of_not_waiting fun wait hj => waiting ⟨wait, hj⟩, h]
  | _ => exact h

theorem waiting_takeAll {turns : List Turn} (h : d.callers[k]? = some (.waiting wait))
    (unpolled : .poll k ∉ turns) : (d.takeAll turns).callers[k]? = some (.waiting wait) := by
  induction turns generalizing d with
  | nil => exact h
  | cons turn rest ih =>
    have here : turn ≠ .poll k := fun same => unpolled (same ▸ List.mem_cons_self)
    exact ih (waiting_take h here) fun later => unpolled (List.mem_cons_of_mem _ later)

/-- What becomes of a caller whose timer fires at some point `d` of a run, and who comes to act on
it at a later point `e`.

* If its number is not pending any more, then the caller is told the first verdict, and nothing else
  changes.
* If its number is pending, then the caller is told that its time is up, and the number is given up.
  If it is the number's first use still, then there was no verdict. Otherwise there was one, and the
  caller who has the number now is left without a reply. -/
theorem expire_after_turns (c : Client C L M) (before between : List Turn) :
    let d := (opening c).takeAll before
    let e := d.takeAll between
    d.callers[k]? = some (.waiting wait) → d.IsOpen (.waiting wait) → .poll k ∉ between →
      match e.replies.pending[wait.reply.id]? with
      | none => ∃ outcome, firstVerdict? k d between = some outcome ∧
        (e.expire k).replies = e.replies ∧
        (e.expire k).callers = e.callers.set k (.told wait.reply outcome)
      | some box => (firstVerdict? k d between = none ↔ box = wait.reply.box) ∧
        (e.expire k).replies = (e.replies.forget wait.reply.id).1 ∧
        (e.expire k).callers =
          e.callers.set k (.told wait.reply (.error (.timeout wait.reply.id))) ∧
        ∀ (j : Nat) (caller : Caller), e.callers[j]? = some caller → caller.told? = none →
          caller.reply.box = box →
            (e.expire k).replies.outcome? caller.reply = some (.error .abandoned) := by
  intro d e hk isOpen unpolled
  have sound : d.Sound := sound_takeAll (sound_opening c) before
  have still : e.callers[k]? = some (.waiting wait) := waiting_takeAll hk unpolled
  -- what the caller is in for at `e` is the first verdict since `d`
  have holds : e.replies.Holds wait.reply (firstVerdict? k d between) := by
    obtain ⟨caller, there, -, awaits⟩ :=
      awaits_takeAll sound hk (sound.awaits_of_open hk isOpen) between
    obtain rfl := Option.some.inj (still.symm.trans there)
    rw [Option.none_or] at awaits
    exact awaits
  cases pending : e.replies.pending[wait.reply.id]? with
  | none => exact expire_of_gone still holds pending
  | some box =>
    refine ⟨⟨fun open' => ?_, ?_⟩, expire_of_in_use (sound_takeAll sound between) still pending⟩
    · have own := (holds.pending wait.reply.id).mpr ⟨open', rfl⟩
      exact Option.some.inj (pending.symm.trans own)
    · rintro rfl
      exact ((holds.pending wait.reply.id).mp pending).1

end Whiteboard.Desk
