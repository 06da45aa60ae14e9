import Whiteboard.Sync.Feed

/-!
# What the feed owes a subscriber

A subscriber receives the events sent since it subscribed, in order. At every moment some of them
are still due: an event that is sent joins them at their end, and one that is received leaves them
at their front. Only a subscriber who is told that events are gone does not receive all that is due.
-/

namespace Whiteboard.Feed

open Std

/-- No more events are kept than were sent. -/
def Consistent (f : Feed) : Prop := f.kept.length ≤ f.sent

/-- The given events are due to a subscriber. The feed may not keep all of them any more. -/
structure Owes (f : Feed) (id : SubscriptionId) (due : List Routed) : Prop where
  length_le : due.length ≤ f.sent
  place : f.subscribers[id]? = some (f.sent - due.length)
  -- the events due and the events kept are both the latest ones, so that one list ends the other
  latest : due <:+ f.kept ∨ f.kept <:+ due
  consistent : f.Consistent

variable {f : Feed} {id : SubscriptionId} {due : List Routed}

theorem consistent_of_create {capacity : Nat} (h : create capacity = .ok f) : f.Consistent := by
  unfold create at h
  repeat' split at h
  all_goals cases h
  exact Nat.le_refl 0

theorem Consistent.send (h : f.Consistent) (e : Routed) : (f.send e).Consistent := by
  unfold Consistent Feed.send at *
  split
  · exact h
  · simp only [List.length_drop, List.length_append, List.length_singleton]
    omega

theorem Consistent.receive (h : f.Consistent) (id : SubscriptionId) :
    (f.receive id).1.Consistent := by
  rw [Feed.receive]
  cases f.subscribers[id]? with
  | none => exact h
  | some next =>
    dsimp only
    split
    · exact h
    · split <;> exact h

/-- Nothing is due to a new subscriber. -/
theorem owes_subscribe (h : f.Consistent) : f.subscribe.1.Owes f.subscribe.2 [] where
  length_le := Nat.zero_le _
  place := ExtTreeMap.getElem?_insert_self
  latest := .inl List.nil_suffix
  consistent := h

theorem latest_drop {all kept : List Routed} (latest : due <:+ all ∨ all <:+ due)
    (rest : kept <:+ all) : due <:+ kept ∨ kept <:+ due := by
  rcases latest with inside | outside
  · exact List.suffix_or_suffix_of_suffix inside rest
  · exact .inr (rest.trans outside)

theorem send_of_place {place : Nat} (h : f.subscribers[id]? = some place) (e : Routed) :
    f.send e = { f with
      sent := f.sent + 1
      kept := (f.kept ++ [e]).drop ((f.kept ++ [e]).length - f.capacity) } := by
  have someone : f.subscribers.isEmpty ≠ true := by
    intro nobody
    rw [ExtTreeMap.isEmpty_iff.mp nobody] at h
    simp at h
  simp [Feed.send, someone]

/-- An event that is sent is due to every subscriber. -/
theorem Owes.send (h : f.Owes id due) (e : Routed) : (f.send e).Owes id (due ++ [e]) := by
  have consistent := h.consistent.send e
  have length : (due ++ [e]).length = due.length + 1 := List.length_append
  rw [send_of_place h.place] at consistent ⊢
  refine ⟨?_, ?_, ?_, consistent⟩
  · rw [length]
    exact Nat.succ_le_succ h.length_le
  · rw [length, Nat.add_sub_add_right]
    exact h.place
  · refine latest_drop ?_ (List.drop_suffix _ _)
    rcases h.latest with ⟨gone, inside⟩ | ⟨missing, outside⟩
    · exact .inl ⟨gone, by rw [← List.append_assoc, inside]⟩
    · exact .inr ⟨missing, by rw [← List.append_assoc, outside]⟩

theorem Owes.foldl_send (h : f.Owes id due) (events : List Routed) :
    (events.foldl Feed.send f).Owes id (due ++ events) := by
  induction events generalizing f due with
  | nil => simpa using h
  | cons e rest ih => simpa using ih (h.send e)

/-- A subscriber is told that events are gone, or receives the first event that is due, or nothing
if nothing is due. -/
theorem Owes.receive_cases (h : f.Owes id due) :
    (∃ n, (f.receive id).2 = .missed n) ∨ (due = [] ∧ f.receive id = (f, .empty)) ∨
      ∃ e rest f', due = e :: rest ∧ f.receive id = (f', .event e) ∧ f'.Owes id rest := by
  have bounded := h.length_le
  have consistent : f.kept.length ≤ f.sent := h.consistent
  rw [Feed.receive, h.place]
  dsimp only
  by_cases slow : f.kept.length < due.length
  · have gone : f.sent - due.length < f.sent - f.kept.length := by omega
    rw [if_pos gone]
    exact .inl ⟨_, rfl⟩
  · right
    have here : ¬f.sent - due.length < f.sent - f.kept.length := by omega
    rw [if_neg here]
    -- all that is due is kept, so that the place is where it begins among the events kept
    obtain ⟨before, kept⟩ : due <:+ f.kept := by
      rcases h.latest with inside | outside
      · exact inside
      · have length := outside.length_le
        have same : f.kept = due := outside.eq_of_length (by omega)
        exact same ▸ List.suffix_rfl
    have next : f.kept[f.sent - due.length - (f.sent - f.kept.length)]? = due[0]? := by
      have length : before.length + due.length = f.kept.length := by
        rw [← kept, List.length_append]
      have offset : f.sent - due.length - (f.sent - f.kept.length) = before.length := by omega
      rw [offset, ← kept, List.getElem?_append_right (Nat.le_refl _), Nat.sub_self]
    rw [next]
    cases due with
    | nil => exact .inl ⟨rfl, rfl⟩
    | cons e rest =>
      refine .inr ⟨e, rest, _, rfl, rfl, Nat.le_of_succ_le bounded, ?_, ?_, h.consistent⟩
      · have place : f.sent - (e :: rest).length + 1 = f.sent - rest.length := by
          simp only [List.length_cons] at bounded ⊢
          omega
        rw [place]
        exact ExtTreeMap.getElem?_insert_self
      · refine .inl ⟨before ++ [e], ?_⟩
        rw [List.append_assoc]
        exact kept

theorem Owes.receive_other (h : f.Owes id due) {other : SubscriptionId} (ne : other ≠ id) :
    (f.receive other).1.Owes id due := by
  have moved : ∀ next, (f.subscribers.insert other next)[id]? = f.subscribers[id]? := by
    intro next
    rw [ExtTreeMap.getElem?_insert, if_neg]
    simpa using ne
  rw [Feed.receive]
  cases f.subscribers[other]? with
  | none => exact h
  | some next =>
    dsimp only
    split
    · exact ⟨h.length_le, (moved _).trans h.place, h.latest, h.consistent⟩
    · split
      · exact ⟨h.length_le, (moved _).trans h.place, h.latest, h.consistent⟩
      · exact h

end Whiteboard.Feed
